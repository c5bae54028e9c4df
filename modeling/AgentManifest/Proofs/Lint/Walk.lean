import Mathlib.Logic.Relation
import Mathlib.Tactic.Lemma
import AgentManifest.Lint.Depth

/-!
# Walks over nested objects

The depth of a value is defined by recursion over the value, but it is found by a walk that keeps the
objects still to be visited in a store. What such a walk knows, the greatest depth that it has seen
and what lies below the objects in the store, stays the same from visit to visit, whichever object
is visited next. So every walk ends, and all walks end with the depth.
-/

namespace AgentManifest.Lint

open Json (Value Members)
open Relation (ReflTransGen)

/-! ## Depth by recursion -/

mutual

/-- The depth of a value: an object lies one level above the deepest of its values, while an empty
one and whatever is no object have no level below them. -/
def depth : Value → Nat
  | .object ms => if ms.isEmpty then 0 else greatestDepth ms + 1
  | _ => 0

/-- The greatest depth among the values of members. -/
def greatestDepth : List (String × Value) → Nat
  | [] => 0
  | (_, v) :: ms => max (depth v) (greatestDepth ms)

end

/-! ## Walks in any order -/

/-- One visit of a walk, which has the greatest depth seen so far and the objects that are pending.
Any of these is taken off, and the objects among its members are put to the others at any places. -/
inductive Visit : Nat × Pending → Nat × Pending → Prop where
  | take {deepest depth : Nat} {ms : Members} {stack rest stack' : Pending} :
    stack.Perm ((ms, depth) :: rest) →
    stack'.Perm (Pending.pushObjects (depth + 1) ms rest) →
    Visit (deepest, stack) (if ms.isEmpty then deepest else max deepest (depth + 1), stack')

/-- The greatest depth below pending objects. -/
def Pending.reach : Pending → Nat
  | [] => 0
  | (ms, depth) :: rest => max (if ms.isEmpty then 0 else depth + greatestDepth ms + 1) (reach rest)

/-- The greatest depth that a walk has seen or is going to see. -/
def outlook (s : Nat × Pending) : Nat := max s.1 s.2.reach

lemma Pending.reach_perm {stack stack' : Pending} (h : stack.Perm stack') :
    stack.reach = stack'.reach := by
  induction h with
  | nil => rfl
  | cons p _ ih => rw [reach, reach, ih]
  | swap p q stack => simp only [reach, Nat.max_left_comm]
  | trans _ _ ih ih' => exact ih.trans ih'

lemma Pending.weight_perm {stack stack' : Pending} (h : stack.Perm stack') :
    stack.weight = stack'.weight := by
  induction h with
  | nil => rfl
  | cons p _ ih => rw [weight, weight, ih]
  | swap p q stack => simp only [weight, Nat.add_left_comm]
  | trans _ _ ih ih' => exact ih.trans ih'

/-- Members at a depth reach as far down as the deepest of their values. -/
lemma Pending.reach_pushObjects (depth : Nat) (ms : Members) (stack : Pending) :
    max depth (pushObjects depth ms stack).reach =
      max (depth + greatestDepth ms) stack.reach := by
  induction ms generalizing stack with
  | nil => rfl
  | cons m ms ih =>
    obtain ⟨name, v⟩ := m
    cases v with
    | object inner =>
      rw [pushObjects, ih, reach, greatestDepth, Lint.depth]
      split
      case isTrue => omega
      case isFalse => omega
    | _ => simp [pushObjects, ih, greatestDepth, Lint.depth]

/-- What is taken off is made up for by what is seen and put to the others. -/
lemma outlook_visit (deepest depth : Nat) (ms : Members) (rest : Pending) :
    outlook (if ms.isEmpty then deepest else max deepest (depth + 1),
        Pending.pushObjects (depth + 1) ms rest) =
      outlook (deepest, (ms, depth) :: rest) := by
  have hpush := Pending.reach_pushObjects (depth + 1) ms rest
  cases ms with
  | nil => simp [outlook, Pending.pushObjects, Pending.reach]
  | cons m ms =>
    -- the level of the object itself is what is seen, so its members start from there
    simp only [outlook, Pending.reach, List.isEmpty_cons, Bool.false_eq_true, if_false]
    omega

/-- A visit keeps the outlook. -/
lemma Visit.outlook_eq {s t : Nat × Pending} (h : Visit s t) : outlook s = outlook t := by
  cases h with
  | @take deepest depth ms stack rest stack' hstack hstack' =>
    calc outlook (deepest, stack)
        = outlook (deepest, (ms, depth) :: rest) :=
          congrArg (max deepest) (Pending.reach_perm hstack)
      _ = outlook (_, Pending.pushObjects (depth + 1) ms rest) :=
          (outlook_visit deepest depth ms rest).symm
      _ = outlook (_, stack') := congrArg (max _) (Pending.reach_perm hstack').symm

/-- A visit leaves fewer visits to make, though it may leave more objects pending. -/
lemma Visit.weight_lt {s t : Nat × Pending} (h : Visit s t) : t.2.weight < s.2.weight := by
  cases h with
  | @take deepest depth ms stack rest stack' hstack hstack' =>
    rw [Pending.weight_perm hstack', Pending.weight_perm hstack, Pending.weight_pushObjects,
      Pending.weight]
    omega

/-- No walk goes on for ever. -/
lemma wellFounded_visit : WellFounded fun t s => Visit s t :=
  Subrelation.wf Visit.weight_lt (InvImage.wf (fun s : Nat × Pending => s.2.weight) Nat.lt_wfRel.wf)

/-- A walk goes on as long as there are pending objects. -/
lemma exists_visit {s : Nat × Pending} (h : s.2 ≠ []) : ∃ t, Visit s t := by
  obtain ⟨deepest, stack⟩ := s
  cases stack with
  | nil => exact absurd rfl h
  | cons p rest => exact ⟨_, .take (.refl _) (.refl _)⟩

/-- A walk keeps the outlook, however many visits it makes. -/
lemma outlook_of_visits {s t : Nat × Pending} (h : ReflTransGen Visit s t) :
    outlook s = outlook t := by
  induction h with
  | refl => rfl
  | tail _ hvisit ih => exact ih.trans hvisit.outlook_eq

/-! ## The walk with a stack -/

/-- The walk that takes the objects from the top of a stack is one of these. -/
lemma visits_deepestFrom (deepest : Nat) (stack : Pending) :
    ReflTransGen Visit (deepest, stack) (deepestFrom deepest stack, []) := by
  induction deepest, stack using deepestFrom.induct with
  | case1 deepest =>
    rw [deepestFrom]
  | case2 deepest ms depth rest ih =>
    rw [deepestFrom]
    exact .head (.take (.refl _) (.refl _)) ih

lemma outlook_root (root : Members) : outlook (0, [(root, 0)]) = depth (.object root) := by
  simp [outlook, Pending.reach, depth]

/-- The depth that the walk with a stack finds is the depth by recursion. On an object, the walk is
one of many: no walk goes on for ever, and whichever object a walk has visited next so far, either
it can go on or it has found the depth. -/
theorem objectDepth_eq_depth (v : Value) :
    objectDepth v = depth v ∧
      ∀ root, v = .object root →
        ReflTransGen Visit (0, [(root, 0)]) (objectDepth v, []) ∧
        Acc (fun t s => Visit s t) (0, [(root, 0)]) ∧
        ∀ s, ReflTransGen Visit (0, [(root, 0)]) s → (∃ t, Visit s t) ∨ s = (depth v, []) := by
  have hends (root : Members) (deepest : Nat)
      (h : ReflTransGen Visit (0, [(root, 0)]) (deepest, [])) : deepest = depth (.object root) := by
    rw [← outlook_root, outlook_of_visits h]
    exact (Nat.max_zero deepest).symm
  constructor
  · cases v with
    | object root => exact hends root _ (visits_deepestFrom 0 [(root, 0)])
    | _ => rfl
  · rintro root rfl
    refine ⟨visits_deepestFrom 0 [(root, 0)], wellFounded_visit.apply _, ?_⟩
    rintro ⟨deepest, stack⟩ hs
    by_cases hstack : stack = []
    · subst hstack
      rw [hends root deepest hs]
      exact .inr rfl
    · exact .inl (exists_visit hstack)

end AgentManifest.Lint
