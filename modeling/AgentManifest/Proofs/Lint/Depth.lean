import Mathlib.Tactic.Lemma
import AgentManifest.Lint.Depth

/-!
# The depth of nested objects

The walk with a stack finds how long a chain of names, each under the one before it, can be.
-/

namespace AgentManifest.Lint

open Json (Value Members)

/-- Names that lead down from a value, each of a member of the object under the one before it. -/
inductive KeyChain : Value → List String → Prop where
  | nil (v : Value) : KeyChain v []
  | cons {ms : Members} {name : String} {v : Value} {names : List String} :
    (name, v) ∈ ms → KeyChain v names → KeyChain (.object ms) (name :: names)

/-- No chain of names from an object that lies at a depth goes deeper than a limit. -/
def Within (limit : Nat) (p : Members × Nat) : Prop :=
  ∀ names ≠ [], KeyChain (.object p.1) names → p.2 + names.length ≤ limit

/-- Chains from an object go on from the objects among its members. -/
lemma within_iff {limit depth : Nat} {ms : Members} :
    Within limit (ms, depth) ↔
      (ms ≠ [] → depth + 1 ≤ limit) ∧
        ∀ name inner, (name, .object inner) ∈ ms → Within limit (inner, depth + 1) := by
  constructor
  · intro h
    constructor
    · intro hne
      obtain ⟨⟨name, v⟩, hm⟩ := List.exists_mem_of_ne_nil ms hne
      exact h [name] (List.cons_ne_nil _ _) (.cons hm (.nil v))
    · intro name inner hm names _ hchain
      have hle := h (name :: names) (List.cons_ne_nil _ _) (.cons hm hchain)
      rw [List.length_cons] at hle
      dsimp only at hle ⊢
      omega
  · rintro ⟨hmember, hinner⟩ names hne hchain
    cases hchain with
    | nil => exact absurd rfl hne
    | cons hm htail =>
      have hmember := hmember (List.ne_nil_of_mem hm)
      cases htail with
      | nil => exact hmember
      | @cons inner name' v' names' hm' htail' =>
        have hle := hinner _ inner hm (name' :: names') (List.cons_ne_nil _ _) (.cons hm' htail')
        simp only [List.length_cons] at hle ⊢
        omega

lemma Pending.mem_pushObjects {depth : Nat} {ms : Members} {stack : Pending} {p : Members × Nat} :
    p ∈ Pending.pushObjects depth ms stack ↔
      p ∈ stack ∨ ∃ name inner, (name, .object inner) ∈ ms ∧ p = (inner, depth) := by
  induction ms generalizing stack with
  | nil => simp [Pending.pushObjects]
  | cons m ms ih =>
    obtain ⟨name, v⟩ := m
    cases v with
    | object inner =>
      rw [Pending.pushObjects, ih, List.mem_cons]
      constructor
      · rintro ((rfl | hp) | ⟨name', inner', hm, rfl⟩)
        · exact .inr ⟨name, inner, List.mem_cons_self, rfl⟩
        · exact .inl hp
        · exact .inr ⟨name', inner', List.mem_cons_of_mem _ hm, rfl⟩
      · rintro (hp | ⟨name', inner', hm, rfl⟩)
        · exact .inl (.inr hp)
        · cases hm with
          | head => exact .inl (.inl rfl)
          | tail _ hm => exact .inr ⟨name', inner', hm, rfl⟩
    | _ => simp [Pending.pushObjects, ih]

/-- The walk stays within a limit exactly if all chains from the pending objects do. -/
lemma deepestFrom_le_iff {limit deepest : Nat} {stack : Pending} :
    deepestFrom deepest stack ≤ limit ↔ deepest ≤ limit ∧ ∀ p ∈ stack, Within limit p := by
  induction deepest, stack using deepestFrom.induct with
  | case1 deepest => simp [deepestFrom]
  | case2 deepest ms depth rest ih =>
    have hdeepest : (if ms.isEmpty then deepest else max deepest (depth + 1)) ≤ limit ↔
        deepest ≤ limit ∧ (ms ≠ [] → depth + 1 ≤ limit) := by
      cases ms with
      | nil => simp
      | cons m ms =>
        rw [List.isEmpty_cons, if_neg Bool.false_ne_true, Nat.max_le]
        simp
    rw [dite_eq_ite] at ih
    rw [deepestFrom, ih, hdeepest, List.forall_mem_cons, within_iff]
    simp only [Pending.mem_pushObjects, or_imp, forall_and, forall_exists_index, and_imp]
    constructor
    · rintro ⟨⟨hle, hmember⟩, hrest, hinner⟩
      exact ⟨hle, ⟨hmember, fun name inner hm => hinner _ name inner hm rfl⟩, hrest⟩
    · rintro ⟨hle, ⟨hmember, hinner⟩, hrest⟩
      refine ⟨⟨hle, hmember⟩, hrest, ?_⟩
      rintro p name inner hm rfl
      exact hinner name inner hm

/-- The depth of a value is the length of the longest chain of names from it. -/
theorem objectDepth_le_iff {limit : Nat} {v : Value} :
    objectDepth v ≤ limit ↔ ∀ names, KeyChain v names → names.length ≤ limit := by
  cases v with
  | object ms =>
    rw [objectDepth, deepestFrom_le_iff, List.forall_mem_singleton]
    constructor
    · rintro ⟨-, h⟩ names hchain
      by_cases hne : names = []
      · subst hne
        exact Nat.zero_le limit
      · simpa using h names hne hchain
    · intro h
      refine ⟨Nat.zero_le limit, fun names _ hchain => ?_⟩
      simpa using h names hchain
  | _ =>
    refine iff_of_true (Nat.zero_le limit) fun names hchain => ?_
    cases hchain
    exact Nat.zero_le limit

end AgentManifest.Lint
