import Mathlib.Logic.Basic
import AgentManifest.Proofs.Json.Members
import AgentManifest.Schema.Evaluation

/-!
# What keywords say

A schema is a list of keywords, and a type among them settles what the others are about. The
keywords about the members of an object are put in terms of the members themselves.
-/

namespace AgentManifest.Schema

open Json (Value Members Location)

/-! ## Lists of keywords -/

lemma Form.holds_all (l : Links) (ks : List Keyword) (v : Value) :
    (Form.all ks).holds l v = allHold l ks v := rfl

lemma allHold_nil (l : Links) (v : Value) : allHold l [] v = true := rfl

lemma allHold_cons (l : Links) (k : Keyword) (ks : List Keyword) (v : Value) :
    allHold l (k :: ks) v = (k.holds l v && allHold l ks v) := rfl

lemma allHold_append (l : Links) (ks ks' : List Keyword) (v : Value) :
    allHold l (ks ++ ks') v = (allHold l ks v && allHold l ks' v) := by
  induction ks with
  | nil => rfl
  | cons k ks ih => rw [List.cons_append, allHold_cons, allHold_cons, ih, Bool.and_assoc]

lemma Keyword.holds_test (l : Links) (path : Location) (a : Assertion) (v : Value) :
    Keyword.holds l (.test path a) v = a.holds v := rfl

/-! ## Types -/

lemma admits_string_iff (v : Value) : Kind.string.admits false v = true ↔ ∃ s, v = .string s := by
  cases v <;> simp [Kind.admits]

lemma admits_array_iff (v : Value) : Kind.array.admits false v = true ↔ ∃ vs, v = .array vs := by
  cases v <;> simp [Kind.admits]

lemma admits_object_iff (v : Value) : Kind.object.admits false v = true ↔ ∃ ms, v = .object ms := by
  cases v <;> simp [Kind.admits]

/-- A schema that asks for a type holds of the values of that type of which the rest of it holds. -/
lemma typed_iff {α : Type} {k : Kind} {shape : α → Value} (l : Links) (v : Value)
    (hk : k.admits false v = true ↔ ∃ a, v = shape a) (path : Location) (ks : List Keyword) :
    (Form.all (ks ++ [.test path (.type [k] false)])).holds l v = true ↔
      ∃ a, v = shape a ∧ allHold l ks (shape a) = true := by
  have htype : Assertion.holds (.type [k] false) v = k.admits false v := Bool.or_false _
  rw [Form.holds_all, allHold_append, allHold_cons, allHold_nil, Bool.and_true, Bool.and_eq_true,
    Keyword.holds_test, htype, hk]
  constructor
  · rintro ⟨h, a, rfl⟩
    exact ⟨a, rfl, h⟩
  · rintro ⟨a, rfl, h⟩
    exact ⟨h, a, rfl⟩

/-! ## Members -/

/-- Schemas for named members say something of the members that are there. -/
lemma namedHold_iff (l : Links) (named : List (String × Form)) (ms : Members) :
    namedHold l named ms = true ↔
      ∀ p ∈ named, ∀ v, Members.get? ms p.1 = some v → p.2.holds l v = true := by
  induction named with
  | nil => simp [namedHold]
  | cons p named ih =>
    rw [namedHold, Bool.and_eq_true, ih, List.forall_mem_cons]
    apply and_congr_left'
    cases Members.get? ms p.1 <;> simp

/-- A name has a schema if it stands in the list. -/
lemma isNamed_iff (named : List (String × Form)) (name : String) :
    isNamed named name = true ↔ ∃ s, (name, s) ∈ named := by
  induction named with
  | nil => simp [isNamed]
  | cons p named ih =>
    rw [isNamed, Bool.or_eq_true, ih, beq_iff_eq]
    constructor
    · rintro (rfl | ⟨s, h⟩)
      · exact ⟨p.2, List.mem_cons_self⟩
      · exact ⟨s, List.mem_cons_of_mem _ h⟩
    · rintro ⟨s, h⟩
      cases h with
      | head => exact .inl rfl
      | tail _ h => exact .inr ⟨s, h⟩

/-- A member satisfies the schemas for its name, all of them. -/
lemma memberHolds_iff (l : Links) (named : List (String × Form)) (name : String) (v : Value) :
    memberHolds l named name v = true ↔ ∀ s, (name, s) ∈ named → s.holds l v = true := by
  induction named with
  | nil => simp [memberHolds]
  | cons p named ih =>
    rw [memberHolds, Bool.and_eq_true, ih]
    constructor
    · rintro ⟨first, others⟩ s h
      cases h with
      | head => simpa using first
      | tail _ h => exact others s h
    · intro h
      refine ⟨?_, fun s hs => h s (List.mem_cons_of_mem _ hs)⟩
      by_cases e : p.1 = name
      · rw [h p.2 (by rw [← e]; exact List.mem_cons_self), Bool.or_true]
      · simp [e]

/-- An object satisfies a closed list of schemas if each of its members satisfies those that apply
to its name, and one of them does. -/
lemma closed_holds_iff (l : Links) (named : List (String × Form))
    (matching : List (NamePattern × Form)) (ms : Members) :
    Keyword.holds l (.closed named matching) (.object ms) = true ↔
      ∀ m ∈ ms, (memberHolds l named m.1 m.2 = true ∧ matchingHold l matching m.1 m.2 = true) ∧
        (isNamed named m.1 = true ∨ isMatched matching m.1 = true) := by
  simp only [Keyword.holds, List.all_eq_true, Bool.and_eq_true, Bool.or_eq_true]

end AgentManifest.Schema
