import Mathlib.Tactic.Lemma
import AgentManifest.Json.Value

/-!
# Members of objects

Looking up a name finds a member, and finds one whenever there is one.
-/

namespace AgentManifest.Json.Members

/-- What is found under a name is a member. -/
lemma mem_of_get? {ms : Members} {name : String} {v : Value} (h : get? ms name = some v) :
    (name, v) ∈ ms := by
  induction ms with
  | nil => cases h
  | cons m ms ih =>
    obtain ⟨k, w⟩ := m
    rw [get?] at h
    split at h
    case isTrue e =>
      cases h
      rw [e]
      exact List.mem_cons_self
    case isFalse => exact List.mem_cons_of_mem _ (ih h)

/-- Something is found under the name of a member. -/
lemma exists_get?_of_mem {ms : Members} {name : String} {v : Value} (h : (name, v) ∈ ms) :
    ∃ w, get? ms name = some w := by
  induction ms with
  | nil => cases h
  | cons m ms ih =>
    obtain ⟨k, w⟩ := m
    rw [get?]
    split
    case isTrue => exact ⟨w, rfl⟩
    case isFalse e =>
      cases h with
      | head => exact absurd rfl e
      | tail _ h => exact ih h

/-- A member is found under its name if no other has that name. -/
lemma get?_of_mem {ms : Members} {m : String × Value}
    (hms : (ms.map Prod.fst).Pairwise (· < ·)) (hm : m ∈ ms) : get? ms m.1 = some m.2 := by
  induction ms with
  | nil => cases hm
  | cons n ms ih =>
    obtain ⟨k, w⟩ := n
    rw [List.map_cons, List.pairwise_cons] at hms
    rw [get?]
    obtain rfl | hm := List.mem_cons.mp hm
    · exact if_pos rfl
    · have hlt : k < m.1 := hms.1 _ (List.mem_map_of_mem hm)
      have hne : k ≠ m.1 := fun h => String.lt_irrefl _ (h ▸ hlt)
      rw [if_neg hne, ih hms.2 hm]

/-- A name is present exactly if there is a member of that name. -/
lemma contains_iff (ms : Members) (name : String) :
    contains ms name = true ↔ ∃ v, (name, v) ∈ ms := by
  rw [contains, Option.isSome_iff_exists]
  constructor
  · rintro ⟨v, h⟩
    exact ⟨v, mem_of_get? h⟩
  · rintro ⟨v, h⟩
    exact exists_get?_of_mem h

/-- A member is the one that was put in, or was there before. -/
lemma mem_insert {ms : Members} {m : String × Value} {key : String} {v : Value}
    (h : m ∈ insert ms key v) : m = (key, v) ∨ m ∈ ms := by
  induction ms with
  | nil => exact .inl (List.mem_singleton.mp h)
  | cons n ms ih =>
    obtain ⟨k, w⟩ := n
    rw [insert] at h
    split at h
    · exact List.mem_cons.mp h
    · exact (List.mem_cons.mp h).imp_right (List.mem_cons_of_mem _)
    · obtain rfl | h := List.mem_cons.mp h
      · exact .inr List.mem_cons_self
      · exact (ih h).imp_right (List.mem_cons_of_mem _)

/-! ## Leaving out a name -/

/-- The members with other names. -/
def without (ms : Members) (key : String) : Members := ms.filter fun m => m.1 != key

lemma without_cons (k : String) (v : Value) (ms : Members) (key : String) :
    without ((k, v) :: ms) key = if k = key then without ms key else (k, v) :: without ms key := by
  rw [without, List.filter_cons]
  by_cases h : k = key
  · rw [if_pos h, if_neg (by simp [h])]
    rfl
  · rw [if_neg h, if_pos (by simp [h])]
    rfl

/-- A value that is put in has no part in the other members. -/
lemma without_insert (ms : Members) (key : String) (v : Value) :
    without (insert ms key v) key = without ms key := by
  induction ms with
  | nil => rw [insert, without_cons, if_pos rfl]
  | cons m ms ih =>
    obtain ⟨k, w⟩ := m
    rw [insert]
    split
    case h_1 => rw [without_cons, if_pos rfl]
    case h_2 heq =>
      cases Std.LawfulEqOrd.eq_of_compare heq
      rw [without_cons, without_cons, if_pos rfl, if_pos rfl]
    case h_3 => rw [without_cons, without_cons, ih]

/-- A member that is taken out has no part in the other members. -/
lemma without_erase (ms : Members) (key : String) :
    without (erase ms key) key = without ms key := by
  induction ms with
  | nil => rfl
  | cons m ms ih =>
    obtain ⟨k, w⟩ := m
    rw [erase, without_cons]
    by_cases h : k = key
    · rw [if_pos h, if_pos h]
    · rw [if_neg h, if_neg h, without_cons, if_neg h, ih]

/-- The other members are found as before. -/
lemma get?_without (ms : Members) {key name : String} (h : name ≠ key) :
    get? (without ms key) name = get? ms name := by
  induction ms with
  | nil => rfl
  | cons m ms ih =>
    obtain ⟨k, w⟩ := m
    rw [without_cons, get?]
    by_cases hk : k = key
    · have hne : k ≠ name := fun hkn => h (hkn.symm.trans hk)
      rw [if_pos hk, if_neg hne, ih]
    · rw [if_neg hk, get?, ih]

/-- A list of further parts is not changed by what has no part in it. -/
lemma flatMap_without {α : Type} {key : String} {f : String × Value → List α}
    (hf : ∀ v, f (key, v) = []) (ms : Members) : (without ms key).flatMap f = ms.flatMap f := by
  induction ms with
  | nil => rfl
  | cons m ms ih =>
    obtain ⟨k, v⟩ := m
    rw [without_cons, List.flatMap_cons, ← ih]
    by_cases hk : k = key
    · subst hk
      rw [if_pos rfl, hf, List.nil_append]
    · rw [if_neg hk, List.flatMap_cons]

end AgentManifest.Json.Members
