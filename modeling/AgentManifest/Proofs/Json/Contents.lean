import Mathlib.Algebra.Group.Int.Defs
import Mathlib.Tactic.Lemma
import AgentManifest.Proofs.Json.Members

/-!
# What a tree holds

The numbers, the strings and the names in a tree, wherever they stand; and the tree with the members
of every object in order, which is the tree itself if they are in order already.
-/

namespace AgentManifest.Json

/-- An integer of one of the 64-bit types. -/
def Number.IsWord : Number → Prop
  | .int n => -2 ^ 63 ≤ n ∧ n < 2 ^ 64
  | .float _ => False

namespace Value

mutual

/-- The numbers in a tree. -/
def numbers : Value → List Number
  | .number n => [n]
  | .array vs => numbersOfItems vs
  | .object ms => numbersOfMembers ms
  | _ => []

/-- The numbers in some items. -/
def numbersOfItems : List Value → List Number
  | [] => []
  | v :: vs => numbers v ++ numbersOfItems vs

/-- The numbers in some members. -/
def numbersOfMembers : List (String × Value) → List Number
  | [] => []
  | (_, v) :: ms => numbers v ++ numbersOfMembers ms

end

mutual

/-- The strings in a tree, those that are names among them. -/
def strings : Value → List String
  | .string s => [s]
  | .array vs => stringsOfItems vs
  | .object ms => stringsOfMembers ms
  | _ => []

/-- The strings in some items. -/
def stringsOfItems : List Value → List String
  | [] => []
  | v :: vs => strings v ++ stringsOfItems vs

/-- The strings in some members. -/
def stringsOfMembers : List (String × Value) → List String
  | [] => []
  | (k, v) :: ms => k :: (strings v ++ stringsOfMembers ms)

end

mutual

/-- The names of members in a tree. -/
def names : Value → List String
  | .array vs => namesOfItems vs
  | .object ms => namesOfMembers ms
  | _ => []

/-- The names of members in some items. -/
def namesOfItems : List Value → List String
  | [] => []
  | v :: vs => names v ++ namesOfItems vs

/-- The names of some members, and those below them. -/
def namesOfMembers : List (String × Value) → List String
  | [] => []
  | (k, v) :: ms => k :: (names v ++ namesOfMembers ms)

end

mutual

/-- The tree with the members of every object in the order of their names. Of members with one name
the last counts. -/
def ordered : Value → Value
  | .array vs => .array (orderedItems vs)
  | .object ms => .object (Members.ofList (orderedMembers ms))
  | v => v

/-- The items with their members in order. -/
def orderedItems : List Value → List Value
  | [] => []
  | v :: vs => ordered v :: orderedItems vs

/-- The members, as they stand, with those below them in order. -/
def orderedMembers : List (String × Value) → List (String × Value)
  | [] => []
  | (k, v) :: ms => (k, ordered v) :: orderedMembers ms

end

end Value

namespace Members

/-- A member whose name comes behind all others goes to the end. -/
lemma insert_of_forall_lt {ms : Members} {name : String} (v : Value)
    (h : ∀ k ∈ ms.map Prod.fst, k < name) : insert ms name v = ms ++ [(name, v)] := by
  induction ms with
  | nil => rfl
  | cons m ms ih =>
    obtain ⟨k, w⟩ := m
    rw [List.map_cons, List.forall_mem_cons] at h
    have hgt : compare name k = .gt := by
      have hlt : k < name := h.1
      have hne : name ≠ k := fun heq => String.lt_irrefl k (heq ▸ hlt)
      change compareOfLessAndEq name k = .gt
      rw [compareOfLessAndEq, if_neg (String.lt_asymm hlt), if_neg hne]
    rw [insert, hgt, ih h.2, List.cons_append]

lemma foldl_insert_of_increasing {ms ns : Members}
    (h : ((ms ++ ns).map Prod.fst).Pairwise (· < ·)) :
    ns.foldl (fun ms p => insert ms p.1 p.2) ms = ms ++ ns := by
  induction ns generalizing ms with
  | nil => rw [List.foldl_nil, List.append_nil]
  | cons n ns ih =>
    have hlast : ∀ k ∈ ms.map Prod.fst, k < n.1 := by
      rw [List.map_append, List.map_cons, List.pairwise_append] at h
      exact fun k hk => h.2.2 k hk n.1 List.mem_cons_self
    rw [List.foldl_cons, insert_of_forall_lt n.2 hlast, ih, List.append_assoc,
      List.singleton_append]
    rwa [List.append_assoc, List.singleton_append]

/-- Members in order stay as they are. -/
lemma ofList_of_increasing {ms : Members} (h : (ms.map Prod.fst).Pairwise (· < ·)) :
    ofList ms = ms := by
  have hnil : ((([] : Members) ++ ms).map Prod.fst).Pairwise (· < ·) := h
  exact foldl_insert_of_increasing hnil

/-- A name that was put in is found, and others are found as before. -/
lemma get?_insert (ms : Members) (name key : String) (v : Value) :
    get? (insert ms name v) key = if name = key then some v else get? ms key := by
  induction ms with
  | nil => rfl
  | cons m ms ih =>
    obtain ⟨k, w⟩ := m
    rw [insert]
    split
    case h_1 => rfl
    case h_2 heq =>
      obtain rfl : name = k := Std.compare_eq_iff_eq.mp heq
      simp only [get?]
      split <;> rfl
    case h_3 hgt =>
      have hne : name ≠ k := by
        rintro rfl
        rw [Std.compare_eq_iff_eq.mpr rfl] at hgt
        cases hgt
      rw [get?, get?, ih]
      split
      case isTrue hk =>
        subst hk
        rw [if_neg hne]
      case isFalse => rfl

end Members

namespace Value

mutual

/-- A tree whose members are in order stays as it is. -/
theorem ordered_of_wellFormed : ∀ {v : Value}, v.WellFormed → v.ordered = v
  | .null, _ => rfl
  | .bool _, _ => rfl
  | .number _, _ => rfl
  | .string _, _ => rfl
  | .array vs, h => by rw [ordered, orderedItems_of_wellFormed h]
  | .object ms, h => by
    rw [ordered, orderedMembers_of_wellFormed h.2, Members.ofList_of_increasing h.1]

theorem orderedItems_of_wellFormed :
    ∀ {vs : List Value}, WellFormedItems vs → orderedItems vs = vs
  | [], _ => rfl
  | v :: vs, h => by
    rw [orderedItems, ordered_of_wellFormed h.1, orderedItems_of_wellFormed h.2]

theorem orderedMembers_of_wellFormed :
    ∀ {ms : List (String × Value)}, WellFormedMembers ms → orderedMembers ms = ms
  | [], _ => rfl
  | (k, v) :: ms, h => by
    rw [orderedMembers, ordered_of_wellFormed h.1, orderedMembers_of_wellFormed h.2]

end

end Value
end AgentManifest.Json
