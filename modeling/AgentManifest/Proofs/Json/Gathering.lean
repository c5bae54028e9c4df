import Mathlib.Data.List.Dedup
import Mathlib.Data.List.Induction
import AgentManifest.Proofs.Json.Contents
import AgentManifest.Proofs.Json.Members

/-!
# Gathering members

Names with values are gathered into an object in which each name stands once, in order, and has the
value that came last. This determines the object. As long as no name comes twice, the order in which
the names come has no part in it, and names are lost exactly if some name does come twice.
-/

namespace AgentManifest.Json.Members

/-- The value that comes last under a name. -/
def lastUnder (pairs : List (String × Value)) (name : String) : Option Value :=
  (pairs.filter fun p => p.1 == name).getLast?.map Prod.snd

/-- An object has every name of some pairs once, in order, with the value that comes last. -/
structure Gathers (pairs : List (String × Value)) (ms : Members) : Prop where
  increasing : (ms.map Prod.fst).Pairwise (· < ·)
  get?_eq : ∀ name, get? ms name = lastUnder pairs name

variable {pairs pairs' : List (String × Value)} {ms ns : Members}

/-! ## Putting in one member -/

lemma lt_of_compare_eq_lt {a b : String} (h : compare a b = .lt) : a < b :=
  compareOfLessAndEq_eq_lt.mp h

lemma lt_of_compare_eq_gt {a b : String} (h : compare a b = .gt) : b < a := by
  have hlt : compare b a = .lt := Std.OrientedCmp.gt_iff_lt.mp h
  exact lt_of_compare_eq_lt hlt

lemma mem_names_insert {name key : String} {v : Value} :
    name ∈ (insert ms key v).map Prod.fst ↔ name = key ∨ name ∈ ms.map Prod.fst := by
  induction ms with
  | nil => simp [insert]
  | cons m ms ih =>
    obtain ⟨k, w⟩ := m
    rw [insert]
    split
    case h_1 => rw [List.map_cons, List.mem_cons]
    case h_2 heq =>
      cases Std.LawfulEqOrd.eq_of_compare heq
      rw [List.map_cons, List.map_cons, List.mem_cons, or_self_left]
    case h_3 => rw [List.map_cons, List.map_cons, List.mem_cons, List.mem_cons, ih, or_left_comm]

lemma increasing_insert (h : (ms.map Prod.fst).Pairwise (· < ·)) (key : String) (v : Value) :
    ((insert ms key v).map Prod.fst).Pairwise (· < ·) := by
  induction ms with
  | nil => exact List.pairwise_singleton _ _
  | cons m ms ih =>
    obtain ⟨k, w⟩ := m
    rw [List.map_cons, List.pairwise_cons] at h
    obtain ⟨hk, hms⟩ := h
    rw [insert]
    split
    case h_1 hlt =>
      have hkey : key < k := lt_of_compare_eq_lt hlt
      rw [List.map_cons, List.map_cons, List.pairwise_cons, List.pairwise_cons]
      refine ⟨?_, hk, hms⟩
      intro name hname
      cases hname with
      | head => exact hkey
      | tail _ hname => exact String.lt_trans hkey (hk name hname)
    case h_2 heq =>
      cases Std.LawfulEqOrd.eq_of_compare heq
      exact List.pairwise_cons.mpr ⟨hk, hms⟩
    case h_3 hgt =>
      have hkey : k < key := lt_of_compare_eq_gt hgt
      rw [List.map_cons, List.pairwise_cons]
      refine ⟨?_, ih hms⟩
      intro name hname
      obtain rfl | hname := mem_names_insert.mp hname
      · exact hkey
      · exact hk name hname

/-! ## Putting in some pairs -/

lemma ofList_concat (pairs : List (String × Value)) (p : String × Value) :
    ofList (pairs ++ [p]) = insert (ofList pairs) p.1 p.2 := by
  rw [ofList, List.foldl_concat]
  rfl

lemma lastUnder_concat (pairs : List (String × Value)) (p : String × Value) (name : String) :
    lastUnder (pairs ++ [p]) name = if p.1 = name then some p.2 else lastUnder pairs name := by
  unfold lastUnder
  by_cases h : p.1 = name
  · simp [h]
  · simp [h]

/-- An object is made of pairs by putting them in one after the other. -/
lemma gathers_ofList (pairs : List (String × Value)) : Gathers pairs (ofList pairs) := by
  induction pairs using List.reverseRecOn with
  | nil => exact ⟨List.Pairwise.nil, fun _ => rfl⟩
  | append_singleton pairs p ih =>
    rw [ofList_concat]
    refine ⟨increasing_insert ih.increasing p.1 p.2, fun name => ?_⟩
    rw [get?_insert, lastUnder_concat, ih.get?_eq]

lemma nodup_of_increasing (h : (ms.map Prod.fst).Pairwise (· < ·)) : (ms.map Prod.fst).Nodup := by
  refine h.imp ?_
  rintro a _ hlt rfl
  exact String.lt_irrefl a hlt

lemma mem_iff_get? (h : (ms.map Prod.fst).Pairwise (· < ·)) {m : String × Value} :
    m ∈ ms ↔ get? ms m.1 = some m.2 := by
  constructor
  · intro hm
    exact get?_of_mem h hm
  · intro hget
    exact mem_of_get? hget

/-- Members in order are determined by what is found under each name. -/
lemma eq_of_get?_eq (hms : (ms.map Prod.fst).Pairwise (· < ·))
    (hns : (ns.map Prod.fst).Pairwise (· < ·)) (h : ∀ name, get? ms name = get? ns name) :
    ms = ns := by
  have hperm : ms.Perm ns := by
    refine (List.perm_ext_iff_of_nodup (nodup_of_increasing hms).of_map
      (nodup_of_increasing hns).of_map).mpr fun m => ?_
    rw [mem_iff_get? hms, mem_iff_get? hns, h]
  refine List.Perm.eq_of_pairwise ?_ (List.pairwise_map.mp hms) (List.pairwise_map.mp hns) hperm
  intro p q _ _ hpq hqp
  exact absurd hqp (String.lt_asymm hpq)

lemma gathers_iff : Gathers pairs ms ↔ ms = ofList pairs := by
  have hof : Gathers pairs (ofList pairs) := gathers_ofList pairs
  constructor
  · intro h
    refine eq_of_get?_eq h.increasing hof.increasing fun name => ?_
    rw [h.get?_eq, hof.get?_eq]
  · rintro rfl
    exact hof

/-! ## Names -/

lemma lastUnder_eq_none_iff {name : String} :
    lastUnder pairs name = none ↔ name ∉ pairs.map Prod.fst := by
  rw [lastUnder, Option.map_eq_none_iff, List.getLast?_eq_none_iff, List.filter_eq_nil_iff,
    List.mem_map, not_exists]
  refine forall_congr' fun p => ?_
  rw [beq_iff_eq, not_and]

lemma mem_names_iff {name : String} : name ∈ ms.map Prod.fst ↔ get? ms name ≠ none := by
  rw [← Option.isSome_iff_ne_none]
  exact (List.mem_map.trans (by simp)).trans (contains_iff ms name).symm

/-- No name is lost, and none is added. -/
lemma Gathers.mem_names {name : String} (h : Gathers pairs ms) :
    name ∈ ms.map Prod.fst ↔ name ∈ pairs.map Prod.fst := by
  rw [mem_names_iff, h.get?_eq, Ne, lastUnder_eq_none_iff, not_not]

/-- There are as many members as pairs exactly if no name comes twice. -/
lemma Gathers.length_eq_iff (h : Gathers pairs ms) :
    ms.length = pairs.length ↔ (pairs.map Prod.fst).Nodup := by
  have hperm : (ms.map Prod.fst).Perm (pairs.map Prod.fst).dedup := by
    refine (List.perm_ext_iff_of_nodup (nodup_of_increasing h.increasing)
      (List.nodup_dedup _)).mpr fun name => ?_
    rw [List.mem_dedup, h.mem_names]
  have hms : ms.length = (pairs.map Prod.fst).dedup.length := by
    rw [← List.length_map Prod.fst, hperm.length_eq]
  have hpairs : (pairs.map Prod.fst).length = pairs.length := List.length_map Prod.fst
  rw [hms, ← List.dedup_eq_self, ← hpairs]
  constructor
  · intro heq
    exact (List.dedup_sublist _).eq_of_length heq
  · intro heq
    rw [heq]

/-- If no name comes twice, at most one pair has a name. -/
lemma length_filter_le_one (h : (pairs.map Prod.fst).Nodup) (name : String) :
    (pairs.filter fun p => p.1 == name).length ≤ 1 := by
  have hcount : (pairs.map Prod.fst).count name ≤ 1 := List.nodup_iff_count_le_one.mp h name
  rwa [List.count, List.countP_map, List.countP_eq_length_filter] at hcount

/-- The order of the pairs has no part in the object if no name comes twice. -/
lemma ofList_perm (hperm : pairs.Perm pairs') (h : (pairs.map Prod.fst).Nodup) :
    ofList pairs = ofList pairs' := by
  refine gathers_iff.mp ⟨(gathers_ofList pairs).increasing, fun name => ?_⟩
  rw [(gathers_ofList pairs).get?_eq]
  have hfilter := hperm.filter fun p => p.1 == name
  have hle : (pairs.filter fun p => p.1 == name).length ≤ 1 := length_filter_le_one h name
  -- at most one pair has the name, and one pair alone comes in one order only
  unfold lastUnder
  cases hp : pairs.filter fun p => p.1 == name with
  | nil =>
    rw [hp] at hfilter
    rw [hfilter.nil_eq]
  | cons p rest =>
    rw [hp, List.length_cons] at hle
    obtain rfl : rest = [] := List.length_eq_zero_iff.mp (by omega)
    rw [hp] at hfilter
    rw [List.singleton_perm.mp hfilter]

end AgentManifest.Json.Members
