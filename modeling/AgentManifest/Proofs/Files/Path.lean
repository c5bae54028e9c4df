import Mathlib.Tactic.Lemma
import AgentManifest.Files.Tree

/-!
# Paths of names

A name joined to a path is one more part behind the parts of the path, and one more component behind
its components. So the paths below a directory are ordered as the names that lead to them: by the
first name in which they differ, and that by the first byte.
-/

namespace AgentManifest.Files

open Text (Bytes)

/-- What an entry of a directory can be called. -/
structure IsName (name : Bytes) : Prop where
  ne_nil : name ≠ []
  noSlash : slash ∉ name
  noNul : 0 ∉ name
  ne_current : name ≠ [dot]
  ne_parent : name ≠ [dot, dot]
  short : name.length ≤ Tree.maxName

instance (name : Bytes) : Decidable (IsName name) :=
  decidable_of_iff (name ≠ [] ∧ slash ∉ name ∧ 0 ∉ name ∧ name ≠ [dot] ∧ name ≠ [dot, dot] ∧
      name.length ≤ Tree.maxName)
    ⟨fun ⟨h1, h2, h3, h4, h5, h6⟩ => ⟨h1, h2, h3, h4, h5, h6⟩,
      fun ⟨h1, h2, h3, h4, h5, h6⟩ => ⟨h1, h2, h3, h4, h5, h6⟩⟩

/-! ## Parts -/

lemma splitAt_cons_self (sep : UInt8) (bytes : Bytes) :
    splitAt sep (sep :: bytes) = [] :: splitAt sep bytes := by
  rw [splitAt, if_pos rfl]

lemma splitAt_ne_nil (sep : UInt8) (bytes : Bytes) : splitAt sep bytes ≠ [] := by
  cases bytes with
  | nil => exact List.cons_ne_nil _ _
  | cons b bytes =>
    rw [splitAt]
    split
    · exact List.cons_ne_nil _ _
    · split <;> exact List.cons_ne_nil _ _

/-- A byte that does not separate belongs to the first part. -/
lemma splitAt_cons_of_ne {sep b : UInt8} (h : b ≠ sep) (bytes : Bytes) :
    ∃ part parts, splitAt sep bytes = part :: parts ∧
      splitAt sep (b :: bytes) = (b :: part) :: parts := by
  cases hparts : splitAt sep bytes with
  | nil => exact absurd hparts (splitAt_ne_nil sep bytes)
  | cons part parts => exact ⟨part, parts, rfl, by simp only [splitAt, if_neg h, hparts]⟩

/-- Bytes without a separator are one part. -/
lemma splitAt_of_not_mem {sep : UInt8} {bytes : Bytes} (h : sep ∉ bytes) :
    splitAt sep bytes = [bytes] := by
  induction bytes with
  | nil => rfl
  | cons b bytes ih =>
    rw [List.mem_cons, not_or] at h
    obtain ⟨part, parts, htail, hcons⟩ := splitAt_cons_of_ne (Ne.symm h.1) bytes
    rw [ih h.2] at htail
    obtain ⟨rfl, rfl⟩ := List.cons.inj htail
    exact hcons

/-- The parts before a separator and those behind it are split on their own. -/
lemma splitAt_append (sep : UInt8) (bytes bytes' : Bytes) :
    splitAt sep (bytes ++ sep :: bytes') = splitAt sep bytes ++ splitAt sep bytes' := by
  induction bytes with
  | nil => rw [List.nil_append, splitAt_cons_self]; rfl
  | cons b bytes ih =>
    rw [List.cons_append]
    by_cases hb : b = sep
    · subst hb
      rw [splitAt_cons_self, splitAt_cons_self, ih, List.cons_append]
    · obtain ⟨part, parts, htail, hcons⟩ := splitAt_cons_of_ne hb bytes
      obtain ⟨part', parts', htail', hcons'⟩ := splitAt_cons_of_ne hb (bytes ++ sep :: bytes')
      rw [ih, htail, List.cons_append] at htail'
      obtain ⟨rfl, rfl⟩ := List.cons.inj htail'
      rw [hcons, hcons', List.cons_append]

namespace Path

/-- The parts of a path between its slashes. -/
def parts (p : Path) : List Bytes := splitAt slash p.bytes

/-- The path that names lead to from a directory. -/
def below (dir : Path) (names : List Bytes) : Path := names.foldl join dir

@[simp] lemma below_nil (dir : Path) : dir.below [] = dir := rfl

@[simp] lemma below_cons (dir : Path) (name : Bytes) (names : List Bytes) :
    dir.below (name :: names) = (dir.join name).below names := rfl

variable {p : Path} {name : Bytes}

lemma length_add_le_join (p : Path) (name : Bytes) :
    p.bytes.length + name.length ≤ (p.join name).bytes.length := by
  unfold join
  split
  · simp only [List.length_append]
    omega
  · simp only [List.length_append, List.length_cons]
    omega

/-- A path is at most as long as those below it. -/
lemma length_le_below (p : Path) (names : List Bytes) :
    p.bytes.length ≤ (p.below names).bytes.length := by
  induction names generalizing p with
  | nil => exact Nat.le_refl _
  | cons name names ih =>
    have hjoin := length_add_le_join p name
    have hbelow := ih (p.join name)
    rw [below_cons]
    omega

lemma join_bytes_ne_nil (hn : IsName name) : (p.join name).bytes ≠ [] := by
  unfold join
  split
  · simp [hn.ne_nil]
  · simp

/-- A joined name is one more part. Where the path ends in a slash it takes the place of the empty
part behind that. -/
lemma parts_join (hp : p.bytes ≠ []) (hn : IsName name) :
    ∃ front last, (last = [] ∨ last = [[]]) ∧ front ≠ [] ∧ p.parts = front ++ last ∧
      (p.join name).parts = front ++ [name] := by
  by_cases hs : p.bytes.getLast? = some slash
  · obtain ⟨bytes, hbytes⟩ := List.getLast?_eq_some_iff.mp hs
    refine ⟨splitAt slash bytes, [[]], .inr rfl, splitAt_ne_nil _ _, ?_, ?_⟩
    · rw [parts, hbytes, splitAt_append]
      rfl
    · have hjoin : (p.join name).bytes = bytes ++ slash :: name := by
        simp [join, hbytes]
      rw [parts, hjoin, splitAt_append, splitAt_of_not_mem hn.noSlash]
  · refine ⟨p.parts, [], .inl rfl, splitAt_ne_nil _ _, by simp, ?_⟩
    have hjoin : (p.join name).bytes = p.bytes ++ slash :: name := by
      simp [join, hs, hp]
    rw [parts, hjoin, splitAt_append, splitAt_of_not_mem hn.noSlash, parts]

lemma isAbsolute_join (hp : p.bytes ≠ []) : (p.join name).isAbsolute = p.isAbsolute := by
  obtain ⟨b, bytes, hb⟩ := List.exists_cons_of_ne_nil hp
  unfold join isAbsolute
  split <;> simp [hb]

lemma component?_name (hn : IsName name) : component? name = some (.name name) := by
  simp [component?, hn.ne_nil, hn.ne_current, hn.ne_parent]

/-- A joined name is one more component. -/
lemma components_join (hp : p.bytes ≠ []) (hn : IsName name) :
    (p.join name).components = p.components ++ [.name name] := by
  obtain ⟨front, last, hlast, hfront, hparts, hjoin⟩ := parts_join hp hn
  have hsteps : (p.join name).parts.filterMap component? =
      p.parts.filterMap component? ++ [.name name] := by
    rw [hjoin, hparts, List.filterMap_append, List.filterMap_append]
    have hnone : last.filterMap component? = [] := by
      rcases hlast with rfl | rfl <;> rfl
    rw [hnone, List.append_nil, List.filterMap_cons, component?_name hn]
    rfl
  -- a single dot counts at the start, and the start stays as it is
  have hhead : (p.join name).parts.head? = p.parts.head? := by
    obtain ⟨part, front, rfl⟩ := List.exists_cons_of_ne_nil hfront
    rw [hjoin, hparts]
    rfl
  simp only [parts] at hsteps hhead
  simp only [components, isAbsolute_join hp, hsteps, hhead]
  split
  · rfl
  · split <;> rfl

/-- The names that lead on from a directory are the last components. -/
lemma components_below {names : List Bytes} (hp : p.bytes ≠ []) (hn : ∀ n ∈ names, IsName n) :
    (p.below names).components = p.components ++ names.map .name := by
  induction names generalizing p with
  | nil => simp
  | cons name names ih =>
    have hname := hn name List.mem_cons_self
    rw [below_cons, ih (join_bytes_ne_nil hname) fun n h => hn n (List.mem_cons_of_mem _ h),
      components_join hp hname, List.append_assoc]
    rfl

/-- The path `././`, with so many dots. -/
def dots (n : Nat) : Path := { bytes := (List.replicate n [dot, slash]).flatten }

lemma length_dots (n : Nat) : (dots n).bytes.length = 2 * n := by
  simp [dots, Nat.mul_comm]

lemma noNul_dots (n : Nat) : 0 ∉ (dots n).bytes := by
  have hdot : (0 : UInt8) ≠ dot := by decide
  have hslash : (0 : UInt8) ≠ slash := by decide
  simp [dots, hdot, hslash]

lemma isAbsolute_dots (n : Nat) : (dots n).isAbsolute = false := by
  cases n with
  | zero => rfl
  | succ n => rfl

lemma parts_dots (n : Nat) : (dots n).parts = List.replicate n [dot] ++ [[]] := by
  induction n with
  | zero => rfl
  | succ n ih =>
    have hbytes : (dots (n + 1)).bytes = [dot] ++ slash :: (dots n).bytes := rfl
    have hdot : slash ∉ [dot] := by decide
    rw [List.replicate_succ, List.cons_append, ← ih, parts, hbytes, splitAt_append,
      splitAt_of_not_mem hdot]
    rfl

end Path

/-! ## Order -/

lemma compareBytes_eq_lt_iff {as bs : Bytes} : compareBytes as bs = .lt ↔ as < bs := by
  induction as generalizing bs with
  | nil => cases bs <;> simp [compareBytes]
  | cons a as ih =>
    cases bs with
    | nil => simp [compareBytes]
    | cons b bs =>
      rw [compareBytes, Ordering.then_eq_lt, List.cons_lt_cons_iff, Nat.compare_eq_lt,
        Nat.compare_eq_eq, ih, UInt8.lt_iff_toNat_lt, UInt8.toNat_inj]

lemma compareBytes_eq_eq_iff {as bs : Bytes} : compareBytes as bs = .eq ↔ as = bs := by
  induction as generalizing bs with
  | nil => cases bs <;> simp [compareBytes]
  | cons a as ih =>
    cases bs with
    | nil => simp [compareBytes]
    | cons b bs =>
      rw [compareBytes, Ordering.then_eq_eq, Nat.compare_eq_eq, ih, List.cons.injEq,
        UInt8.toNat_inj]

lemma Component.compare_name (a b : Bytes) :
    Component.compare (.name a) (.name b) = compareBytes a b := rfl

lemma Component.compare_self (a : Component) : a.compare a = .eq := by
  rw [Component.compare, Ordering.then_eq_eq]
  exact ⟨Nat.compare_eq_eq.mpr rfl, compareBytes_eq_eq_iff.mpr rfl⟩

/-- Components in common do not matter. -/
lemma compareComponents_append (cs as bs : List Component) :
    compareComponents (cs ++ as) (cs ++ bs) = compareComponents as bs := by
  induction cs with
  | nil => rfl
  | cons c cs ih =>
    rw [List.cons_append, List.cons_append, compareComponents, Component.compare_self, ih]
    rfl

lemma Path.compare_self (p : Path) : p.compare p = .eq := by
  have h := compareComponents_append p.components [] []
  rwa [List.append_nil] at h

lemma compareComponents_names_eq_lt_iff {ns ms : List Bytes} :
    compareComponents (ns.map .name) (ms.map .name) = .lt ↔ ns < ms := by
  induction ns generalizing ms with
  | nil => cases ms <;> simp [compareComponents]
  | cons n ns ih =>
    cases ms with
    | nil => simp [compareComponents]
    | cons m ms =>
      rw [List.map_cons, List.map_cons, compareComponents, Component.compare_name,
        Ordering.then_eq_lt, compareBytes_eq_lt_iff, compareBytes_eq_eq_iff, ih,
        List.cons_lt_cons_iff]

lemma compareComponents_names_eq_eq_iff {ns ms : List Bytes} :
    compareComponents (ns.map .name) (ms.map .name) = .eq ↔ ns = ms := by
  induction ns generalizing ms with
  | nil => cases ms <;> simp [compareComponents]
  | cons n ns ih =>
    cases ms with
    | nil => simp [compareComponents]
    | cons m ms =>
      rw [List.map_cons, List.map_cons, compareComponents, Component.compare_name,
        Ordering.then_eq_eq, compareBytes_eq_eq_iff, ih, List.cons.injEq]

/-- Paths below one directory are ordered as the names that lead to them. -/
theorem Path.compare_below {dir : Path} {ns ms : List Bytes} (hd : dir.bytes ≠ [])
    (hns : ∀ n ∈ ns, IsName n) (hms : ∀ m ∈ ms, IsName m) :
    (dir.below ns).compare (dir.below ms) = compareComponents (ns.map .name) (ms.map .name) := by
  rw [Path.compare, components_below hd hns, components_below hd hms, compareComponents_append]

/-- The order in which paths are sorted is that of their names. -/
lemma Path.compare_below_ne_gt {dir : Path} {ns ms : List Bytes} (hd : dir.bytes ≠ [])
    (hns : ∀ n ∈ ns, IsName n) (hms : ∀ m ∈ ms, IsName m) :
    ((dir.below ns).compare (dir.below ms) != .gt) = decide (ns ≤ ms) := by
  rw [Bool.eq_iff_iff, bne_iff_ne, decide_eq_true_eq, Path.compare_below hd hns hms,
    List.le_iff_lt_or_eq, ← compareComponents_names_eq_lt_iff, ← compareComponents_names_eq_eq_iff]
  cases compareComponents (ns.map .name) (ms.map .name) <;> simp

end AgentManifest.Files
