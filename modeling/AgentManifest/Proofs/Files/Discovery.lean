import AgentManifest.Files.Discovery
import AgentManifest.Proofs.Files.Tree

/-!
# What is found

The manifests found from a directory are those to which names lead through directories that are not
hidden and whose paths can be opened, each once, in the order of their names, and in whatever order
the directories list their entries.
-/

namespace AgentManifest.Files

open Text (Bytes)

variable {levels : Option Nat} {entries entries' inner : Entries} {name : Bytes} {ns : List Bytes}

/-! ## Names of manifests -/

/-- The names that lead from a directory to its manifests, in any order. -/
def namesIn (levels : Option Nat) : List (Bytes × Entry) → List (List Bytes)
  | [] => []
  | (name, entry) :: entries =>
    match entry with
    | .file _ =>
      (if isManifestName (Text.decodeLossy name) then [[name]] else []) ++ namesIn levels entries
    | .link _ => namesIn levels entries
    | .directory inner =>
      (if isHidden name || levels == some 0 then []
        else (namesIn (levels.map (· - 1)) inner).map (name :: ·)) ++ namesIn levels entries

/-- The names that lead to manifests by one entry of a directory. -/
def namesOf (levels : Option Nat) (e : Bytes × Entry) : List (List Bytes) :=
  match e.2 with
  | .file _ => if isManifestName (Text.decodeLossy e.1) then [[e.1]] else []
  | .link _ => []
  | .directory inner =>
    if isHidden e.1 || levels == some 0 then []
    else (namesIn (levels.map (· - 1)) inner).map (e.1 :: ·)

/-- The entries of a directory are looked at one by one. -/
lemma namesIn_eq_flatMap (levels : Option Nat) (entries : Entries) :
    namesIn levels entries = entries.flatMap (namesOf levels) := by
  induction entries with
  | nil => rw [namesIn, List.flatMap_nil]
  | cons e entries ih =>
    obtain ⟨name, entry⟩ := e
    rw [List.flatMap_cons, ← ih]
    cases entry <;> rw [namesIn] <;> rfl

/-- Names are found for a file that is called as manifests are, and behind the name of a directory
that is entered. -/
lemma mem_namesOf_iff {e : Bytes × Entry} :
    ns ∈ namesOf levels e ↔
      (∃ n contents, e = (n, .file contents) ∧ ns = [n] ∧
        isManifestName (Text.decodeLossy n) = true) ∨
      ∃ c inner ms, e = (c, .directory inner) ∧ ns = c :: ms ∧ isHidden c = false ∧
        levels ≠ some 0 ∧ ms ∈ namesIn (levels.map (· - 1)) inner := by
  obtain ⟨name, entry⟩ := e
  cases entry with
  | file contents =>
    by_cases hname : isManifestName (Text.decodeLossy name) = true
    · simp [namesOf, hname]
    · simp [namesOf, hname]
  | link target => simp [namesOf]
  | directory inner =>
    by_cases hskip : (isHidden name || levels == some 0) = true
    · have hnone : ¬(isHidden name = false ∧ levels ≠ some 0) := by
        rintro ⟨hshown, hlevels⟩
        simp [hshown, hlevels] at hskip
      simp only [namesOf, hskip, if_true]
      constructor
      · intro h
        cases h
      · rintro (⟨_, _, ⟨⟩, -⟩ | ⟨_, _, _, ⟨⟩, -, hshown, hlevels, -⟩)
        exact absurd ⟨hshown, hlevels⟩ hnone
    · have hshown : isHidden name = false ∧ levels ≠ some 0 := by simpa using hskip
      simp only [namesOf, if_neg hskip, List.mem_map]
      constructor
      · rintro ⟨ms, hms, rfl⟩
        exact .inr ⟨name, inner, ms, rfl, rfl, hshown.1, hshown.2, hms⟩
      · rintro (⟨_, _, ⟨⟩, -⟩ | ⟨_, _, ms, ⟨⟩, rfl, -, -, hms⟩)
        exact ⟨ms, hms, rfl⟩

/-- The first of the names that are found is the name of the entry. -/
lemma head_of_mem_namesOf {e : Bytes × Entry} (h : ns ∈ namesOf levels e) :
    ∃ ms, ns = e.1 :: ms := by
  obtain ⟨n, contents, rfl, rfl, -⟩ | ⟨c, inner, ms, rfl, rfl, -⟩ := mem_namesOf_iff.mp h
  · exact ⟨[], rfl⟩
  · exact ⟨ms, rfl⟩

/-- Entries with different names lead to different names. -/
lemma ne_of_fresh {entry : Entry} {ms : List Bytes} (fresh : name ∉ Entries.names entries)
    (hns : ns ∈ namesOf levels (name, entry)) (hms : ms ∈ namesIn levels entries) : ns ≠ ms := by
  rw [namesIn_eq_flatMap, List.mem_flatMap] at hms
  obtain ⟨e, he, hms⟩ := hms
  obtain ⟨ns, rfl⟩ := head_of_mem_namesOf hns
  obtain ⟨ms, rfl⟩ := head_of_mem_namesOf hms
  rintro ⟨⟩
  exact fresh (List.mem_map_of_mem he)

lemma namesIn_cons_nodup {e : Bytes × Entry} (fresh : e.1 ∉ Entries.names entries)
    (hof : (namesOf levels e).Nodup) (hin : (namesIn levels entries).Nodup) :
    (namesIn levels (e :: entries)).Nodup := by
  rw [namesIn_eq_flatMap, List.flatMap_cons, ← namesIn_eq_flatMap, List.nodup_append]
  exact ⟨hof, hin, fun ns hns ms hms => ne_of_fresh fresh hns hms⟩

/-- In a well-formed directory names are found once. -/
lemma namesIn_nodup (h : entries.WellFormed) (levels : Option Nat) :
    (namesIn levels entries).Nodup := by
  induction h generalizing levels with
  | nil => simp [namesIn]
  | @file name contents entries proper fresh rest ih =>
    refine namesIn_cons_nodup fresh ?_ (ih levels)
    by_cases hname : isManifestName (Text.decodeLossy name) = true
    · simp [namesOf, hname]
    · simp [namesOf, hname]
  | link proper fresh rest ih => exact namesIn_cons_nodup fresh List.nodup_nil (ih levels)
  | @directory name inner entries proper fresh within rest ihWithin ih =>
    refine namesIn_cons_nodup fresh ?_ (ih levels)
    by_cases hskip : (isHidden name || levels == some 0) = true
    · simp only [namesOf, hskip, if_true, List.nodup_nil]
    · simp only [namesOf, if_neg hskip]
      exact List.Pairwise.map _ (fun ns ms hne heq => hne (List.cons.inj heq).2)
        (ihWithin (levels.map (· - 1)))

/-! ## Paths of manifests -/

/-- Whether the directory that holds what names lead to can be entered. -/
def Path.reaches (dir : Path) (ns : List Bytes) : Bool := !(dir.below ns.dropLast).isTooLong

lemma Path.reaches_iff {dir : Path} :
    dir.reaches ns = true ↔ (dir.below ns.dropLast).bytes.length ≤ Tree.maxPath := by
  simp [reaches, isTooLong]

lemma Path.reaches_cons {dir : Path} (hne : ns ≠ []) :
    dir.reaches (name :: ns) = (dir.join name).reaches ns := by
  rw [reaches, List.dropLast_cons_of_ne_nil hne]
  rfl

/-- Nothing is reached from a directory that cannot be entered. -/
lemma Path.reaches_of_isTooLong {dir : Path} (h : dir.isTooLong = true) :
    dir.reaches ns = false := by
  have hlong : Tree.maxPath < dir.bytes.length := of_decide_eq_true h
  have hle := dir.length_le_below ns.dropLast
  rw [← Bool.not_eq_true, reaches_iff]
  omega

/-- What is reached behind the name of a directory is what is reached from that directory. -/
lemma filter_reaches_map_cons {dir : Path} {nss : List (List Bytes)} (hne : ∀ ns ∈ nss, ns ≠ []) :
    (nss.map (name :: ·)).filter dir.reaches =
      (nss.filter (dir.join name).reaches).map (name :: ·) := by
  rw [List.filter_map]
  refine congrArg (List.map _) (List.filter_congr fun ns hns => ?_)
  exact Path.reaches_cons (hne ns hns)

lemma ne_nil_of_mem_namesIn (h : ns ∈ namesIn levels entries) : ns ≠ [] := by
  rw [namesIn_eq_flatMap, List.mem_flatMap] at h
  obtain ⟨e, -, hns⟩ := h
  obtain ⟨ms, rfl⟩ := head_of_mem_namesOf hns
  exact List.cons_ne_nil _ _

/-- The manifests in a directory that can be entered are the paths to which names lead from it by
way of directories that can be entered. -/
lemma manifestsIn_eq_map (levels : Option Nat) (dir : Path) (entries : Entries)
    (hdir : dir.isTooLong = false) :
    manifestsIn levels dir entries =
      ((namesIn levels entries).filter dir.reaches).map dir.below := by
  induction levels, dir, entries using manifestsIn.induct with
  | case1 levels dir => simp [manifestsIn, namesIn]
  | case2 levels dir name entries contents hname ih =>
    simp [manifestsIn, namesIn, hname, ih hdir, Path.reaches, hdir]
  | case3 levels dir name entries contents hname ih =>
    simp [manifestsIn, namesIn, hname, ih hdir]
  | case4 levels dir name entries target ih => simp [manifestsIn, namesIn, ih hdir]
  | case5 levels dir name entries inner hskip ih =>
    have hnone : (if isHidden name || levels == some 0 then []
        else (namesIn (levels.map (· - 1)) inner).map (name :: ·)).filter dir.reaches = [] := by
      split
      case isTrue => rfl
      case isFalse hshown =>
        have hlong : (dir.join name).isTooLong = true := by simpa [hshown] using hskip
        rw [filter_reaches_map_cons fun ns => ne_nil_of_mem_namesIn]
        simp [Path.reaches_of_isTooLong hlong]
    rw [manifestsIn, if_pos hskip, namesIn, List.filter_append, hnone, List.nil_append, ih hdir]
  | case6 levels dir name entries inner hskip ih ihInner =>
    obtain ⟨hshown, hlevels, hshort⟩ :
        isHidden name = false ∧ (levels == some 0) = false ∧ (dir.join name).isTooLong = false := by
      simpa [and_assoc] using hskip
    -- the names found in the directory that is entered lead on from its own path
    have hmap (nss : List (List Bytes)) :
        nss.map (dir.join name).below = (nss.map (name :: ·)).map dir.below := by
      rw [List.map_map]
      rfl
    rw [manifestsIn, if_neg hskip, namesIn, hshown, hlevels, ih hdir, ihInner hshort, hmap,
      ← filter_reaches_map_cons fun ns => ne_nil_of_mem_namesIn, ← List.map_append,
      ← List.filter_append]
    rfl

/-! ## Which names are found -/

/-- Names lead through directories that are not hidden, and down to no more levels than are
searched, to a file that is called as manifests are. -/
structure LeadsToManifest (levels : Option Nat) (entries : Entries) (cs : List Bytes) (n : Bytes) :
    Prop where
  isFile : ∃ contents, entries.find? (cs ++ [n]) = some (.file contents)
  named : isManifestName (Text.decodeLossy n) = true
  shown : ∀ c ∈ cs, isHidden c = false
  near : ∀ k, levels = some k → cs.length ≤ k

lemma leadsToManifest_nil_iff (h : entries.WellFormed) {n : Bytes} :
    LeadsToManifest levels entries [] n ↔
      (∃ contents, (n, .file contents) ∈ entries) ∧ isManifestName (Text.decodeLossy n) = true := by
  constructor
  · rintro ⟨⟨contents, hf⟩, hnamed, -, -⟩
    rw [List.nil_append, Entries.find?_singleton, h.lookup_eq_some_iff] at hf
    exact ⟨⟨contents, hf⟩, hnamed⟩
  · rintro ⟨⟨contents, hf⟩, hnamed⟩
    refine ⟨⟨contents, ?_⟩, hnamed, by simp, by simp⟩
    rwa [List.nil_append, Entries.find?_singleton, h.lookup_eq_some_iff]

lemma leadsToManifest_cons_iff (h : entries.WellFormed) {c n : Bytes} {cs : List Bytes} :
    LeadsToManifest levels entries (c :: cs) n ↔
      ∃ inner, (c, .directory inner) ∈ entries ∧ isHidden c = false ∧ levels ≠ some 0 ∧
        LeadsToManifest (levels.map (· - 1)) inner cs n := by
  have hfind (contents : Bytes) :
      entries.find? (c :: cs ++ [n]) = some (.file contents) ↔
        ∃ inner, (c, .directory inner) ∈ entries ∧
          Entries.find? inner (cs ++ [n]) = some (.file contents) := by
    -- something follows the first name, so that must be the name of a directory
    obtain ⟨m, ms, hms⟩ := List.exists_cons_of_ne_nil (l := cs ++ [n]) (by simp)
    simp only [List.cons_append, hms, Entries.find?_cons_eq_some_iff, h.lookup_eq_some_iff]
  constructor
  · rintro ⟨⟨contents, hf⟩, hnamed, hshown, hnear⟩
    obtain ⟨inner, hc, hf⟩ := (hfind contents).mp hf
    rw [List.forall_mem_cons] at hshown
    refine ⟨inner, hc, hshown.1, ?_, ⟨contents, hf⟩, hnamed, hshown.2, ?_⟩
    · rintro rfl
      simpa using hnear 0 rfl
    · intro k hk
      obtain ⟨k', rfl, rfl⟩ := Option.map_eq_some_iff.mp hk
      have := hnear k' rfl
      simp only [List.length_cons] at this
      omega
  · rintro ⟨inner, hc, hshown, hlevels, ⟨contents, hf⟩, hnamed, hrest, hnear⟩
    refine ⟨⟨contents, (hfind contents).mpr ⟨inner, hc, hf⟩⟩, hnamed, ?_, ?_⟩
    · exact List.forall_mem_cons.mpr ⟨hshown, hrest⟩
    · rintro k rfl
      have hk : k ≠ 0 := fun h0 => hlevels (by rw [h0])
      have := hnear (k - 1) rfl
      simp only [List.length_cons]
      omega

/-- The names that are found are those that lead to manifests. -/
theorem mem_namesIn_iff (h : entries.WellFormed) :
    ns ∈ namesIn levels entries ↔ ∃ cs n, ns = cs ++ [n] ∧ LeadsToManifest levels entries cs n := by
  -- the first of the names says which entry the others lead on from
  induction ns generalizing levels entries with
  | nil =>
    rw [namesIn_eq_flatMap, List.mem_flatMap]
    constructor
    · rintro ⟨e, -, hns⟩
      obtain ⟨ms, ⟨⟩⟩ := head_of_mem_namesOf hns
    · rintro ⟨cs, n, hns, -⟩
      simp at hns
  | cons m ms ih =>
    rw [namesIn_eq_flatMap, List.mem_flatMap]
    constructor
    · rintro ⟨e, he, hns⟩
      obtain ⟨n, contents, rfl, ⟨⟩, hnamed⟩ | ⟨c, inner, ms', rfl, ⟨⟩, hshown, hlevels, hms⟩ :=
        mem_namesOf_iff.mp hns
      · exact ⟨[], m, rfl, (leadsToManifest_nil_iff h).mpr ⟨⟨contents, he⟩, hnamed⟩⟩
      · obtain ⟨cs, n, rfl, hleads⟩ := (ih (h.within he)).mp hms
        exact ⟨m :: cs, n, rfl,
          (leadsToManifest_cons_iff h).mpr ⟨inner, he, hshown, hlevels, hleads⟩⟩
    · rintro ⟨cs, n, hns, hleads⟩
      cases cs with
      | nil =>
        obtain ⟨rfl, rfl⟩ := List.cons.inj hns
        obtain ⟨⟨contents, he⟩, hnamed⟩ := (leadsToManifest_nil_iff h).mp hleads
        exact ⟨_, he, mem_namesOf_iff.mpr (.inl ⟨_, contents, rfl, rfl, hnamed⟩)⟩
      | cons c cs =>
        obtain ⟨rfl, rfl⟩ := List.cons.inj hns
        obtain ⟨inner, he, hshown, hlevels, hleads⟩ := (leadsToManifest_cons_iff h).mp hleads
        have hms := (ih (h.within he)).mpr ⟨cs, n, rfl, hleads⟩
        exact ⟨_, he, mem_namesOf_iff.mpr (.inr ⟨_, inner, _, rfl, rfl, hshown, hlevels, hms⟩)⟩

lemma isName_of_mem_namesIn (h : entries.WellFormed) (hns : ns ∈ namesIn levels entries) :
    ∀ n ∈ ns, IsName n := by
  obtain ⟨cs, n, rfl, ⟨contents, hf⟩, -⟩ := (mem_namesIn_iff h).mp hns
  exact (h.find? hf).1

/-! ## In what order they are found -/

/-- How many levels below a directory are searched. -/
def levelsOf (recursive : Bool) : Option Nat := if recursive then none else some 1

/-- The names that lead from a directory to its manifests, by way of directories that can be
entered, in order. -/
def sortedNames (levels : Option Nat) (dir : Path) (entries : Entries) : List (List Bytes) :=
  ((namesIn levels entries).filter dir.reaches).mergeSort fun ns ms => decide (ns ≤ ms)

lemma mem_sortedNames {dir : Path} :
    ns ∈ sortedNames levels dir entries ↔ ns ∈ namesIn levels entries ∧ dir.reaches ns = true := by
  rw [sortedNames, List.mem_mergeSort, List.mem_filter]

lemma sortedNames_le (levels : Option Nat) (dir : Path) (entries : Entries) :
    (sortedNames levels dir entries).Pairwise (· ≤ ·) := by
  have hsorted :
      (sortedNames levels dir entries).Pairwise fun ns ms => decide (ns ≤ ms) = true := by
    refine List.pairwise_mergeSort ?_ ?_ _
    · intro ns ms ks hnm hmk
      exact decide_eq_true (List.le_trans (of_decide_eq_true hnm) (of_decide_eq_true hmk))
    · intro ns ms
      simpa using List.le_total ns ms
  exact hsorted.imp of_decide_eq_true

/-- The names are strictly increasing. -/
lemma sortedNames_lt (h : entries.WellFormed) (levels : Option Nat) (dir : Path) :
    (sortedNames levels dir entries).Pairwise (· < ·) := by
  -- a sorted list without repetitions increases strictly
  have hnodup : (sortedNames levels dir entries).Nodup :=
    (List.mergeSort_perm _ _).nodup_iff.mpr ((namesIn_nodup h levels).filter _)
  refine (sortedNames_le levels dir entries).imp₂ ?_ hnodup
  intro ns ms hle hne
  exact (List.le_iff_lt_or_eq.mp hle).resolve_right hne

/-- The manifests of a directory are the paths to which their names lead, in the order of these. -/
lemma Tree.manifests_eq {tree : Tree} {dir : Path} {recursive : Bool}
    (h : ∀ ns ∈ namesIn (levelsOf recursive) entries, ∀ n ∈ ns, IsName n)
    (hd : tree.directory? dir = some entries) :
    tree.manifests dir recursive =
      (sortedNames (levelsOf recursive) dir entries).map dir.below := by
  have hdir := openable_of_resolve (directory?_eq_some_iff.mp hd)
  have hshort : dir.isTooLong = false := decide_eq_false (Nat.not_lt.mpr hdir.short)
  rw [Tree.manifests, hd]
  dsimp only
  rw [manifestsIn_eq_map _ _ _ hshort, sortedNames, List.map_mergeSort]
  · rfl
  · intro ns hns ms hms
    have hn := h ns (List.mem_filter.mp hns).1
    have hm := h ms (List.mem_filter.mp hms).1
    exact (Path.compare_below_ne_gt hdir.ne_nil hn hm).symm

/-! ## Listing entries in another order -/

/-- The entries of a directory, and those of the directories below it, in another order. -/
inductive Entries.Reordered : Entries → Entries → Prop where
  | nil : Reordered [] []
  | keep (e : Bytes × Entry) {entries entries' : Entries} (rest : Reordered entries entries') :
      Reordered (e :: entries) (e :: entries')
  | within (name : Bytes) {inner inner' entries entries' : Entries}
      (within : Reordered inner inner') (rest : Reordered entries entries') :
      Reordered ((name, .directory inner) :: entries) ((name, .directory inner') :: entries')
  | swap (e f : Bytes × Entry) (entries : Entries) :
      Reordered (e :: f :: entries) (f :: e :: entries)
  | trans {entries entries' entries'' : Entries} (first : Reordered entries entries')
      (second : Reordered entries' entries'') : Reordered entries entries''

/-- The same names are found in another order. -/
lemma Entries.Reordered.namesIn_perm (h : Reordered entries entries') (levels : Option Nat) :
    (namesIn levels entries).Perm (namesIn levels entries') := by
  induction h generalizing levels with
  | nil => exact .refl _
  | keep e rest ih =>
    simp only [namesIn_eq_flatMap, List.flatMap_cons] at ih ⊢
    exact (ih levels).append_left _
  | within name within rest ihWithin ih =>
    rw [namesIn, namesIn]
    refine List.Perm.append ?_ (ih levels)
    split
    · exact .refl _
    · exact (ihWithin _).map _
  | swap e f entries =>
    simp only [namesIn_eq_flatMap, List.flatMap_cons]
    rw [← List.append_assoc, ← List.append_assoc]
    exact List.perm_append_comm.append_right _
  | trans first second ihFirst ihSecond => exact (ihFirst levels).trans (ihSecond levels)

lemma Entries.Reordered.sortedNames_eq (h : Reordered entries entries') (levels : Option Nat)
    (dir : Path) : sortedNames levels dir entries = sortedNames levels dir entries' := by
  refine List.Perm.eq_of_pairwise ?_ (sortedNames_le levels dir entries)
    (sortedNames_le levels dir entries') ?_
  · intro ns ms _ _ hle hle'
    exact List.le_antisymm hle hle'
  · exact (List.mergeSort_perm _ _).trans
      (((h.namesIn_perm levels).filter _).trans (List.mergeSort_perm _ _).symm)

/-! ## Discovery -/

lemma leadsToManifest_levelsOf {recursive : Bool} {cs : List Bytes} {n : Bytes} :
    LeadsToManifest (levelsOf recursive) entries cs n ↔
      ∃ contents, entries.find? (cs ++ [n]) = some (.file contents) ∧
        (∀ c ∈ cs, c.head? ≠ some dot) ∧ isManifestName (Text.decodeLossy n) = true ∧
          (recursive = true ∨ cs.length ≤ 1) := by
  have hshown : (∀ c ∈ cs, isHidden c = false) ↔ ∀ c ∈ cs, c.head? ≠ some dot := by
    simp [isHidden]
  have hnear : (∀ k, levelsOf recursive = some k → cs.length ≤ k) ↔
      recursive = true ∨ cs.length ≤ 1 := by
    cases recursive <;> simp [levelsOf]
  constructor
  · rintro ⟨⟨contents, hf⟩, hnamed, hs, hn⟩
    exact ⟨contents, hf, hshown.mp hs, hnamed, hnear.mp hn⟩
  · rintro ⟨contents, hf, hs, hnamed, hn⟩
    exact ⟨⟨contents, hf⟩, hnamed, hshown.mpr hs, hnear.mpr hn⟩

/-- Discovery from a directory of a well-formed tree gives, in strictly increasing order and so each
once, the paths of just those files called as manifests are to which names lead through directories
that are not hidden, one at most unless all levels are searched, and whose paths can be opened. The
order is that of the names, bytewise, and it does not matter in what order directories list their
entries. -/
theorem Tree.manifests_exact {tree : Tree} {dir : Path} (recursive : Bool) (hwf : tree.WellFormed)
    (hd : tree.directory? dir = some entries) :
    (tree.manifests dir recursive).Pairwise (fun p q => p.compare q = .lt) ∧
      (tree.manifests dir recursive).Nodup ∧
      (∀ p, p ∈ tree.manifests dir recursive ↔
        ∃ cs n contents, entries.find? (cs ++ [n]) = some (.file contents) ∧
          (∀ c ∈ cs, c.head? ≠ some dot) ∧ isManifestName (Text.decodeLossy n) = true ∧
          (recursive = true ∨ cs.length ≤ 1) ∧ (dir.below cs).bytes.length ≤ maxPath ∧
          p = dir.below (cs ++ [n])) ∧
      (∀ ns ms : List Bytes, (∀ n ∈ ns, IsName n) → (∀ m ∈ ms, IsName m) →
        ((dir.below ns).compare (dir.below ms) = .lt ↔ ns < ms)) ∧
      ∀ (tree' : Tree) (entries' : Entries), tree'.directory? dir = some entries' →
        entries.Reordered entries' →
          tree'.manifests dir recursive = tree.manifests dir recursive := by
  have hentries := hwf.directory? hd
  have hdir := (openable_of_resolve (directory?_eq_some_iff.mp hd)).ne_nil
  have hnames (ns : List Bytes) (hns : ns ∈ namesIn (levelsOf recursive) entries) :
      ∀ n ∈ ns, IsName n := isName_of_mem_namesIn hentries hns
  have horder {ns ms : List Bytes} (hns : ∀ n ∈ ns, IsName n) (hms : ∀ m ∈ ms, IsName m) :
      (dir.below ns).compare (dir.below ms) = .lt ↔ ns < ms := by
    rw [Path.compare_below hdir hns hms, compareComponents_names_eq_lt_iff]
  have hlt : (tree.manifests dir recursive).Pairwise fun p q => p.compare q = .lt := by
    rw [manifests_eq hnames hd, List.pairwise_map]
    refine (sortedNames_lt hentries _ dir).imp_of_mem ?_
    intro ns ms hns hms
    have hn := hnames ns (mem_sortedNames.mp hns).1
    have hm := hnames ms (mem_sortedNames.mp hms).1
    exact (horder hn hm).mpr
  refine ⟨hlt, ?_, ?_, fun _ _ => horder, ?_⟩
  · refine hlt.imp ?_
    rintro p _ h rfl
    rw [Path.compare_self] at h
    cases h
  · intro p
    rw [manifests_eq hnames hd, List.mem_map]
    simp only [mem_sortedNames, mem_namesIn_iff hentries, leadsToManifest_levelsOf,
      Path.reaches_iff]
    constructor
    · rintro ⟨_, ⟨⟨cs, n, rfl, contents, hf, hs, hnamed, hn⟩, hreach⟩, rfl⟩
      rw [List.dropLast_concat] at hreach
      exact ⟨cs, n, contents, hf, hs, hnamed, hn, hreach, rfl⟩
    · rintro ⟨cs, n, contents, hf, hs, hnamed, hn, hreach, rfl⟩
      refine ⟨_, ⟨⟨cs, n, rfl, contents, hf, hs, hnamed, hn⟩, ?_⟩, rfl⟩
      rwa [List.dropLast_concat]
  · intro tree' entries' hd' hre
    have hnames' (ns : List Bytes) (hns : ns ∈ namesIn (levelsOf recursive) entries') :
        ∀ n ∈ ns, IsName n := hnames ns ((hre.namesIn_perm _).mem_iff.mpr hns)
    rw [manifests_eq hnames hd, manifests_eq hnames' hd', hre.sortedNames_eq]

/-- A directory with a manifest one level down, beside a hidden directory, a link to a manifest, and
a link to the directory itself. -/
def nested : Entries :=
  [(Text.encode "pkg".toList, .directory [(Text.encode "LLM.yml".toList, .file []),
      (Text.encode "loop".toList, .link (Path.ofString ".."))]),
    (Text.encode ".git".toList, .directory [(Text.encode "llm.yml".toList, .file [])]),
    (Text.encode "llm.json".toList, .link (Path.ofString "pkg/LLM.yml"))]

theorem manifests_exact_nested :
    let tree : Tree := { root := nested }
    tree.WellFormed ∧ tree.directory? (Path.ofString "/") = some nested ∧
      (tree.manifests (Path.ofString "/") false).Nodup ∧
      Path.ofString "/pkg/LLM.yml" ∈ tree.manifests (Path.ofString "/") false := by
  intro tree
  have hwf : tree.WellFormed := by
    refine .directory (by decide) (by decide) ?_ ?_
    · exact .file (by decide) (by decide) (.link (by decide) (by decide) .nil)
    · refine .directory (by decide) (by decide) ?_ ?_
      · exact .file (by decide) (by decide) .nil
      · exact .link (by decide) (by decide) .nil
  have hd : tree.directory? (Path.ofString "/") = some nested := rfl
  obtain ⟨-, hnodup, hmem, -⟩ := Tree.manifests_exact false hwf hd
  refine ⟨hwf, hd, hnodup, (hmem _).mpr ?_⟩
  exact ⟨[Text.encode "pkg".toList], Text.encode "LLM.yml".toList, [], rfl, by decide, by decide,
    .inr (Nat.le_refl 1), by decide, by decide⟩

/-- A working directory with a manifest one level down. -/
def oneDown : Entries :=
  [(Text.encode "sub".toList, .directory [(Text.encode "llm.yml".toList, .file [])])]

/-- Where the path of a directory is long, there may be directories in it whose paths are too long,
and what is in them is not found. -/
theorem manifests_dots :
    let tree : Tree := { root := [([0x77], .directory oneDown)], here := [[0x77]] }
    let dir := Path.dots 2047
    let sub := Text.encode "sub".toList
    let name := Text.encode "llm.yml".toList
    tree.WellFormed ∧ tree.directory? dir = some oneDown ∧
      oneDown.find? ([sub] ++ [name]) = some (.file []) ∧ (∀ c ∈ [sub], c.head? ≠ some dot) ∧
      isManifestName (Text.decodeLossy name) = true ∧ [sub].length ≤ 1 ∧
      dir.below ([sub] ++ [name]) ∉ tree.manifests dir false ∧
      dir.below ([sub] ++ [name]) ∉ tree.manifests dir true := by
  intro tree dir sub name
  have hwf : tree.WellFormed := by
    refine .directory (by decide) (by decide) ?_ .nil
    exact .directory (by decide) (by decide) (.file (by decide) (by decide) .nil) .nil
  have hd : tree.directory? dir = some oneDown :=
    Tree.directory?_eq_some_iff.mpr (Tree.resolve_dots (by decide) (by decide) rfl)
  have hlong : (dir.join sub).isTooLong = true := by
    have hdir : dir.bytes.length = 2 * 2047 := Path.length_dots 2047
    have hsub : sub.length = 3 := rfl
    have hjoin := Path.length_add_le_join dir sub
    refine decide_eq_true ?_
    unfold Tree.maxPath
    omega
  have hskip (levels : Option Nat) :
      (isHidden sub || levels == some 0 || (dir.join sub).isTooLong) = true := by
    rw [hlong, Bool.or_true]
  have hnone (recursive : Bool) : tree.manifests dir recursive = [] := by
    rw [Tree.manifests, hd]
    dsimp only
    rw [oneDown, manifestsIn, if_pos (hskip _), manifestsIn, List.mergeSort_nil]
  refine ⟨hwf, hd, rfl, by decide, by decide, Nat.le_refl 1, ?_, ?_⟩
  · rw [hnone]
    exact List.not_mem_nil
  · rw [hnone]
    exact List.not_mem_nil

end AgentManifest.Files
