import AgentManifest.Proofs.Files.Discovery

/-!
# Opening what is found

A path that was found from a directory leads to the file that was found, through whatever links the
path of the directory leads: following the longer path takes the same steps up to the directory, and
from there one step for each name. Only its length may keep it from being opened.
-/

namespace AgentManifest.Files

open Text (Bytes)

namespace Path

variable {p : Path} {name : Bytes} {ns : List Bytes}

/-- Names that lead on are parts behind the parts of the path, but for an empty last one. -/
lemma parts_below (hp : p.bytes ≠ []) (hns : ∀ n ∈ ns, IsName n) (hne : ns ≠ []) :
    ∃ front last, (last = [] ∨ last = [[]]) ∧ p.parts = front ++ last ∧
      (p.below ns).parts = front ++ ns := by
  induction ns generalizing p with
  | nil => exact absurd rfl hne
  | cons n ns ih =>
    rw [List.forall_mem_cons] at hns
    obtain ⟨front, last, hlast, -, hparts, hjoin⟩ := parts_join hp hns.1
    refine ⟨front, last, hlast, hparts, ?_⟩
    cases ns with
    | nil => exact hjoin
    | cons m ms =>
      obtain ⟨front', last', hlast', hparts', hbelow⟩ :=
        ih (join_bytes_ne_nil hns.1) hns.2 (List.cons_ne_nil m ms)
      rw [hjoin] at hparts'
      -- the path ends in a name now, so no empty part is left over
      rcases hlast' with rfl | rfl
      · rw [List.append_nil] at hparts'
        rw [below_cons, hbelow, ← hparts', List.append_assoc]
        rfl
      · obtain ⟨-, ⟨⟩⟩ := List.append_inj' hparts' rfl
        exact absurd rfl hns.1.ne_nil

lemma isAbsolute_below (hp : p.bytes ≠ []) (hns : ∀ n ∈ ns, IsName n) :
    (p.below ns).isAbsolute = p.isAbsolute := by
  induction ns generalizing p with
  | nil => rfl
  | cons n ns ih =>
    rw [List.forall_mem_cons] at hns
    rw [below_cons, ih (join_bytes_ne_nil hns.1) hns.2, isAbsolute_join hp]

lemma length_below (hns : ∀ n ∈ ns, IsName n) :
    p.bytes.length + ns.length ≤ (p.below ns).bytes.length := by
  induction ns generalizing p with
  | nil => exact Nat.le_refl _
  | cons n ns ih =>
    rw [List.forall_mem_cons] at hns
    have hn := List.length_pos_iff.mpr hns.1.ne_nil
    have hjoin := length_add_le_join p n
    have hbelow := ih (p := p.join n) hns.2
    rw [below_cons, List.length_cons]
    omega

lemma noNul_below (hp : 0 ∉ p.bytes) (hns : ∀ n ∈ ns, IsName n) : 0 ∉ (p.below ns).bytes := by
  induction ns generalizing p with
  | nil => exact hp
  | cons n ns ih =>
    rw [List.forall_mem_cons] at hns
    refine ih ?_ hns.2
    have hslash : (0 : UInt8) ≠ slash := by decide
    unfold join
    split
    · simp [hp, hns.1.noNul]
    · simp [hp, hns.1.noNul, hslash]

end Path

namespace Tree

variable {tree : Tree} {entries : Entries} {fuel links : Nat} {here : List Bytes}

/-- On the way to a directory, what is done about a part does not depend on the parts behind it: the
walk goes on from somewhere, first through the target of a link if the part was one. -/
lemma walk_step {part : Bytes} {parts : List Bytes}
    (h : tree.walk (fuel + 1) links here (part :: parts) = .ok (.directory entries)) :
    ∃ links' here' inserted,
      tree.walk fuel links' here' (inserted ++ parts) = .ok (.directory entries) ∧
        ∀ k rest, tree.walk (k + 1) links here (part :: rest) =
          tree.walk k links' here' (inserted ++ rest) := by
  rw [walk] at h
  split at h
  case isTrue hskip => exact ⟨links, here, [], h, fun k rest => by rw [walk, if_pos hskip]; rfl⟩
  case isFalse hskip =>
    split at h
    case isTrue hup =>
      exact ⟨links, here.tail, [], h, fun k rest => by rw [walk, if_neg hskip, if_pos hup]; rfl⟩
    case isFalse hup =>
      split at h
      case isTrue => cases h
      case isFalse hshort =>
        split at h
        case h_1 => cases h
        case h_2 inner hdir =>
          refine ⟨links, part :: here, [], h, fun k rest => ?_⟩
          rw [walk, if_neg hskip, if_neg hup, if_neg hshort, hdir]
          rfl
        case h_3 => split at h <;> cases h
        case h_4 target hlink =>
          split at h
          case h_1 => cases h
          case h_2 links =>
            split at h
            case isTrue => cases h
            case isFalse hempty =>
              refine ⟨links, _, _, h, fun k rest => ?_⟩
              rw [walk, if_neg hskip, if_neg hup, if_neg hshort, hlink]
              dsimp only
              rw [if_neg hempty]

lemma walk_nil {entry : Entry} (h : tree.walk fuel links here [] = .ok entry) :
    tree.root.find? here.reverse = some entry := by
  cases fuel with
  | zero => cases h
  | succ fuel =>
    rw [walk] at h
    split at h
    case h_1 e he =>
      obtain rfl := Except.ok.inj h
      exact he
    case h_2 => cases h

/-- A walk that ends in a directory reaches that directory before any parts that are put in place of
its last, empty one. -/
lemma walk_front {front last : List Bytes} (hlast : last = [] ∨ last = [[]])
    (h : tree.walk fuel links here (front ++ last) = .ok (.directory entries)) :
    ∃ used links' here', used < fuel ∧ tree.root.find? here'.reverse = some (.directory entries) ∧
      ∀ k rest, tree.walk (used + k) links here (front ++ rest) =
        tree.walk k links' here' rest := by
  -- a link puts the parts of its target before those that are left, so the front may grow; the fuel
  -- does not
  induction fuel generalizing links here front with
  | zero => cases h
  | succ fuel ih =>
    cases front with
    | nil =>
      have hhere : tree.root.find? here.reverse = some (.directory entries) := by
        rcases hlast with rfl | rfl
        · exact walk_nil h
        · rw [List.nil_append, walk, if_pos (.inl rfl)] at h
          exact walk_nil h
      exact ⟨0, links, here, by omega, hhere, fun k rest => by rw [Nat.zero_add]; rfl⟩
    | cons part front =>
      rw [List.cons_append] at h
      obtain ⟨links', here', inserted, h', hstep⟩ := walk_step h
      rw [← List.append_assoc] at h'
      obtain ⟨used, links'', here'', hused, hfind, hwalk⟩ := ih h'
      refine ⟨used + 1, links'', here'', by omega, hfind, fun k rest => ?_⟩
      rw [Nat.add_right_comm, List.cons_append, hstep, ← List.append_assoc, hwalk]

/-- From a directory, names lead to what they lead to among its entries. -/
lemma walk_names {ns : List Bytes} {contents : Bytes}
    (hhere : tree.root.find? here.reverse = some (.directory entries)) (hns : ∀ n ∈ ns, IsName n)
    (hf : entries.find? ns = some (.file contents)) (hfuel : ns.length ≤ fuel) :
    tree.walk fuel links here ns = .ok (.file contents) := by
  induction ns generalizing here entries fuel with
  | nil => cases hf
  | cons n ns ih =>
    rw [List.forall_mem_cons] at hns
    rw [List.length_cons] at hfuel
    obtain ⟨fuel, rfl⟩ : ∃ k, fuel = k + 1 := ⟨fuel - 1, by omega⟩
    have hskip : ¬(n = [] ∨ n = [dot]) := by
      rintro (rfl | rfl)
      · exact hns.1.ne_nil rfl
      · exact hns.1.ne_current rfl
    have hshort : ¬maxName < n.length := Nat.not_lt.mpr hns.1.short
    have hnext : tree.root.find? (n :: here).reverse = entries.lookup n := by
      rw [List.reverse_cons, Entries.find?_append hhere, Entries.find?_singleton]
    rw [walk, if_neg hskip, if_neg hns.1.ne_parent, if_neg hshort, hnext]
    cases ns with
    | nil =>
      rw [Entries.find?_singleton] at hf
      rw [hf]
      rfl
    | cons m ms =>
      obtain ⟨inner, hn, hf⟩ := Entries.find?_cons_eq_some_iff.mp hf
      rw [hn] at hnext ⊢
      exact ih hnext hns.2 hf (by omega)

/-- The budget of a path grows with its length. -/
lemma budget_add {p q : Path} {n : Nat} (h : p.bytes.length + n ≤ q.bytes.length) :
    tree.budget p + n ≤ tree.budget q := by
  unfold budget
  omega

/-- What names lead to from a directory is what the path below it leads to, if that can be
opened. -/
theorem resolve_below {dir : Path} {ns : List Bytes} {contents : Bytes}
    (hd : tree.resolve dir = .ok (.directory entries)) (hns : ∀ n ∈ ns, IsName n)
    (hf : entries.find? ns = some (.file contents))
    (hshort : (dir.below ns).bytes.length ≤ maxPath) :
    tree.resolve (dir.below ns) = .ok (.file contents) := by
  have hdir := openable_of_resolve hd
  have hne : ns ≠ [] := by
    rintro rfl
    cases hf
  have hopen : Openable (dir.below ns) := by
    have hlength := Path.length_below (p := dir) hns
    have hpos := List.length_pos_iff.mpr hdir.ne_nil
    exact ⟨Path.noNul_below hdir.noNul hns, List.length_pos_iff.mp (by omega), hshort⟩
  obtain ⟨front, last, hlast, hparts, hbelow⟩ := Path.parts_below hdir.ne_nil hns hne
  rw [resolve_eq_walk hdir, hparts] at hd
  obtain ⟨used, links, here, hused, hhere, hwalk⟩ := walk_front hlast hd
  have hbudget := tree.budget_add (Path.length_below (p := dir) hns)
  -- the longer path has fuel for the steps of the shorter one, and for a step with each name
  obtain ⟨k, hk⟩ : ∃ k, tree.budget (dir.below ns) = used + k :=
    ⟨tree.budget (dir.below ns) - used, by omega⟩
  rw [resolve_eq_walk hopen, hbelow, Path.isAbsolute_below hdir.ne_nil hns, hk, hwalk]
  exact walk_names hhere hns hf (by omega)

/-- A path that is too long is not followed. -/
lemma resolve_of_long {p : Path} (hnul : 0 ∉ p.bytes) (h : maxPath < p.bytes.length) :
    tree.resolve p = .error .nameTooLong := by
  have hne : p.bytes ≠ [] := List.length_pos_iff.mp (by omega)
  simp [resolve, hnul, hne, h]

/-- A name may be too long for a directory. -/
lemma resolve_join_of_long {dir : Path} {name : Bytes} {entry : Entry}
    (hd : tree.resolve dir = .ok entry) (hn : IsName name)
    (h : maxPath < dir.bytes.length + name.length) :
    tree.resolve (dir.join name) = .error .nameTooLong := by
  have hjoin := Path.length_add_le_join dir name
  have hnul := Path.noNul_below (openable_of_resolve hd).noNul (List.forall_mem_singleton.mpr hn)
  exact resolve_of_long hnul (by omega)

/-- A manifest that was found is a file, and only the length of its path may hide that. -/
theorem resolve_of_mem_manifests {dir p : Path} {recursive : Bool} (hwf : tree.WellFormed)
    (hd : tree.directory? dir = some entries) (hp : p ∈ tree.manifests dir recursive) :
    (p.bytes.length ≤ maxPath → ∃ contents, tree.resolve p = .ok (.file contents)) ∧
      (maxPath < p.bytes.length → tree.resolve p = .error .nameTooLong) := by
  have hentries := hwf.directory? hd
  have hresolve := directory?_eq_some_iff.mp hd
  rw [manifests_eq (fun ns => isName_of_mem_namesIn hentries) hd, List.mem_map] at hp
  obtain ⟨ns, hns, rfl⟩ := hp
  have hns := (mem_sortedNames.mp hns).1
  have hnames := isName_of_mem_namesIn hentries hns
  obtain ⟨cs, n, rfl, ⟨contents, hf⟩, -⟩ := (mem_namesIn_iff hentries).mp hns
  constructor
  · intro hshort
    exact ⟨contents, resolve_below hresolve hnames hf hshort⟩
  · exact resolve_of_long (Path.noNul_below (openable_of_resolve hresolve).noNul hnames)

end Tree
end AgentManifest.Files
