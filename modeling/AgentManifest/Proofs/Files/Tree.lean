import Mathlib.Tactic.Lemma
import AgentManifest.Proofs.Files.Path

/-!
# File trees

In a well-formed tree the entries of a directory have names of their own, and names that can stand
between slashes. Names lead on from what names lead to, and a path leads only to what names lead to.
-/

namespace AgentManifest.Files

open Text (Bytes)

namespace Entries

/-- The names in a directory. -/
def names (entries : Entries) : List Bytes := entries.map Prod.fst

/-- The entries of a directory, and of all directories below it, have proper names, each name once
in a directory. -/
inductive WellFormed : Entries → Prop where
  | nil : WellFormed []
  | file {name : Bytes} {contents : Bytes} {entries : Entries} (proper : IsName name)
      (fresh : name ∉ names entries) (rest : WellFormed entries) :
      WellFormed ((name, .file contents) :: entries)
  | link {name : Bytes} {target : Path} {entries : Entries} (proper : IsName name)
      (fresh : name ∉ names entries) (rest : WellFormed entries) :
      WellFormed ((name, .link target) :: entries)
  | directory {name : Bytes} {inner entries : Entries} (proper : IsName name)
      (fresh : name ∉ names entries) (within : WellFormed inner) (rest : WellFormed entries) :
      WellFormed ((name, .directory inner) :: entries)

variable {entries inner : Entries} {name : Bytes} {entry : Entry}

/-- What holds of the first entry of a well-formed directory, whatever kind it is of. -/
lemma WellFormed.cons_inv (h : WellFormed ((name, entry) :: entries)) :
    IsName name ∧ name ∉ entries.names ∧ WellFormed entries := by
  cases h with
  | file proper fresh rest => exact ⟨proper, fresh, rest⟩
  | link proper fresh rest => exact ⟨proper, fresh, rest⟩
  | directory proper fresh within rest => exact ⟨proper, fresh, rest⟩

lemma WellFormed.isName (h : WellFormed entries) (hm : (name, entry) ∈ entries) : IsName name := by
  induction entries with
  | nil => cases hm
  | cons e entries ih =>
    cases hm with
    | head => exact h.cons_inv.1
    | tail _ hm => exact ih h.cons_inv.2.2 hm

lemma WellFormed.within (h : WellFormed entries) (hm : (name, .directory inner) ∈ entries) :
    WellFormed inner := by
  induction h with
  | nil => cases hm
  | file _ _ _ ih | link _ _ _ ih =>
    cases hm with
    | tail _ hm => exact ih hm
  | directory _ _ within _ _ ih =>
    cases hm with
    | head => exact within
    | tail _ hm => exact ih hm

/-- Names of their own make looking up an entry the same as having it. -/
lemma WellFormed.lookup_eq_some_iff (h : WellFormed entries) :
    entries.lookup name = some entry ↔ (name, entry) ∈ entries := by
  induction entries with
  | nil => simp
  | cons e entries ih =>
    obtain ⟨key, value⟩ := e
    obtain ⟨-, fresh, rest⟩ := h.cons_inv
    rw [List.lookup_cons]
    by_cases hk : name = key
    · subst hk
      have hnot : (name, entry) ∉ entries := fun hm => fresh (List.mem_map_of_mem hm)
      simp [hnot, eq_comm]
    · have hne : (name == key) = false := beq_eq_false_iff_ne.mpr hk
      simp [hne, hk, ih rest]

/-! ## Following names -/

@[simp] lemma find?_nil (entries : Entries) : entries.find? [] = some (.directory entries) := rfl

/-- A single name leads to the entry with that name. -/
lemma find?_singleton : entries.find? [name] = entries.lookup name := by
  rw [find?]
  cases entries.lookup name with
  | none => rfl
  | some entry => cases entry <;> rfl

/-- Names lead on only from a directory. -/
lemma find?_cons_eq_some_iff {n m : Bytes} {ns : List Bytes} :
    entries.find? (n :: m :: ns) = some entry ↔
      ∃ inner, entries.lookup n = some (.directory inner) ∧ find? inner (m :: ns) = some entry := by
  rw [find?]
  cases entries.lookup n with
  | none => simp
  | some e => cases e <;> simp

/-- Names behind those that lead to a directory lead on from it. -/
lemma find?_append {ns ms : List Bytes} (h : entries.find? ns = some (.directory inner)) :
    entries.find? (ns ++ ms) = inner.find? ms := by
  induction ns generalizing entries with
  | nil =>
    obtain rfl : entries = inner := by simpa using h
    rfl
  | cons n ns ih =>
    rw [find?] at h
    rw [List.cons_append, find?]
    cases hn : entries.lookup n with
    | none => simp [hn] at h
    | some e =>
      cases e with
      | directory es =>
        rw [hn] at h
        exact ih h
      | file contents =>
        rw [hn] at h
        cases ns <;> simp at h
      | link target =>
        rw [hn] at h
        cases ns <;> simp at h

/-- A well-formed directory leads by proper names to well-formed directories. -/
lemma WellFormed.find? {ns : List Bytes} (h : WellFormed entries)
    (hf : entries.find? ns = some entry) :
    (∀ n ∈ ns, IsName n) ∧ ∀ inner, entry = .directory inner → WellFormed inner := by
  induction ns generalizing entries with
  | nil =>
    obtain rfl : Entry.directory entries = entry := by simpa using hf
    refine ⟨by simp, ?_⟩
    rintro inner ⟨⟩
    exact h
  | cons n ns ih =>
    cases ns with
    | nil =>
      rw [find?_singleton, h.lookup_eq_some_iff] at hf
      refine ⟨by simpa using h.isName hf, ?_⟩
      rintro inner rfl
      exact h.within hf
    | cons m ns =>
      obtain ⟨inner, hn, hf⟩ := find?_cons_eq_some_iff.mp hf
      rw [h.lookup_eq_some_iff] at hn
      obtain ⟨hns, hinner⟩ := ih (h.within hn) hf
      exact ⟨List.forall_mem_cons.mpr ⟨h.isName hn, hns⟩, hinner⟩

end Entries

/-! ## Following paths -/

/-- A tree is well formed if its root is. -/
def Tree.WellFormed (tree : Tree) : Prop := tree.root.WellFormed

namespace Tree

variable {tree : Tree} {p : Path} {entry : Entry}

/-- What a path leads to has names of its own. -/
lemma walk_ok {fuel links : Nat} {at' parts : List Bytes}
    (h : tree.walk fuel links at' parts = .ok entry) :
    ∃ names, tree.root.find? names = some entry := by
  -- every way on is a walk with less fuel; the others end in an error or at an entry
  induction fuel generalizing links at' parts with
  | zero => cases h
  | succ fuel ih =>
    cases parts with
    | nil =>
      rw [walk] at h
      split at h
      case h_1 e he =>
        obtain rfl := Except.ok.inj h
        exact ⟨_, he⟩
      case h_2 => cases h
    | cons part parts =>
      rw [walk] at h
      split at h
      case isTrue => exact ih h
      case isFalse =>
        split at h
        case isTrue => exact ih h
        case isFalse =>
          split at h
          case isTrue => cases h
          case isFalse =>
            split at h
            case h_1 => cases h
            case h_2 => exact ih h
            case h_3 contents hfile =>
              split at h
              case isTrue =>
                obtain rfl := Except.ok.inj h
                exact ⟨_, hfile⟩
              case isFalse => cases h
            case h_4 target hlink =>
              split at h
              case h_1 => cases h
              case h_2 =>
                split at h
                case isTrue => cases h
                case isFalse => exact ih h

/-- A path can be opened, if there is anything at its end. -/
structure Openable (p : Path) : Prop where
  noNul : 0 ∉ p.bytes
  ne_nil : p.bytes ≠ []
  short : p.bytes.length ≤ maxPath

/-- A path that can be opened is followed part by part. -/
lemma resolve_eq_walk (h : Openable p) :
    tree.resolve p = tree.walk (tree.budget p) maxLinks
      (if p.isAbsolute then [] else tree.here.reverse) p.parts := by
  have hshort : ¬maxPath < p.bytes.length := Nat.not_lt.mpr h.short
  simp [resolve, h.noNul, h.ne_nil, hshort, Path.parts]

/-- Only a path that can be opened leads anywhere. -/
lemma openable_of_resolve (h : tree.resolve p = .ok entry) : Openable p := by
  unfold resolve at h
  split at h
  case isTrue => cases h
  case isFalse hnul =>
    split at h
    case isTrue => cases h
    case isFalse hnil =>
      split at h
      case isTrue => cases h
      case isFalse hshort =>
        exact ⟨by simpa using hnul, by simpa using hnil, Nat.not_lt.mp hshort⟩

lemma resolve_ok (h : tree.resolve p = .ok entry) :
    ∃ names, tree.root.find? names = some entry := by
  rw [resolve_eq_walk (openable_of_resolve h)] at h
  exact walk_ok h

lemma directory?_eq_some_iff {entries : Entries} :
    tree.directory? p = some entries ↔ tree.resolve p = .ok (.directory entries) := by
  unfold directory?
  split
  case h_1 es hes => simp [hes]
  case h_2 hne => simpa using fun h => hne _ h

/-- Single dots lead nowhere else. -/
lemma walk_dots {fuel links n : Nat} {here : List Bytes} (hfuel : n + 2 ≤ fuel)
    (hhere : tree.root.find? here.reverse = some entry) :
    tree.walk fuel links here (List.replicate n [dot] ++ [[]]) = .ok entry := by
  obtain ⟨fuel, rfl⟩ : ∃ k, fuel = k + 2 := ⟨fuel - 2, by omega⟩
  induction n generalizing fuel with
  | zero =>
    rw [List.replicate_zero, List.nil_append, walk, if_pos (.inl rfl), walk, hhere]
  | succ n ih =>
    obtain ⟨fuel, rfl⟩ : ∃ k, fuel = k + 1 := ⟨fuel - 1, by omega⟩
    rw [List.replicate_succ, List.cons_append, walk, if_pos (.inr rfl)]
    exact ih fuel (by omega)

/-- A path of single dots leads to the working directory. -/
lemma resolve_dots {n : Nat} (hpos : 0 < n) (hshort : 2 * n ≤ maxPath)
    (hhere : tree.root.find? tree.here = some entry) :
    tree.resolve (.dots n) = .ok entry := by
  have hlength := Path.length_dots n
  have hopen : Openable (.dots n) :=
    ⟨Path.noNul_dots n, List.length_pos_iff.mp (by omega), by omega⟩
  rw [resolve_eq_walk hopen, Path.isAbsolute_dots, Path.parts_dots]
  refine walk_dots ?_ (by simpa using hhere)
  unfold budget
  omega

/-- The directories of a well-formed tree are well formed. -/
lemma WellFormed.directory? {entries : Entries} (h : tree.WellFormed)
    (hd : tree.directory? p = some entries) : entries.WellFormed := by
  obtain ⟨names, hnames⟩ := resolve_ok (directory?_eq_some_iff.mp hd)
  exact (Entries.WellFormed.find? h hnames).2 entries rfl

end Tree
end AgentManifest.Files
