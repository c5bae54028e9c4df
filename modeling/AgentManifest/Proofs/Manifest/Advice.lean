import Mathlib.Tactic.Lemma
import AgentManifest.Validator
import AgentManifest.Proofs.Json.Pointer
import AgentManifest.Proofs.Lint.Findings

/-!
# The order of advice

Advice comes in the order in which the checks run. Each check is a block of warnings of one kind;
in a block no two warnings are about one entry, and what can only be said once is said at most once
(`Precedes`). The blocks are put one behind the other, the warning of the size last.
-/

namespace AgentManifest

open Decimal (natString)
open Json (Value)
open Lint (Finding Lists HasEntry)
open Report (Warning WarningKind)

/-- The place of a kind among all kinds. -/
def Report.WarningKind.rank (k : WarningKind) : Nat := WarningKind.all.idxOf k

namespace Manifest

/-- The entry that a warning is about is there. -/
structure Locates (d : Value) (w : Warning) : Prop where
  code : w.kind = .codeLength → ∃ field ∈ ["quick_usage", "common_patterns"],
    ∃ i entry, HasEntry d field i entry ∧ w.path = field ++ "[" ++ natString i ++ "]"
  errors : w.kind = .missingExample → ∃ i entry, HasEntry d "error_handling" i entry ∧
    w.path = "error_handling" ++ "[" ++ natString i ++ "]"

/-- Warnings on a document come in order. -/
structure InOrder (d : Value) (ws : List Warning) : Prop where
  sorted : (ws.map Warning.kind).Pairwise fun k k' => k.rank ≤ k'.rank
  once : ∀ k ∈ [WarningKind.insufficientExamples, .deepNesting, .fileSize],
    (ws.map Warning.kind).count k ≤ 1
  sizeLast : ∀ w ∈ ws, w.kind = .fileSize → ws.getLast? = some w
  apart : ∀ k ∈ [WarningKind.codeLength, .missingExample],
    ((ws.filter fun w => w.kind = k).map Warning.path).Nodup
  locates : ∀ w ∈ ws, Locates d w

/-! ## Places of entries -/

lemma natString_inj {i j : Nat} (h : natString i = natString j) : i = j := by
  have hindex := congrArg Json.Pointer.index? (String.ofList_injective h)
  rw [Json.Pointer.index?_natText, Json.Pointer.index?_natText] at hindex
  exact Option.some.inj hindex

/-- The places of the entries of a section differ. -/
lemma place_inj {field : String} {i j : Nat}
    (h : field ++ "[" ++ natString i ++ "]" = field ++ "[" ++ natString j ++ "]") : i = j := by
  have hlist := congrArg String.toList h
  simp only [String.toList_append, List.append_cancel_right_eq, List.append_cancel_left_eq] at hlist
  exact natString_inj (String.toList_inj.mp hlist)

/-- No entry of one section with code has the place of an entry of the other one. -/
lemma place_usage_ne (i j : Nat) :
    "quick_usage" ++ "[" ++ natString i ++ "]" ≠
      "common_patterns" ++ "[" ++ natString j ++ "]" := by
  intro h
  have hlist := congrArg (fun s => s.toList.head?) h
  simp [String.toList_append] at hlist

/-! ## Blocks of warnings -/

/-- A warning may come before another one: it is of an earlier kind, or it is of the same kind, and
of a kind that may come more than once. -/
def Precedes (w w' : Warning) : Prop :=
  w.kind.rank < w'.kind.rank ∨ w.kind = w'.kind ∧ (w.kind = .missingSection ∨
    (w.kind = .codeLength ∨ w.kind = .missingExample) ∧ w.path ≠ w'.path)

/-- Warnings of kinds of certain ranks, each of which may come before those behind it. -/
structure Blocks (d : Value) (P : Nat → Prop) (ws : List Warning) : Prop where
  rank : ∀ w ∈ ws, P w.kind.rank
  precedes : ws.Pairwise Precedes
  locates : ∀ w ∈ ws, Locates d w

variable {c : Lint.Config} {d : Value} {ws vs : List Warning} {P : Nat → Prop} {r : Nat}
variable {f g : Finding}

lemma Blocks.nil (d : Value) (P : Nat → Prop) : Blocks d P [] :=
  ⟨fun _ h => absurd h List.not_mem_nil, .nil, fun _ h => absurd h List.not_mem_nil⟩

/-- A block of the next rank is put behind blocks of lower ranks. -/
lemma Blocks.append (h : Blocks d (· < r) ws) (hvs : Blocks d (· = r) vs) :
    Blocks d (· < r + 1) (ws ++ vs) := by
  refine ⟨?_, List.pairwise_append.mpr ⟨h.precedes, hvs.precedes, ?_⟩, ?_⟩
  · intro w hw
    rcases List.mem_append.mp hw with hw | hw
    · exact Nat.lt_succ_of_lt (h.rank w hw)
    · rw [hvs.rank w hw]
      exact Nat.lt_succ_self r
  · intro w hw w' hw'
    left
    rw [hvs.rank w' hw']
    exact h.rank w hw
  · intro w hw
    exact (List.mem_append.mp hw).elim (h.locates w) (hvs.locates w)

/-! ## Findings -/

lemma rank_warning (c : Lint.Config) (f : Finding) : (f.warning c).kind.rank = f.rank := by
  cases f <;> rfl

lemma locates_warning (h : f.Holds c d) : Locates d (f.warning c) := by
  cases f with
  | longCode field i lines =>
    obtain ⟨hfield, entry, code, hentry, -⟩ := h
    refine ⟨fun _ => ⟨field, ?_, i, entry, hentry, rfl⟩, nofun⟩
    simpa using hfield
  | missingExample i =>
    obtain ⟨entry, hentry, -⟩ := h
    exact ⟨nofun, fun _ => ⟨i, entry, hentry, rfl⟩⟩
  | missingSection | fewExamples | deepTree => exact ⟨nofun, nofun⟩

lemma position_ne (h : f.Before g) : f.position ≠ g.position := by
  intro heq
  rw [Finding.Before, heq] at h
  simp [Prod.lex_def] at h

/-- Of two findings of one check, the one that stands in front gives the warning that may come
before the other's. -/
lemma precedes_warning (h : f.Before g) (hrank : f.rank = g.rank) (hf : f.Holds c d)
    (hg : g.Holds c d) : Precedes (f.warning c) (g.warning c) := by
  have hne := position_ne h
  cases f with
  | longCode field i _ =>
    cases g with
    | longCode field' j _ =>
      refine .inr ⟨rfl, .inr ⟨.inl rfl, fun hpath => ?_⟩⟩
      rcases hf.1 with rfl | rfl <;> rcases hg.1 with rfl | rfl
      · cases place_inj hpath
        exact hne rfl
      · exact place_usage_ne i j hpath
      · exact place_usage_ne j i hpath.symm
      · cases place_inj hpath
        exact hne rfl
    | _ => cases hrank
  | missingSection _ _ =>
    cases g with
    | missingSection _ _ => exact .inr ⟨rfl, .inl rfl⟩
    | _ => cases hrank
  | fewExamples _ =>
    cases g with
    | fewExamples _ => exact absurd rfl hne
    | _ => cases hrank
  | missingExample i =>
    cases g with
    | missingExample j =>
      refine .inr ⟨rfl, .inr ⟨.inr rfl, fun hpath => ?_⟩⟩
      cases place_inj hpath
      exact hne rfl
    | _ => cases hrank
  | deepTree _ =>
    cases g with
    | deepTree _ => exact absurd rfl hne
    | _ => cases hrank

/-- The warnings that tell the findings of one check are a block. -/
lemma block_of_lists (h : Lists c (fun f => f.rank = r ∧ f.Holds c d) ws) :
    Blocks d (· = r) ws := by
  obtain ⟨fs, hfs, hmem, rfl⟩ := h
  refine ⟨List.forall_mem_map.mpr fun f hf => ?_, List.pairwise_map.mpr ?_,
    List.forall_mem_map.mpr fun f hf => locates_warning ((hmem f).mp hf).2⟩
  · rw [rank_warning]
    exact ((hmem f).mp hf).1
  · refine hfs.imp_of_mem fun {f g} hf hg hbefore => ?_
    obtain ⟨hrank, hholds⟩ := (hmem f).mp hf
    obtain ⟨hrank', hholds'⟩ := (hmem g).mp hg
    exact precedes_warning hbefore (hrank.trans hrank'.symm) hholds hholds'

/-- So is the warning of the size. -/
lemma block_fileSize (c : Lint.Config) (d : Value) (size? : Option Nat) :
    Blocks d (· = 5) (size?.bind (Lint.checkFileSize c)).toList := by
  have hkind : ∀ w ∈ (size?.bind (Lint.checkFileSize c)).toList, w.kind = .fileSize := by
    intro w hw
    obtain ⟨n, -, hn⟩ := Option.bind_eq_some_iff.mp (Option.mem_toList.mp hw)
    unfold Lint.checkFileSize at hn
    split at hn
    · cases hn
    · cases hn
      rfl
  refine ⟨fun w hw => ?_, ?_, fun w hw => ?_⟩
  · rw [hkind w hw]
    rfl
  · cases size?.bind (Lint.checkFileSize c) with
    | none => exact .nil
    | some w => exact List.pairwise_singleton _ w
  · constructor
    · intro h
      cases (hkind w hw).symm.trans h
    · intro h
      cases (hkind w hw).symm.trans h

/-- The advice is made of the blocks of all checks. -/
lemma blocks_advice (v : Validator) (d : Value) (size? : Option Nat) :
    Blocks d (· < 6) (v.advice d size?) := by
  have hcode := (Blocks.nil d (· < 0)).append (block_of_lists (c := v.config) Lint.lists_longCode)
  have hsections := hcode.append (block_of_lists (c := v.config) Lint.lists_missingSection)
  have husage := hsections.append (block_of_lists (c := v.config) Lint.lists_fewExamples)
  have herrors := husage.append (block_of_lists (c := v.config) Lint.lists_missingExample)
  have htree := herrors.append (block_of_lists (c := v.config) Lint.lists_deepTree)
  exact htree.append (block_fileSize v.config d size?)

/-! ## Order -/

/-- Blocks of warnings come in order. -/
theorem Blocks.inOrder (h : Blocks d (· < 6) ws) : InOrder d ws where
  sorted := by
    apply List.pairwise_map.mpr
    refine h.precedes.imp fun {w w'} hprecedes => ?_
    rcases hprecedes with hlt | ⟨heq, -⟩
    · exact Nat.le_of_lt hlt
    · rw [heq]
  once := by
    intro k hk
    -- no two warnings of such a kind may come one before the other
    have hnone : (ws.filter fun w => w.kind == k).Pairwise fun _ _ => False := by
      refine (h.precedes.filter _).imp_of_mem fun {w w'} hw hw' hprecedes => ?_
      have hkind : w.kind = k := beq_iff_eq.mp (List.mem_filter.mp hw).2
      have hkind' : w'.kind = k := beq_iff_eq.mp (List.mem_filter.mp hw').2
      rw [Precedes, hkind, hkind'] at hprecedes
      simp only [List.mem_cons, List.not_mem_nil, or_false] at hk
      rcases hk with rfl | rfl | rfl <;> simp at hprecedes
    rw [List.count, List.countP_map, List.countP_eq_length_filter]
    show (ws.filter fun w => w.kind == k).length ≤ 1
    cases hfilter : ws.filter fun w => w.kind == k with
    | nil => exact Nat.zero_le 1
    | cons w vs =>
      rw [hfilter] at hnone
      cases vs with
      | nil => exact Nat.le_refl 1
      | cons w' vs => exact absurd (List.rel_of_pairwise_cons hnone List.mem_cons_self) id
  sizeLast := by
    intro w hw hkind
    obtain ⟨front, back, rfl⟩ := List.append_of_mem hw
    have hback : back = [] := by
      apply List.eq_nil_iff_forall_not_mem.mpr
      intro w' hw'
      have hprecedes :=
        List.rel_of_pairwise_cons (List.pairwise_append.mp h.precedes).2.1 hw'
      have hlt := h.rank w' (by simp [hw'])
      rw [Precedes, hkind] at hprecedes
      rcases hprecedes with hrank | ⟨-, hother | ⟨hother | hother, -⟩⟩
      · exact absurd hlt (Nat.not_lt.mpr hrank)
      all_goals cases hother
    rw [hback, List.getLast?_concat]
  apart := by
    intro k hk
    apply List.pairwise_map.mpr
    refine (h.precedes.filter _).imp_of_mem fun {w w'} hw hw' hprecedes => ?_
    have hkind : w.kind = k := of_decide_eq_true (List.mem_filter.mp hw).2
    have hkind' : w'.kind = k := of_decide_eq_true (List.mem_filter.mp hw').2
    rcases hprecedes with hlt | ⟨-, hsection | ⟨-, hne⟩⟩
    · rw [hkind, hkind'] at hlt
      exact absurd hlt (Nat.lt_irrefl _)
    · rw [hsection] at hkind
      simp [← hkind] at hk
    · exact hne
  locates := h.locates

/-- The warnings of a validator come in the order of the checks. On a document that satisfies the
schema, a size adds its own warning at the end, if it has one, and changes nothing else; any other
document gets its violations and no warning. -/
theorem validate_inOrder (v : Validator) (d : Value) :
    (∀ bestPractices size?, InOrder d (v.validate bestPractices d size?).warnings) ∧
    (v.schema.evaluate d = [] → ∀ n, (v.validate true d (some n)).warnings =
      (v.validate true d none).warnings ++ (Lint.checkFileSize v.config n).toList) ∧
    (v.schema.evaluate d ≠ [] → ∀ size?, (v.validate true d size?).errors = v.schema.evaluate d ∧
      (v.validate true d size?).warnings = []) := by
  have hnone : InOrder d [] := (Blocks.nil d (· < 6)).inOrder
  unfold Validator.validate
  cases hevaluate : v.schema.evaluate d with
  | nil =>
    refine ⟨fun bestPractices size? => ?_, fun _ n => ?_, fun h => absurd rfl h⟩
    · cases bestPractices with
      | true => exact (blocks_advice v d size?).inOrder
      | false => exact hnone
    · show v.advice d (some n) = v.advice d none ++ _
      rw [Validator.advice, Validator.advice, Option.bind_some, Option.bind_none,
        Option.toList_none, List.append_nil]
  | cons violation violations =>
    exact ⟨fun _ _ => hnone, nofun, fun _ _ => ⟨rfl, rfl⟩⟩

end Manifest
end AgentManifest
