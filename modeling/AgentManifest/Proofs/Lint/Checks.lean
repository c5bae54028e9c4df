import Mathlib.Logic.Basic
import Mathlib.Tactic.Lemma
import AgentManifest.Lint.Checks
import AgentManifest.Proofs.Lint.Depth

/-!
# What the checks pass over

Each check gives no warning exactly if what it looks at is within the thresholds.
-/

namespace AgentManifest.Lint

open Json (Value)
open Report (Warning)

variable {c : Config} {d : Value}

lemma checkEntries_eq_nil_iff {check : Nat → Value → Option Warning} {P : Value → Prop}
    (h : ∀ i v, check i v = none ↔ P v) (i : Nat) (vs : List Value) :
    checkEntries check i vs = [] ↔ ∀ v ∈ vs, P v := by
  induction vs generalizing i with
  | nil => simp [checkEntries]
  | cons v vs ih =>
    rw [checkEntries, List.append_eq_nil_iff, ih, List.forall_mem_cons, Option.toList_eq_nil_iff,
      h]

/-- The entries of a section are found if it is an array. -/
lemma entries?_eq_some_iff {field : String} {entries : List Value} :
    entries? d field = some entries ↔ d.get? field = some (.array entries) := by
  unfold entries?
  split
  case h_1 heq => rw [heq, Option.some.injEq, Option.some.injEq, Value.array.injEq]
  case h_2 hother =>
    refine iff_of_false nofun fun heq => hother entries heq

/-- What holds of every array in a section holds of the one that is found. -/
lemma forall_array_iff {field : String} {entries : List Value} {P : List Value → Prop}
    (h : entries? d field = some entries) :
    (∀ entries, d.get? field = some (.array entries) → P entries) ↔ P entries := by
  have hget := entries?_eq_some_iff.mp h
  constructor
  · intro hall
    exact hall entries hget
  · intro hP entries' hget'
    cases hget.symm.trans hget'
    exact hP

lemma not_array_of_none {field : String} (h : entries? d field = none) {entries : List Value} :
    d.get? field ≠ some (.array entries) := by
  intro hget
  rw [entries?_eq_some_iff.mpr hget] at h
  cases h

lemma string?_eq_some_iff {v : Value} {s : String} : v.string? = some s ↔ v = .string s := by
  cases v <;> simp [Value.string?]

lemma longCode?_eq_none_iff (field : String) (index : Nat) (entry : Value) :
    longCode? c field index entry = none ↔
      ∀ code, entry.get? "code" = some (.string code) → lineCount code ≤ c.maxCodeLines := by
  unfold longCode?
  have hbind (code : String) : (entry.get? "code").bind Value.string? = some code ↔
      entry.get? "code" = some (.string code) := by
    simp only [Option.bind_eq_some_iff, string?_eq_some_iff, exists_eq_right]
  split
  case h_1 hnone =>
    refine iff_of_true rfl fun code hcode => ?_
    rw [(hbind code).mpr hcode] at hnone
    cases hnone
  case h_2 code hcode =>
    have hget := (hbind code).mp hcode
    constructor
    · intro h code' hget'
      cases hget.symm.trans hget'
      by_cases hle : lineCount code ≤ c.maxCodeLines
      · exact hle
      · rw [if_neg hle] at h
        cases h
    · intro h
      rw [if_pos (h code hget)]

/-- No code has too many lines. -/
lemma checkCodeLength_eq_nil_iff :
    checkCodeLength c d = [] ↔ ∀ field ∈ codeSections, ∀ entries,
      d.get? field = some (.array entries) → ∀ entry ∈ entries, ∀ code,
        entry.get? "code" = some (.string code) → lineCount code ≤ c.maxCodeLines := by
  rw [checkCodeLength, List.flatMap_eq_nil_iff]
  refine forall₂_congr fun field _ => ?_
  split
  case h_1 entries he =>
    rw [checkEntries_eq_nil_iff (longCode?_eq_none_iff field), forall_array_iff he]
  case h_2 he => exact iff_of_true rfl fun entries hget => absurd hget (not_array_of_none he)

/-- No recommended section is missing. -/
lemma checkSections_eq_nil_iff :
    checkSections c d = [] ↔ ∀ field ∈ c.recommendedSections, hasSection d field = true := by
  simp [checkSections, List.filter_eq_nil_iff]

lemma hasSection_iff {field : String} :
    hasSection d field = true ↔ ∃ v, d.get? field = some v ∧ v ≠ .null := by
  unfold hasSection
  split <;> simp_all

/-- There are enough examples of use. -/
lemma checkUsageExamples_eq_nil_iff :
    checkUsageExamples c d = [] ↔ ∀ entries, d.get? "quick_usage" = some (.array entries) →
      c.minUsageExamples ≤ entries.length := by
  unfold checkUsageExamples
  split
  case h_1 he => exact iff_of_true rfl fun entries hget => absurd hget (not_array_of_none he)
  case h_2 entries he =>
    rw [forall_array_iff he]
    by_cases hle : c.minUsageExamples ≤ entries.length <;> simp [hle]

/-- No solution lacks an example. -/
lemma checkErrorExamples_eq_nil_iff :
    checkErrorExamples d = [] ↔ ∀ entries, d.get? "error_handling" = some (.array entries) →
      ∀ entry ∈ entries, isPresent (entry.get? "solution") = true →
        isPresent (entry.get? "example") = true := by
  have hnone (index : Nat) (entry : Value) : missingExample? index entry = none ↔
      (isPresent (entry.get? "solution") = true → isPresent (entry.get? "example") = true) := by
    unfold missingExample?
    cases isPresent (entry.get? "solution") <;> cases isPresent (entry.get? "example") <;> simp
  unfold checkErrorExamples
  split
  case h_1 entries he => rw [checkEntries_eq_nil_iff hnone, forall_array_iff he]
  case h_2 he => exact iff_of_true rfl fun entries hget => absurd hget (not_array_of_none he)

/-- The decision tree has not too many levels. -/
lemma checkDecisionTree_eq_nil_iff :
    checkDecisionTree c d = [] ↔ ∀ tree, d.get? "decision_tree" = some tree →
      ∀ names, KeyChain tree names → names.length ≤ c.maxDecisionTreeDepth := by
  unfold checkDecisionTree
  split
  case h_1 hnone => simp [hnone]
  case h_2 tree htree =>
    rw [htree]
    simp [← objectDepth_le_iff]

/-! ## What the checks look at -/

/-- The sections that the checks look at. -/
def Config.sections (c : Config) : List String :=
  ["quick_usage", "common_patterns", "error_handling", "decision_tree"] ++ c.recommendedSections

/-- The checks give the same warnings on manifests with the same in the sections that they look
at. -/
lemma check_congr {d' : Value} (h : ∀ name ∈ c.sections, d.get? name = d'.get? name) :
    check c d = check c d' := by
  have hentries {field : String} (hfield : field ∈ c.sections) :
      entries? d field = entries? d' field := by
    rw [entries?, entries?, h field hfield]
  have husage : entries? d "quick_usage" = entries? d' "quick_usage" :=
    hentries (by simp [Config.sections])
  have hcode : checkCodeLength c d = checkCodeLength c d' := by
    have hpatterns : entries? d "common_patterns" = entries? d' "common_patterns" :=
      hentries (by simp [Config.sections])
    simp only [checkCodeLength, codeSections, List.flatMap_cons, List.flatMap_nil, husage,
      hpatterns]
  have hsections : checkSections c d = checkSections c d' := by
    have hfilter : c.recommendedSections.filter (fun field => !hasSection d field) =
        c.recommendedSections.filter fun field => !hasSection d' field := by
      refine List.filter_congr fun field hfield => ?_
      rw [hasSection, hasSection, h field (List.mem_append_right _ hfield)]
    rw [checkSections, checkSections, hfilter]
  have herrors : checkErrorExamples d = checkErrorExamples d' := by
    rw [checkErrorExamples, checkErrorExamples, hentries (by simp [Config.sections])]
  have htree : checkDecisionTree c d = checkDecisionTree c d' := by
    rw [checkDecisionTree, checkDecisionTree, h "decision_tree" (by simp [Config.sections])]
  rw [check, check, hcode, hsections, checkUsageExamples, checkUsageExamples, husage, herrors,
    htree]

end AgentManifest.Lint
