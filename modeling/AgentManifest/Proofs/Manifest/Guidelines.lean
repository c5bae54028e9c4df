import AgentManifest.Validator
import AgentManifest.Proofs.Lint.Checks
import AgentManifest.Proofs.Manifest.Conformance

/-!
# Manifests that follow the guidelines

A document gets a favourable verdict without advice exactly if it satisfies the schema of manifests
and follows the guidelines. The checks read whatever the schema lets through: where they pass over a
section or an entry because of its shape, the schema has something to report.
-/

namespace AgentManifest.Manifest

open Json (Value Members)
open Lint (KeyChain)

/-- What a manifest should be like beyond what the schema asks for. -/
structure FollowsGuidelines (d : Value) : Prop where
  usage : ∃ entries, d.get? "quick_usage" = some (.array entries) ∧ 2 ≤ entries.length
  sections : ∀ name ∈ ["decision_tree", "common_patterns", "error_handling"],
    ∃ v, d.get? name = some v
  code : ∀ name ∈ ["quick_usage", "common_patterns"], ∀ entries,
    d.get? name = some (.array entries) → ∀ entry ∈ entries, ∀ code,
      entry.get? "code" = some (.string code) → code.toList.count '\n' ≤ 19
  examples : ∀ entries, d.get? "error_handling" = some (.array entries) → ∀ entry ∈ entries,
    ∀ solution, entry.get? "solution" = some (.string solution) → solution ≠ "" →
      ∃ text, entry.get? "example" = some (.string text) ∧ text ≠ ""
  nesting : ∀ tree, d.get? "decision_tree" = some tree → ∀ names, KeyChain tree names →
    names.length ≤ 4

/-- Everything that the checks look for in a document is where they look for it. -/
structure Readable (d : Value) : Prop where
  usage : ∃ v, d.get? "quick_usage" = some v
  code : ∀ name ∈ ["quick_usage", "common_patterns"], ∀ v, d.get? name = some v →
    IsListOf (fun entry => ∃ code, entry.get? "code" = some (.string code)) v
  errors : ∀ v, d.get? "error_handling" = some v →
    IsListOf (fun entry => IsObject (fun ms =>
      MayHave ms "solution" IsText ∧ MayHave ms "example" IsText) entry) v
  tree : ∀ v, d.get? "decision_tree" = some v → IsObject (fun _ => True) v

/-! ## Shapes -/

variable {d v : Value} {ms : Members} {name : String}

lemma IsListOf.mono {P Q : Value → Prop} (h : ∀ w, P w → Q w) (hv : IsListOf P v) :
    IsListOf Q v := by
  obtain ⟨vs, rfl, hvs⟩ := hv
  exact ⟨vs, rfl, fun w hw => h w (hvs w hw)⟩

/-- What stands under the name of a section is of the kind that the section is. -/
lemma IsManifest.section_of_get? (h : IsManifest d) (hget : d.get? name = some v) :
    IsSection name v := by
  obtain ⟨ms, rfl, hsections, -⟩ := h
  exact hsections _ (Members.mem_of_get? hget)

lemma IsManifest.exists_usage (h : IsManifest d) : ∃ v, d.get? "quick_usage" = some v := by
  obtain ⟨ms, rfl, -, hneeded⟩ := h
  obtain ⟨w, hw⟩ := hneeded "quick_usage" (by simp)
  exact Members.exists_get?_of_mem hw

lemma Has.exists_code {entry : Value} (h : IsObject (fun ms => Has ms "code" IsSomeText) entry) :
    ∃ code, entry.get? "code" = some (.string code) := by
  obtain ⟨ms, rfl, w, hget, code, rfl, -⟩ := h
  exact ⟨code, hget⟩

/-- The checks read all of a manifest. -/
theorem IsManifest.readable (h : IsManifest d) : Readable d where
  usage := h.exists_usage
  code := by
    intro name hname v hget
    simp only [List.mem_cons, List.not_mem_nil, or_false] at hname
    rcases hname with rfl | rfl
    · refine IsListOf.mono (fun entry hentry => ?_) (h.section_of_get? hget)
      obtain ⟨ms, rfl, -, hcode, -⟩ := hentry
      exact Has.exists_code ⟨ms, rfl, hcode⟩
    · refine IsListOf.mono (fun entry hentry => ?_) (h.section_of_get? hget)
      obtain ⟨ms, rfl, -, hcode, -⟩ := hentry
      exact Has.exists_code ⟨ms, rfl, hcode⟩
  errors := by
    intro v hget
    refine IsListOf.mono (fun entry hentry => ?_) (h.section_of_get? hget)
    obtain ⟨ms, rfl, -, -, hsolution, hexample⟩ := hentry
    exact ⟨ms, rfl, hsolution, hexample⟩
  tree := fun v hget => h.section_of_get? hget

/-- What is text if it is there is there exactly if it is text that is not empty. -/
lemma isPresent_iff (h : MayHave ms name IsText) :
    Lint.isPresent (Members.get? ms name) = true ↔
      ∃ s, Members.get? ms name = some (.string s) ∧ s ≠ "" := by
  cases hget : Members.get? ms name with
  | none => simp [Lint.isPresent]
  | some v =>
    obtain ⟨s, rfl⟩ := h v hget
    simp [Lint.isPresent]

/-- A section of a manifest that the checks recommend is not null if it is there. -/
lemma Readable.hasSection_iff (h : Readable d)
    (hname : name ∈ ["decision_tree", "common_patterns", "error_handling"]) :
    Lint.hasSection d name = true ↔ ∃ v, d.get? name = some v := by
  rw [Lint.hasSection_iff]
  constructor
  · rintro ⟨v, hget, -⟩
    exact ⟨v, hget⟩
  · rintro ⟨v, hget⟩
    refine ⟨v, hget, ?_⟩
    rintro rfl
    simp only [List.mem_cons, List.not_mem_nil, or_false] at hname
    rcases hname with rfl | rfl | rfl
    · obtain ⟨ms, heq, -⟩ := h.tree _ hget
      cases heq
    · obtain ⟨vs, heq, -⟩ := h.code _ (by simp) _ hget
      cases heq
    · obtain ⟨vs, heq, -⟩ := h.errors _ hget
      cases heq

/-! ## Checks -/

/-- All checks pass over a document that they can read exactly if it follows the guidelines. -/
lemma Readable.check_eq_nil_iff (h : Readable d) :
    Lint.check {} d = [] ↔ FollowsGuidelines d := by
  have hpresent {entries : List Value} (hget : d.get? "error_handling" = some (.array entries))
      {entry : Value} (hentry : entry ∈ entries) : ∀ name ∈ ["solution", "example"],
        (Lint.isPresent (entry.get? name) = true ↔
          ∃ s, entry.get? name = some (.string s) ∧ s ≠ "") := by
    obtain ⟨_, heq, hentries⟩ := h.errors _ hget
    cases heq
    obtain ⟨ms, rfl, hsolution, hexample⟩ := hentries entry hentry
    simp only [List.forall_mem_cons, List.not_mem_nil, false_implies, implies_true, and_true]
    exact ⟨isPresent_iff hsolution, isPresent_iff hexample⟩
  simp only [Lint.check, List.append_eq_nil_iff, Lint.checkCodeLength_eq_nil_iff,
    Lint.checkSections_eq_nil_iff, Lint.checkUsageExamples_eq_nil_iff,
    Lint.checkErrorExamples_eq_nil_iff, Lint.checkDecisionTree_eq_nil_iff]
  constructor
  · rintro ⟨⟨⟨⟨hcode, hsections⟩, husage⟩, hexamples⟩, hnesting⟩
    refine ⟨?_, fun name hname => (h.hasSection_iff hname).mp (hsections name hname), ?_, ?_,
      hnesting⟩
    · obtain ⟨v, hget⟩ := h.usage
      obtain ⟨entries, rfl, -⟩ := h.code "quick_usage" (by simp) v hget
      exact ⟨entries, hget, husage entries hget⟩
    · intro name hname entries hget entry hentry code hfound
      exact Nat.le_of_succ_le_succ (hcode name hname entries hget entry hentry code hfound)
    · intro entries hget entry hentry solution hfound hne
      have hsolution := (hpresent hget hentry "solution" (by simp)).mpr ⟨solution, hfound, hne⟩
      exact (hpresent hget hentry "example" (by simp)).mp
        (hexamples entries hget entry hentry hsolution)
  · rintro ⟨⟨entries, hget, hlength⟩, hsections, hcode, hexamples, hnesting⟩
    refine ⟨⟨⟨⟨?_, fun name hname => (h.hasSection_iff hname).mpr (hsections name hname)⟩, ?_⟩, ?_⟩,
      hnesting⟩
    · intro name hname entries hget entry hentry code hfound
      exact Nat.succ_le_succ (hcode name hname entries hget entry hentry code hfound)
    · intro entries' hget'
      cases hget.symm.trans hget'
      exact hlength
    · intro entries hget entry hentry hsolution
      obtain ⟨solution, hfound, hne⟩ := (hpresent hget hentry "solution" (by simp)).mp hsolution
      exact (hpresent hget hentry "example" (by simp)).mpr
        (hexamples entries hget entry hentry solution hfound hne)

/-- A document gets a favourable verdict without advice exactly if it satisfies the schema of
manifests and follows the guidelines; and of a document that satisfies the schema, the checks read
everything. -/
theorem clean_iff (d : Value) :
    (((({} : Validator).validate true d none).isValid = true ∧
        (({} : Validator).validate true d none).warnings = []) ↔
      Schema.builtin.evaluate d = [] ∧ FollowsGuidelines d) ∧
    (Schema.builtin.evaluate d = [] → Readable d) := by
  have hreadable : Schema.builtin.evaluate d = [] → Readable d := by
    intro h
    rw [Schema.Compiled.evaluate_eq_nil_iff, builtin_isValid_iff] at h
    exact h.readable
  refine ⟨?_, hreadable⟩
  cases he : Schema.builtin.evaluate d with
  | nil =>
    have hvalidate : ({} : Validator).validate true d none =
        Report.Verdict.valid (Lint.check {} d ++ []) := by
      rw [Validator.validate, he]
      rfl
    rw [hvalidate, List.append_nil, ← (hreadable he).check_eq_nil_iff]
    simp [Report.Verdict.valid]
  | cons violation violations =>
    have hvalidate : ({} : Validator).validate true d none =
        Report.Verdict.invalid (violation :: violations) := by
      rw [Validator.validate, he]
    simp [hvalidate, Report.Verdict.invalid]

end AgentManifest.Manifest
