import AgentManifest.Proofs.CommandLine.Sweep
import AgentManifest.Proofs.Json.RoundTrip
import AgentManifest.Proofs.Report.Entry

/-!
# Reports for programs

What a run writes for programs is one JSON text on lines of its own. It can be read back, its verdict
and its counts agree with one another and with the exit code, and each of its entries says one thing
of a file.
-/

namespace AgentManifest.CommandLine

open Files (Path Tree)
open Report (Outcome Summary Sheet Verdict Standing)

variable {files : Tree} {r : Request} {s : Schema.Compiled}

/-! ## Outcomes -/

/-- The verdict on a manifest has violations or advice, never both. -/
lemma sound_validate (v : Validator) (bestPractices : Bool) (d : Json.Value)
    (size? : Option Nat) : (v.validate bestPractices d size?).Sound := by
  unfold Validator.validate
  split
  · exact Verdict.sound_valid _
  · exact Verdict.sound_invalid _

lemma sound_check (v : Validator) (files : Tree) (r : Request) (p : Path) :
    (check v files r p).Sound := by
  cases hl : Manifest.load files p with
  | error e =>
    simp only [check, Validator.validateFile, hl, Outcome.ofLoadError]
    cases e.failure <;> trivial
  | ok loaded =>
    have hsound := sound_validate v r.bestPractices loaded.tree (some loaded.size)
    simp only [check, Validator.validateFile, hl, Outcome.Sound]
    cases r.quiet with
    | false => exact hsound
    | true => exact hsound.clearWarnings

/-- What a run that writes for programs comes to, if it reports some outcomes. -/
def documented (outcomes : List Outcome) : Result :=
  { code := if outcomes = [] then 1 else (Summary.ofOutcomes outcomes).exitCode
    output := Report.documentText outcomes }

lemma reportFile_eq_documented (color : Bool) (hformat : r.format = .json) (o : Outcome) :
    reportFile color r o = documented [o] := by
  simp only [reportFile, hformat, documented, reduceCtorEq, if_false]

lemma reportDirectory_eq_documented (color : Bool) (hformat : r.format = .json)
    (outcomes : List Outcome) : reportDirectory color r outcomes = documented outcomes := by
  simp only [reportDirectory, hformat, documented, List.isEmpty_iff]

/-- A run that writes for programs reports the outcomes of the files that it checks. -/
lemma run_eq_documented (color : Bool) (h : SetUp files r s) (hformat : r.format = .json) :
    ∃ v, run color files r = .ok (documented ((checkedFiles files r).map (check v files r))) := by
  obtain ⟨v, hv, -⟩ := validator_of_schema h.schema h.config
  obtain ⟨entry, hentry⟩ := h.target
  refine ⟨v, ?_⟩
  -- whatever is no directory is checked by itself
  have hfile (hd : files.directory? r.target = none) :
      reportFile color r (check v files r r.target) =
        documented ((checkedFiles files r).map (check v files r)) := by
    simp only [checkedFiles, hd, List.map_singleton]
    exact reportFile_eq_documented color hformat _
  cases entry with
  | file contents =>
    rw [← hfile (by simp only [Tree.directory?, hentry])]
    simp only [run, hv, hentry]
  | link target =>
    rw [← hfile (by simp only [Tree.directory?, hentry])]
    simp only [run, hv, hentry]
  | directory entries =>
    have hd := Tree.directory?_eq_some_iff.mpr hentry
    rw [run_of_directory color hv hd, reportDirectory_eq_documented color hformat]
    simp only [checkedFiles, hd]

/-! ## The report -/

/-- A report is favourable exactly if the run returns 0. -/
lemma documented_code_eq_zero_iff (outcomes : List Outcome) :
    (Sheet.ofOutcomes outcomes).valid = true ↔ (documented outcomes).code = 0 := by
  by_cases hne : outcomes = []
  · subst hne
    decide
  · rw [documented, if_neg hne, Sheet.ofOutcomes_valid hne, List.all_eq_true,
      Summary.exitCode_eq_zero_iff]

/-- A report has failures exactly if the run returns 2. -/
lemma documented_code_eq_two_iff (outcomes : List Outcome) :
    (documented outcomes).code = 2 ↔ 0 < (Sheet.ofOutcomes outcomes).summary.failed := by
  have hfailed : 0 < (Sheet.ofOutcomes outcomes).summary.failed ↔
      ∃ o ∈ outcomes, o.isFailure = true := List.countP_pos_iff
  rw [hfailed]
  by_cases hne : outcomes = []
  · subst hne
    simp [documented]
  · rw [documented, if_neg hne, Summary.exitCode_eq_two_iff]

/-- A run that writes for programs, and whose set-up succeeds, writes one report and a line break.
What is read from it is the report, if its numbers are 64-bit integers and it is not nested too
deeply. Its verdict is favourable exactly if the code is 0, it has failures exactly if the code is
2, its counts are those of its entries, and each entry says one thing of its file. -/
theorem run_json (color : Bool) (h : SetUp files r s) (hformat : r.format = .json) :
    ∃ result, ∃ sheet : Sheet, run color files r = .ok result ∧
      result.output = sheet.toJson.pretty ++ "\n" ∧
      (sheet.toJson.nesting ≤ 127 → (∀ n ∈ sheet.toJson.numbers, n.IsWord) →
        Json.read result.output = .ok sheet.toJson.ordered) ∧
      (sheet.valid = true ↔ result.code = 0) ∧
      (result.code = 2 ↔ 0 < sheet.summary.failed) ∧
      sheet.Adds ∧
      sheet.files.length = (checkedFiles files r).length ∧
      ∀ entry ∈ sheet.files, ∃! standing, Standing.Shown entry standing := by
  obtain ⟨v, hrun⟩ := run_eq_documented color h hformat
  have hsound : ∀ o ∈ (checkedFiles files r).map (check v files r), o.Sound := by
    intro o ho
    obtain ⟨p, -, rfl⟩ := List.mem_map.mp ho
    exact sound_check v files r p
  refine ⟨_, Sheet.ofOutcomes _, hrun, rfl, ?_, documented_code_eq_zero_iff _,
    documented_code_eq_two_iff _, Sheet.adds_ofOutcomes _, ?_, Sheet.existsUnique_shown hsound⟩
  · exact fun hnesting hnumbers => Json.read_pretty_line hnesting hnumbers
  · simp only [Sheet.ofOutcomes, List.length_map]

/-- A sweep over an empty working directory is reported too, with nothing in it. -/
theorem run_json_empty :
    let files : Tree := { root := [([0x77], .directory [])], here := [[0x77]] }
    let r : Request := { target := Path.ofString ".", format := .json }
    SetUp files r Schema.builtin ∧ ∃ result, ∃ sheet : Sheet,
      run false files r = .ok result ∧ result.output = sheet.toJson.pretty ++ "\n" ∧
        Json.read result.output = .ok sheet.toJson.ordered ∧
        sheet.files = [] ∧ sheet.summary = { total := 0, valid := 0, invalid := 0, failed := 0 } ∧
        (sheet.valid = true ↔ result.code = 0) := by
  intro files r
  have hsetUp : SetUp files r Schema.builtin := ⟨rfl, nofun, ⟨_, rfl⟩⟩
  have hnone : checkedFiles files r = [] := by
    have hd : files.directory? r.target = some [] := rfl
    simp only [checkedFiles, hd, Tree.manifests, Files.manifestsIn, List.mergeSort_nil]
  obtain ⟨result, sheet, hrun, houtput, hread, hvalid, -, hadds, hlength, -⟩ :=
    run_json false hsetUp rfl
  obtain ⟨valid, entries, total, valids, invalids, failures⟩ := sheet
  obtain ⟨htotal, hsum, -, -⟩ := hadds
  dsimp only at hlength htotal hsum
  rw [hnone, List.length_nil] at hlength
  obtain rfl := List.eq_nil_of_length_eq_zero hlength
  obtain ⟨rfl, rfl, rfl, rfl⟩ : total = 0 ∧ valids = 0 ∧ invalids = 0 ∧ failures = 0 := by omega
  have hnumbers : ∀ n ∈ (Sheet.toJson ⟨valid, [], ⟨0, 0, 0, 0⟩⟩).numbers, n.IsWord := by
    simp [Sheet.toJson, Summary.toJson, Json.Value.numbers, Json.Value.numbersOfMembers,
      Json.Value.numbersOfItems, Json.Value.nat, Json.Number.IsWord]
  exact ⟨hsetUp, result, _, hrun, houtput, hread (by cases valid <;> decide) hnumbers, rfl, rfl,
    hvalid⟩

end AgentManifest.CommandLine
