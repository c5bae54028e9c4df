import AgentManifest.Proofs.CommandLine.Document
import AgentManifest.Proofs.Report.Styling
import AgentManifest.Proofs.Text.Utf8

/-!
# Colour

Colour only decorates what people are told: what is left of it without the escape sequences is what
is written without colour. The exception is a directory whose path has escape sequences, because the
heading shows them in either mode. What programs are told has no colour.
-/

namespace AgentManifest.CommandLine

open Files (Path)
open Report (Outcome Summary OnlyDecorated HasSequence)

/-! ## Reports for programs -/

/-- There is no escape character in a report for programs, whatever is reported. -/
lemma not_mem_documentText (outcomes : List Outcome) :
    0x1b ∉ Text.encode (Report.documentText outcomes).toList := by
  have printed : Json.IsPrinted ['\n'] (Report.documentText outcomes).toList := by
    rw [Report.documentText, String.toList_append, Json.IsPrinted.append_iff]
    exact ⟨Json.isPrinted_pretty _, by simp⟩
  have absent : '\x1b' ∉ (Report.documentText outcomes).toList :=
    printed.not_mem (by decide) (by decide)
  exact fun hmem => absent (Text.mem_of_mem_encode (by decide) hmem)

/-- What programs are told in both modes, byte for byte, with no escape character in it. -/
def Monochrome (report : Bool → Result) : Prop :=
  report true = report false ∧ ∀ color, 0x1b ∉ Text.encode (report color).output.toList

lemma monochrome_of_eq_documented {report : Bool → Result} {outcomes : List Outcome}
    (h : ∀ color, report color = documented outcomes) : Monochrome report := by
  refine ⟨(h true).trans (h false).symm, fun color => ?_⟩
  rw [h color]
  exact not_mem_documentText outcomes

/-! ## Both reports -/

/-- Where no outcome has escape characters, what people are told in colour is only decorated. The
heading is if the path of the directory has no escape sequence. What programs are told is the same
in both modes, without an escape character. -/
theorem colour_only_decorates (dir : Path) {outcomes : List Outcome}
    (h : ∀ o ∈ outcomes, o.IsPlain) :
    (OnlyDecorated [Report.scanHeader dir] ↔ ¬HasSequence dir.text.toList) ∧
      OnlyDecorated [Report.noFiles] ∧
      (∀ o ∈ outcomes, OnlyDecorated o.lines) ∧
      OnlyDecorated (Summary.ofOutcomes outcomes).lines ∧
      OnlyDecorated (outcomes.flatMap Outcome.lines ++ (Summary.ofOutcomes outcomes).lines) ∧
      ∀ r : Request, r.format = .json →
        Monochrome (fun color => reportDirectory color r outcomes) ∧
          ∀ o ∈ outcomes, Monochrome (fun color => reportFile color r o) := by
  have blocks : ∀ o ∈ outcomes, ∀ l ∈ o.lines, l.IsPlain := fun o ho =>
    Outcome.isPlain_lines (h o ho)
  have closing : ∀ l ∈ (Summary.ofOutcomes outcomes).lines, l.IsPlain :=
    Summary.isPlain_lines _
  have all : ∀ l ∈ outcomes.flatMap Outcome.lines ++ (Summary.ofOutcomes outcomes).lines,
      l.IsPlain := by
    refine List.forall_mem_append.mpr ⟨fun l hl => ?_, closing⟩
    obtain ⟨o, ho, hl⟩ := List.mem_flatMap.mp hl
    exact blocks o ho l hl
  have notice : ∀ l ∈ [Report.noFiles], l.IsPlain := List.forall_mem_singleton.mpr
    Report.isPlain_noFiles
  refine ⟨Report.onlyDecorated_scanHeader_iff dir, Report.onlyDecorated_of_isPlain notice,
    fun o ho => Report.onlyDecorated_of_isPlain (blocks o ho),
    Report.onlyDecorated_of_isPlain closing, Report.onlyDecorated_of_isPlain all, ?_⟩
  intro r hformat
  constructor
  · exact monochrome_of_eq_documented fun color =>
      reportDirectory_eq_documented color hformat outcomes
  · exact fun o _ => monochrome_of_eq_documented fun color =>
      reportFile_eq_documented color hformat o

/-- A file that cannot be read, and the directory it is in. -/
theorem colour_only_decorates_unread :
    OnlyDecorated [Report.scanHeader (Path.ofString "docs")] ∧
      OnlyDecorated (Outcome.unread (Path.ofString "docs/LLM.yml") "denied").lines := by
  have plain : ∀ o ∈ [Outcome.unread (Path.ofString "docs/LLM.yml") "denied"], o.IsPlain := by
    unfold Outcome.IsPlain
    decide
  have decorates := colour_only_decorates (Path.ofString "docs") plain
  refine ⟨decorates.1.mpr ?_, decorates.2.2.1 _ List.mem_cons_self⟩
  exact Report.not_hasSequence_of_not_mem (by decide)

/-- The path of a directory may have an escape sequence, which is in the heading without colour. -/
theorem scanHeader_own_sequence :
    ¬OnlyDecorated [Report.scanHeader (Path.ofString "\x1b[31m")] := by
  rw [Report.onlyDecorated_scanHeader_iff, not_not]
  exact ⟨[], ['3', '1'], [], by decide⟩

end AgentManifest.CommandLine
