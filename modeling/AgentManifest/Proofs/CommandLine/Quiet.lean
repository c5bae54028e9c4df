import AgentManifest.Proofs.CommandLine.Writing

/-!
# Runs that give no advice

There are two ways to be spared advice: it is not sought, or it is sought and then dropped. Neither
the report nor the exit code tells which way was taken, whatever the files are: a manifest that
satisfies its schema has the same verdict either way, the advice on its size included, and for all
other files there is no advice to begin with.
-/

namespace AgentManifest

open Files (Path Tree)

/-- A verdict whose advice is dropped is one for which none was sought. -/
lemma Validator.clearWarnings_validate (v : Validator) (bestPractices : Bool) (d : Json.Value)
    (size? : Option Nat) :
    (v.validate bestPractices d size?).clearWarnings = v.validate false d size? := by
  unfold Validator.validate
  cases v.schema.evaluate d with
  | nil => rfl
  | cons violation violations => rfl

namespace CommandLine

open Report (Outcome)

variable {color : Bool} {files : Tree} {r r' : Request} {v : Validator} {p : Path}

/-- A request for a report without advice. -/
def Request.Terse (r : Request) : Prop := r.quiet = true ∨ r.bestPractices = false

/-- What becomes of a file, if no advice on it is sought. -/
def checkTersely (v : Validator) (files : Tree) (p : Path) : Outcome :=
  match v.validateFile false files p with
  | .ok verdict => .checked p verdict
  | .error e => Outcome.ofLoadError e

/-- The outcome for a file does not tell in which way a request is terse. -/
lemma check_of_terse (h : r.Terse) : check v files r p = checkTersely v files p := by
  cases hl : Manifest.load files p with
  | error e => simp only [check, checkTersely, Validator.validateFile, hl]
  | ok loaded =>
    simp only [check, checkTersely, Validator.validateFile, hl]
    cases hq : r.quiet with
    | true => rw [if_pos rfl, Validator.clearWarnings_validate]
    | false =>
      have hnone : r.bestPractices = false := h.resolve_left (Bool.eq_false_iff.mp hq)
      rw [if_neg Bool.false_ne_true, hnone]

/-- Requests for reports of the same form, on the same files, under the same schema and the same
thresholds. -/
structure Request.Alike (r r' : Request) : Prop where
  target : r.target = r'.target
  isRecursive : r.recursive = r'.recursive
  format : r.format = r'.format
  config : r.config? = r'.config?
  schema : r.schema? = r'.schema?

lemma Request.Alike.validator (h : r.Alike r') : validator files r = validator files r' := by
  unfold CommandLine.validator
  rw [h.schema, h.config]

lemma Request.Alike.reportFile (h : r.Alike r') (o : Outcome) :
    reportFile color r o = reportFile color r' o := by
  unfold CommandLine.reportFile
  rw [h.format]

lemma Request.Alike.reportDirectory (h : r.Alike r') (outcomes : List Outcome) :
    reportDirectory color r outcomes = reportDirectory color r' outcomes := by
  unfold CommandLine.reportDirectory
  rw [h.format, h.target]

/-- All that is left of a request in a run is what it makes of each file. -/
lemma Request.Alike.run (h : r.Alike r')
    (hcheck : ∀ v p, check v files r p = check v files r' p) :
    run color files r = run color files r' := by
  unfold CommandLine.run
  rw [h.validator, h.target]
  cases CommandLine.validator files r' with
  | error e => rfl
  | ok v =>
    have hfile : CommandLine.reportFile color r (check v files r r'.target) =
        CommandLine.reportFile color r' (check v files r' r'.target) := by
      rw [hcheck, h.reportFile]
    cases files.resolve r'.target with
    | error reason => rfl
    | ok entry =>
      cases entry with
      | file contents => exact congrArg Except.ok hfile
      | link target => exact congrArg Except.ok hfile
      | directory entries =>
        have houtcomes (ps : List Path) :
            ps.map (check v files r) = ps.map (check v files r') :=
          List.map_congr_left fun p _ => hcheck v p
        exact congrArg Except.ok (by rw [h.isRecursive, houtcomes, h.reportDirectory])

/-- Terse runs write the same text and return the same code, in whichever way they are terse. -/
lemma Request.Alike.runTo_of_terse (h : r.Alike r') (hr : r.Terse) (hr' : r'.Terse)
    (out : String) : (runTo color files r).run.run out = (runTo color files r').run.run out := by
  have hcheck (v : Validator) (p : Path) : check v files r p = check v files r' p :=
    (check_of_terse hr).trans (check_of_terse hr').symm
  rw [runTo_run, runTo_run, h.run hcheck]

/-- A run that drops the advice and one that seeks none write the same text and return the same code,
on all files, in all colours and forms, under all schemas and thresholds, and also if the set-up
fails. If it does not fail, both go on to the end. -/
theorem runTo_quiet (color : Bool) (files : Tree) (r : Request) (quiet : Bool) :
    (∀ out, (runTo color files { r with quiet := true, bestPractices := true }).run.run out =
      (runTo color files { r with quiet := quiet, bestPractices := false }).run.run out) ∧
    ∀ s, SetUp files r s → ∃ code text,
      Writes (runTo color files { r with quiet := true, bestPractices := true }) code text ∧
      Writes (runTo color files { r with quiet := quiet, bestPractices := false }) code text := by
  have halike : Request.Alike { r with quiet := true, bestPractices := true }
      { r with quiet := quiet, bestPractices := false } := ⟨rfl, rfl, rfl, rfl, rfl⟩
  have hsame (out : String) :
      (runTo color files { r with quiet := true, bestPractices := true }).run.run out =
        (runTo color files { r with quiet := quiet, bestPractices := false }).run.run out :=
    halike.runTo_of_terse (.inl rfl) (.inr rfl) out
  refine ⟨hsame, fun s h => ?_⟩
  have hsetUp : SetUp files { r with quiet := true, bestPractices := true } s :=
    ⟨h.schema, h.config, h.target⟩
  obtain ⟨result, hrun, -⟩ := run_tells color hsetUp
  have hwrites : Writes (runTo color files { r with quiet := true, bestPractices := true })
      result.code result.output := by
    intro out
    rw [runTo_run, hrun]
  refine ⟨result.code, result.output, hwrites, fun out => ?_⟩
  rw [← hsame]
  exact hwrites out

end CommandLine
end AgentManifest
