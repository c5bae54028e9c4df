import AgentManifest.Proofs.CommandLine.SetUp
import AgentManifest.Proofs.CommandLine.Sweep

/-!
# Runs as they write

A run writes while it goes on: the heading of a directory before the files are looked for, what
people are told of a file as soon as it is checked, and the rest at the end. All that can end a run
early is done before the first write, so that a run whose set-up fails writes nothing. It fails with
the schema if that cannot be had, else with the configuration, and else with the target, whatever
the report looks like and whatever there is in the files that would be checked.
-/

namespace AgentManifest.CommandLine

open Files (Path Tree)
open Report (Outcome Summary Line)

variable {files files' : Tree} {r r' : Request} {e : SetupError}

/-! ## Writing -/

/-- Part of a run, which may end the run, and appends to what has been written. -/
abbrev Writing := ExceptT SetupError (StateM String)

/-- Appends a text. -/
def write (text : String) : Writing Unit := modify (· ++ text)

/-- Writes lines, if the report is for people. -/
def tell (color : Bool) (r : Request) (lines : List Line) : Writing Unit :=
  match r.format with
  | .human => write (Line.render color lines)
  | .json => pure ()

/-- Writes a document, if the report is for programs. -/
def deliver (r : Request) (outcomes : List Outcome) : Writing Unit :=
  match r.format with
  | .human => pure ()
  | .json => write (Report.documentText outcomes)

/-- Checks files one after another. People are told of each before the next one is checked. -/
def writeOutcomes (color : Bool) (v : Validator) (files : Tree) (r : Request) :
    List Path → Writing (List Outcome)
  | [] => pure []
  | path :: paths => do
    let outcome := check v files r path
    tell color r outcome.lines
    let outcomes ← writeOutcomes color v files r paths
    pure (outcome :: outcomes)

/-- Checks the manifests of a directory between a heading and a closing line. -/
def writeDirectory (color : Bool) (v : Validator) (files : Tree) (r : Request) : Writing Nat := do
  tell color r [Report.scanHeader r.target]
  let paths := files.manifests r.target r.recursive
  if paths.isEmpty then
    tell color r [Report.noFiles]
    deliver r []
    pure 1
  else
    let outcomes ← writeOutcomes color v files r paths
    tell color r (Summary.ofOutcomes outcomes).lines
    deliver r outcomes
    pure (Summary.ofOutcomes outcomes).exitCode

/-- Checks one file. -/
def writeFile (color : Bool) (v : Validator) (files : Tree) (r : Request) : Writing Nat := do
  let outcomes ← writeOutcomes color v files r [r.target]
  deliver r outcomes
  pure (Summary.ofOutcomes outcomes).exitCode

/-- A run that writes as it goes on, and returns the exit code. -/
def runTo (color : Bool) (files : Tree) (r : Request) : Writing Nat := do
  let v ← liftExcept (validator files r)
  match files.resolve r.target with
  | .error _ => throw (.noTarget r.target)
  | .ok (.directory _) => writeDirectory color v files r
  | .ok _ => writeFile color v files r

/-! ## What is written in the end -/

/-- A part of a run that goes on with a result after it has written a text. -/
def Writes {α : Type} (x : Writing α) (a : α) (text : String) : Prop :=
  ∀ out, x.run.run out = (.ok a, out ++ text)

namespace Writes

variable {α β : Type} {x : Writing α} {f : α → Writing β} {a : α} {b : β} {text text' : String}

lemma pure (a : α) : Writes (Pure.pure a) a "" := by
  intro out
  rw [String.append_empty]
  rfl

lemma write (text : String) : Writes (write text) () text := fun _ => rfl

lemma bind (h : Writes x a text) (h' : Writes (f a) b text') :
    Writes (x >>= f) b (text ++ text') := by
  intro out
  rw [ExceptT.run_bind, StateT.run_bind, h out, ← String.append_assoc]
  exact h' (out ++ text)

/-- The result of the last part is put together with no more writing. -/
lemma map (h : Writes x a text) (g : α → β) :
    Writes (x >>= fun a => Pure.pure (g a)) (g a) text := by
  have hbind : Writes (x >>= fun a => Pure.pure (g a)) (g a) (text ++ "") := h.bind (pure (g a))
  rwa [String.append_empty] at hbind

end Writes

/-- Lines as a report for people has them. -/
def told (color : Bool) (r : Request) (lines : List Line) : String :=
  match r.format with
  | .human => Line.render color lines
  | .json => ""

/-- Outcomes as a report for programs has them. -/
def delivered (r : Request) (outcomes : List Outcome) : String :=
  match r.format with
  | .human => ""
  | .json => Report.documentText outcomes

section

variable (color : Bool) (v : Validator) (files : Tree) (r : Request)

lemma tell_writes (lines : List Line) : Writes (tell color r lines) () (told color r lines) := by
  unfold tell told
  cases r.format with
  | human => exact Writes.write _
  | json => exact Writes.pure ()

lemma deliver_writes (outcomes : List Outcome) :
    Writes (deliver r outcomes) () (delivered r outcomes) := by
  unfold deliver delivered
  cases r.format with
  | human => exact Writes.pure ()
  | json => exact Writes.write _

@[simp] lemma told_nil : told color r [] = "" := by
  unfold told
  cases r.format <;> rfl

lemma told_append (lines lines' : List Line) :
    told color r (lines ++ lines') = told color r lines ++ told color r lines' := by
  unfold told
  cases r.format with
  | human => exact render_append color lines lines'
  | json => rfl

lemma told_cons (line : Line) (lines : List Line) :
    told color r (line :: lines) = told color r [line] ++ told color r lines :=
  told_append color r [line] lines

lemma reportFile_output (o : Outcome) :
    (reportFile color r o).output = told color r o.lines ++ delivered r [o] := by
  unfold reportFile told delivered
  cases r.format with
  | human => exact String.append_empty.symm
  | json => exact String.empty_append.symm

lemma reportDirectory_output (outcomes : List Outcome) :
    (reportDirectory color r outcomes).output =
      told color r (Report.scanHeader r.target ::
          if outcomes.isEmpty then [Report.noFiles]
          else outcomes.flatMap Outcome.lines ++ (Summary.ofOutcomes outcomes).lines) ++
        delivered r outcomes := by
  unfold reportDirectory told delivered
  cases r.format with
  | human => exact String.append_empty.symm
  | json => exact String.empty_append.symm

/-- Whatever is in the files, each of them has its outcome, and people are told of it. -/
lemma writeOutcomes_writes (paths : List Path) :
    Writes (writeOutcomes color v files r paths) (paths.map (check v files r))
      (told color r ((paths.map (check v files r)).flatMap Outcome.lines)) := by
  induction paths with
  | nil =>
    rw [List.map_nil, List.flatMap_nil, told_nil]
    exact Writes.pure []
  | cons path paths ih =>
    rw [List.map_cons, List.flatMap_cons, told_append]
    exact (tell_writes color r _).bind (ih.map _)

lemma writeFile_writes :
    Writes (writeFile color v files r) (reportFile color r (check v files r r.target)).code
      (reportFile color r (check v files r r.target)).output := by
  rw [reportFile_output]
  have houtcomes := writeOutcomes_writes color v files r [r.target]
  rw [List.map_singleton, List.flatMap_singleton] at houtcomes
  exact houtcomes.bind ((deliver_writes r _).map _)

lemma writeDirectory_writes :
    Writes (writeDirectory color v files r)
      (reportDirectory color r
        ((files.manifests r.target r.recursive).map (check v files r))).code
      (reportDirectory color r
        ((files.manifests r.target r.recursive).map (check v files r))).output := by
  unfold writeDirectory
  generalize files.manifests r.target r.recursive = paths
  dsimp only
  by_cases hpaths : paths = []
  · subst hpaths
    rw [reportDirectory_output, told_cons, String.append_assoc]
    exact (tell_writes color r _).bind ((tell_writes color r _).bind ((deliver_writes r _).map _))
  · have hempty : ¬paths.isEmpty = true := mt List.isEmpty_iff.mp hpaths
    have hne : paths.map (check v files r) ≠ [] := mt List.map_eq_nil_iff.mp hpaths
    rw [if_neg hempty, reportDirectory_code hne, reportDirectory_output,
      if_neg (mt List.isEmpty_iff.mp hne), told_cons, told_append, String.append_assoc,
      String.append_assoc]
    exact (tell_writes color r _).bind ((writeOutcomes_writes color v files r paths).bind
      ((tell_writes color r _).bind ((deliver_writes r _).map _)))

end

/-- A run that fails has written nothing; one that succeeds has written what it is to report. -/
lemma runTo_run (color : Bool) (files : Tree) (r : Request) (out : String) :
    (runTo color files r).run.run out =
      match run color files r with
      | .ok result => (.ok result.code, out ++ result.output)
      | .error e => (.error e, out) := by
  unfold runTo run
  cases validator files r with
  | error e => rfl
  | ok v =>
    cases hresolve : files.resolve r.target with
    | error reason => rfl
    | ok entry =>
      cases entry with
      | directory entries => exact writeDirectory_writes color v files r out
      | file contents => exact writeFile_writes color v files r out
      | link target => exact writeFile_writes color v files r out

/-- A run fails exactly if its schema, its configuration or its target cannot be had, and with the
first of these. Then nothing has been written. A run fails the same way on any other request and any
other files, as long as these three stay the same. -/
theorem runTo_atomic (color : Bool) (files : Tree) (r : Request) (out : String) :
    (∀ e, ((runTo color files r).run.run out).1 = .error e ↔ FirstFault files r e) ∧
    ((∃ e, FirstFault files r e) ↔
      (∃ e, SchemaFault files r e) ∨ (∃ e, ConfigFault files r e) ∨ ∃ e, TargetFault files r e) ∧
    (∀ e, ((runTo color files r).run.run out).1 = .error e →
      ((runTo color files r).run.run out).2 = out) ∧
    ∀ color' files' r' out', SameSetUp files files' r r' → ∀ e,
      ((runTo color' files' r').run.run out').1 = .error e ↔
        ((runTo color files r).run.run out).1 = .error e := by
  have hfails (color : Bool) (files : Tree) (r : Request) (out : String) (e : SetupError) :
      ((runTo color files r).run.run out).1 = .error e ↔ FirstFault files r e := by
    rw [← run_error_iff color, runTo_run]
    cases run color files r with
    | ok result => exact iff_of_false nofun nofun
    | error e' =>
      exact ⟨fun h => congrArg _ (Except.error.inj h), fun h => congrArg _ (Except.error.inj h)⟩
  refine ⟨hfails color files r out, exists_firstFault_iff, fun e h => ?_,
    fun color' files' r' out' hsame e => ?_⟩
  · have hrun := (run_error_iff color).mpr ((hfails color files r out e).mp h)
    rw [runTo_run, hrun]
  · rw [hfails, hfails]
    exact ⟨hsame.symm.firstFault, hsame.firstFault⟩

end AgentManifest.CommandLine
