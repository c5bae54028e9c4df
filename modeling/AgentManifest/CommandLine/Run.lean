import AgentManifest.CommandLine.Request
import AgentManifest.Lint.Config.File
import AgentManifest.Report.Document
import AgentManifest.Report.Human
import AgentManifest.Schema.Compile
import AgentManifest.Validator

/-!
# Runs

A run sets up a validator, checks one file or the manifests of a directory, and reports what became
of each. What goes wrong with the set-up ends it before anything is written; what is wrong with a
file is part of the report.
-/

namespace AgentManifest.CommandLine

open Files (Path Tree)
open Report (Outcome Summary Line)

/-- Why a run cannot start. -/
inductive SetupError where
  | schema (path : Path) (error : Schema.Error)
  | config (error : Lint.ConfigError)
  | noTarget (path : Path)
  deriving Inhabited

/-- The reason behind an error of a schema, where there is one. -/
def schemaCause : Schema.Error → String
  | .unreadable _ reason => ": " ++ reason.message
  | _ => ""

/-- The reason behind an error of a configuration. -/
def configCause (e : Lint.ConfigError) : String :=
  match e.failure with
  | .unreadable reason => ": " ++ reason.message
  | .invalid _ => ""

/-- The wording of an error, followed by what is behind it. -/
def SetupError.message : SetupError → String
  | .schema path error =>
    "failed to load schema " ++ path.text ++ ": " ++ error.message ++ schemaCause error
  | .config error => "failed to load lint config: " ++ error.message ++ configCause error
  | .noTarget path => "path does not exist: " ++ path.text

/-- The validator of a request. -/
def validator (files : Tree) (r : Request) : Except SetupError Validator :=
  let schema : Except SetupError Schema.Compiled :=
    match r.schema? with
    | some path =>
      match Schema.compileFile files path with
      | .ok schema => .ok schema
      | .error error => .error (.schema path error)
    | none => .ok Schema.builtin
  match schema with
  | .error e => .error e
  | .ok schema =>
    match r.config? with
    | none => .ok { schema }
    | some path =>
      match Lint.Config.ofFile files path with
      | .ok config => .ok { schema, config }
      | .error error => .error (.config error)

/-- What becomes of one file. -/
def check (v : Validator) (files : Tree) (r : Request) (path : Path) : Outcome :=
  match v.validateFile r.bestPractices files path with
  | .ok verdict => .checked path (if r.quiet then verdict.clearWarnings else verdict)
  | .error e => Outcome.ofLoadError e

/-- The result of a run. -/
structure Result where
  code : Nat
  output : String
  deriving DecidableEq, Repr, Inhabited

/-- The report on a single file. -/
def reportFile (color : Bool) (r : Request) (o : Outcome) : Result :=
  { code := (Summary.ofOutcomes [o]).exitCode
    output :=
      match r.format with
      | .human => Line.render color o.lines
      | .json => Report.documentText [o] }

/-- The report on the manifests of a directory. -/
def reportDirectory (color : Bool) (r : Request) (outcomes : List Outcome) : Result :=
  let summary := Summary.ofOutcomes outcomes
  { code := if outcomes.isEmpty then 1 else summary.exitCode
    output :=
      match r.format with
      | .human =>
        Line.render color (Report.scanHeader r.target ::
          if outcomes.isEmpty then [Report.noFiles]
          else outcomes.flatMap Outcome.lines ++ summary.lines)
      | .json => Report.documentText outcomes }

/-- A run. -/
def run (color : Bool) (files : Tree) (r : Request) : Except SetupError Result :=
  match validator files r with
  | .error e => .error e
  | .ok v =>
    match files.resolve r.target with
    | .error _ => .error (.noTarget r.target)
    | .ok (.directory _) =>
      .ok (reportDirectory color r
        ((files.manifests r.target r.recursive).map (check v files r)))
    | .ok _ => .ok (reportFile color r (check v files r r.target))

end AgentManifest.CommandLine
