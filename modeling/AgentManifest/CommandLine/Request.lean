import AgentManifest.Files.Path

/-!
# Requests

What a run is asked to do.
-/

namespace AgentManifest.CommandLine

open Files (Path)

/-- The form of a report. -/
inductive OutputFormat where
  | human
  | json
  deriving DecidableEq, Repr, Inhabited

namespace OutputFormat

/-- The forms of reports. -/
def all : List OutputFormat := [human, json]

/-- The name of a form. -/
def name : OutputFormat → String
  | human => "human"
  | json => "json"

/-- The form with a name. -/
def ofName? (s : String) : Option OutputFormat := all.find? fun f => f.name == s

end OutputFormat

/-- What a run is asked to do. -/
structure Request where
  /-- The file to check, or the directory whose manifests are checked. -/
  target : Path
  /-- Whether all levels of a directory are searched. -/
  recursive : Bool := false
  /-- Whether warnings are left out of the report. -/
  quiet : Bool := false
  /-- Whether the checks beyond the schema are run. -/
  bestPractices : Bool := true
  format : OutputFormat := .human
  config? : Option Path := none
  schema? : Option Path := none
  /-- How much is logged. -/
  verbosity : Nat := 0
  deriving Inhabited

end AgentManifest.CommandLine
