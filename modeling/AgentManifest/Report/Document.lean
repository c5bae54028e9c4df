import AgentManifest.Report.Outcome

/-!
# Reports for programs

The outcomes of a run as one JSON document.
-/

namespace AgentManifest.Report

open Json (Value)

/-- A summary as JSON. -/
def Summary.toJson (s : Summary) : Value :=
  .object [("total", .nat s.total), ("valid", .nat s.valid), ("invalid", .nat s.invalid),
    ("failed", .nat s.failed)]

/-- A file that gives no manifest, and why. -/
def failureJson (kind : String) (c : Complaint) : Value :=
  .object ([("kind", .string kind), ("message", .string c.message)] ++
    (c.line?.map fun n => ("line", Value.nat n)).toList ++
    (c.column?.map fun n => ("column", Value.nat n)).toList)

/-- An outcome as JSON. -/
def Outcome.toJson (o : Outcome) : Value :=
  let verdict :=
    match o with
    | .checked _ v => v
    | _ => { isValid := false, errors := [], warnings := [] }
  let failure :=
    match o with
    | .checked _ _ => []
    | .unread _ message => [("failure", failureJson "io" { message })]
    | .malformed _ complaint => [("failure", failureJson "parse" complaint)]
  .object ([("path", .string o.path.text), ("valid", .bool verdict.isValid),
    ("errors", .array (verdict.errors.map Violation.toJson)),
    ("warnings", .array (verdict.warnings.map Warning.toJson))] ++ failure)

/-- The report on a run. It is favourable if there is a file, and every file is valid. -/
def document (outcomes : List Outcome) : Value :=
  let summary := Summary.ofOutcomes outcomes
  .object [("valid", .bool (decide (0 < summary.total) && summary.valid == summary.total)),
    ("files", .array (outcomes.map Outcome.toJson)), ("summary", summary.toJson)]

/-- The text of the report on a run. -/
def documentText (outcomes : List Outcome) : String := (document outcomes).pretty ++ "\n"

end AgentManifest.Report
