import AgentManifest.Manifest.Load
import AgentManifest.Report.Verdict

/-!
# Outcomes

What became of each file of a run, and how many files there were of each kind.
-/

namespace AgentManifest.Report

open Files (Path)

/-- Why a text gives no manifest, and where if that is known. -/
structure Complaint where
  message : String
  line? : Option Nat := none
  column? : Option Nat := none
  deriving DecidableEq, Repr, Inhabited

/-- What became of one file. -/
inductive Outcome where
  | checked (path : Path) (verdict : Verdict)
  /-- The file was not read, for a reason that names it. -/
  | unread (path : Path) (message : String)
  /-- The text of the file gives no manifest. -/
  | malformed (path : Path) (complaint : Complaint)
  deriving Inhabited

namespace Outcome

/-- The outcome of a file that gives no manifest. -/
def ofLoadError (e : Manifest.LoadError) : Outcome :=
  match e.failure with
  | .unreadable _ => .unread e.path e.message
  | .malformed error =>
    .malformed e.path
      { message := error.message, line? := error.location?.map Prod.fst,
        column? := error.location?.map Prod.snd }

/-- The file. -/
def path : Outcome → Path
  | checked path _ | unread path _ | malformed path _ => path

/-- Whether the file holds a manifest that satisfies its schema. -/
def isValid : Outcome → Bool
  | checked _ verdict => verdict.isValid
  | _ => false

/-- Whether the file gives no manifest. -/
def isFailure : Outcome → Bool
  | checked _ _ => false
  | _ => true

end Outcome

/-- How many files there were of each kind. -/
structure Summary where
  total : Nat
  valid : Nat
  invalid : Nat
  failed : Nat
  deriving DecidableEq, Repr, Inhabited

namespace Summary

/-- The counts of some outcomes. -/
def ofOutcomes (outcomes : List Outcome) : Summary :=
  { total := outcomes.length
    valid := outcomes.countP Outcome.isValid
    invalid := outcomes.countP fun o => !o.isFailure && !o.isValid
    failed := outcomes.countP Outcome.isFailure }

/-- The exit code of a run over at least one file: failures outweigh violations. -/
def exitCode (s : Summary) : Nat :=
  if 0 < s.failed then 2 else if 0 < s.invalid then 1 else 0

end Summary
end AgentManifest.Report
