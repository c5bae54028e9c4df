import AgentManifest.Lint.Checks
import AgentManifest.Manifest.Load
import AgentManifest.Report.Verdict
import AgentManifest.Schema.Builtin

/-!
# Validators

A validator holds a schema and the thresholds of the checks that follow it. A manifest that breaks
the schema is reported with its violations alone; one that satisfies it may still get advice.
-/

namespace AgentManifest

open Files (Path Tree)
open Report (Verdict)

/-- A schema with the thresholds of the checks that follow it. -/
structure Validator where
  schema : Schema.Compiled := Schema.builtin
  config : Lint.Config := {}
  deriving Inhabited

namespace Validator

/-- The advice on a manifest, given its size in bytes if it has one. -/
def advice (v : Validator) (document : Json.Value) (size? : Option Nat) : List Report.Warning :=
  Lint.check v.config document ++ (size?.bind (Lint.checkFileSize v.config)).toList

/-- The verdict on a manifest. -/
def validate (v : Validator) (bestPractices : Bool) (document : Json.Value)
    (size? : Option Nat) : Verdict :=
  match v.schema.evaluate document with
  | [] => Verdict.valid (if bestPractices then v.advice document size? else [])
  | violations => Verdict.invalid violations

/-- The verdict on the manifest in a file. -/
def validateFile (v : Validator) (bestPractices : Bool) (files : Tree) (p : Path) :
    Except Manifest.LoadError Verdict :=
  match Manifest.load files p with
  | .ok loaded => .ok (v.validate bestPractices loaded.tree (some loaded.size))
  | .error e => .error e

end Validator
end AgentManifest
