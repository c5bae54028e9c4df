import AgentManifest.Json.Printer
import AgentManifest.Json.Record

/-!
# Verdicts

The outcome of checking one manifest: its violations or, if there are none, its warnings.
-/

namespace AgentManifest.Report

open Json (Value Members)

/-! ## Violations

A place in a manifest that does not satisfy its schema.
-/

/-- A place in a document, the keyword of the schema that fails there, and the parameters of the
failure. Both places are JSON pointers, except that `/` stands for the whole document. -/
structure Violation where
  path : String
  message : String
  params : Option Members
  schemaPath : String
  deriving Inhabited

namespace Violation

/-- A violation at a pointer; the empty pointer is written `/`. -/
def make (path message : String) (params : Option Members) (schemaPath : String) : Violation :=
  { path := if path.isEmpty then "/" else path, message, params, schemaPath }

/-- A parameter of the failure. -/
def param? (v : Violation) (name : String) : Option Value := v.params.bind (·.get? name)

/-- A violation on one line. -/
def text (v : Violation) : String := v.path ++ ": " ++ v.message

/-- A value as it is shown in running text: strings bare, all else as JSON. -/
def bare : Value → String
  | .string s => s
  | v => v.compact

/-- A violation on one line, with the allowed values and the limit where there are such. -/
def describe (v : Violation) : String :=
  v.text ++
    (match v.param? "allowedValues" with
      | some (.array allowed) => " (allowed: " ++ ", ".intercalate (allowed.map bare) ++ ")"
      | _ => "") ++
    match v.param? "limit" with
    | some limit => " (limit: " ++ bare limit ++ ")"
    | none => ""

/-- A violation as JSON; absent parameters are left out. -/
def toJson (v : Violation) : Value :=
  .object ([("path", .string v.path), ("message", .string v.message)] ++
    (match v.params with
      | some ms => [("params", .object ms)]
      | none => []) ++
    [("schemaPath", .string v.schemaPath)])

/-- The fields of a violation that are known. -/
structure Partial where
  path : Option String := none
  message : Option String := none
  params : Option (Option Members) := none
  schemaPath : Option String := none

/-- The shape of a violation. -/
def shape : Json.Shape Partial :=
  { title := "struct SchemaViolation", closed := false,
    fields := [
      .of "path" true Json.decodeString (·.path) fun st a => { st with path := some a },
      .of "message" true Json.decodeString (·.message) fun st a => { st with message := some a },
      .of "params" false (Json.decodeOption Json.decodeMembers) (·.params)
        fun st a => { st with params := some a },
      .of "schemaPath" true Json.decodeString (·.schemaPath)
        fun st a => { st with schemaPath := some a }] }

/-- The violation whose fields are all known; without parameters it has none. -/
def Partial.get (st : Partial) : Violation :=
  { path := st.path.getD "", message := st.message.getD "", params := st.params.getD none,
    schemaPath := st.schemaPath.getD "" }

/-- Reads a violation, its path as it is written. -/
def decode : Json.Decoder Violation := fun fuel depth s => do
  let (st, rest) ← shape.decode {} fuel depth s
  .ok (st.get, rest)

end Violation

/-! ## Warnings

Advice about a manifest that satisfies its schema.
-/

/-- How much a warning matters. -/
inductive Severity where
  | minor
  | moderate
  deriving DecidableEq, Repr, Inhabited

/-- The name of a severity. -/
def Severity.name : Severity → String
  | .minor => "minor"
  | .moderate => "moderate"

/-- Whether one severity ranks below another. -/
def Severity.below : Severity → Severity → Bool
  | .minor, .moderate => true
  | _, _ => false

/-- The severities, from the lowest. -/
def Severity.all : List Severity := [.minor, .moderate]

/-- Which check a warning comes from. -/
inductive WarningKind where
  | codeLength
  | missingSection
  | insufficientExamples
  | missingExample
  | deepNesting
  | fileSize
  deriving DecidableEq, Repr, Inhabited

/-- The name of a kind. -/
def WarningKind.name : WarningKind → String
  | .codeLength => "code_length"
  | .missingSection => "missing_section"
  | .insufficientExamples => "insufficient_examples"
  | .missingExample => "missing_example"
  | .deepNesting => "deep_nesting"
  | .fileSize => "file_size"

/-- The kinds, in the order in which the checks run. -/
def WarningKind.all : List WarningKind :=
  [.codeLength, .missingSection, .insufficientExamples, .missingExample, .deepNesting, .fileSize]

/-- A warning about a place in a manifest. -/
structure Warning where
  kind : WarningKind
  /-- The section and entry meant, or `/` for the whole. -/
  path : String
  message : String
  severity : Severity
  deriving DecidableEq, Repr, Inhabited

namespace Warning

/-- A warning on one line. -/
def text (w : Warning) : String := "[" ++ w.severity.name ++ "] " ++ w.message

/-- A warning as JSON. -/
def toJson (w : Warning) : Value :=
  .object [("type", .string w.kind.name), ("path", .string w.path), ("message", .string w.message),
    ("severity", .string w.severity.name)]

/-- The fields of a warning that are known. -/
structure Partial where
  kind : Option WarningKind := none
  path : Option String := none
  message : Option String := none
  severity : Option Severity := none

/-- Reads a severity. -/
def decodeSeverity : Json.Decoder Severity :=
  Json.decodeVariant (Severity.all.map fun s => (s.name, s))

/-- Reads a kind. -/
def decodeKind : Json.Decoder WarningKind :=
  Json.decodeVariant (WarningKind.all.map fun k => (k.name, k))

/-- The shape of a warning. -/
def shape : Json.Shape Partial :=
  { title := "struct BestPracticeWarning", closed := false,
    fields := [
      .of "type" true decodeKind (·.kind) fun st a => { st with kind := some a },
      .of "path" true Json.decodeString (·.path) fun st a => { st with path := some a },
      .of "message" true Json.decodeString (·.message) fun st a => { st with message := some a },
      .of "severity" true decodeSeverity (·.severity) fun st a => { st with severity := some a }] }

/-- The warning whose fields are all known. -/
def Partial.get (st : Partial) : Warning :=
  { kind := st.kind.getD default, path := st.path.getD "", message := st.message.getD "",
    severity := st.severity.getD default }

/-- Reads a warning. -/
def decode : Json.Decoder Warning := fun fuel depth s => do
  let (st, rest) ← shape.decode {} fuel depth s
  .ok (st.get, rest)

end Warning

/-! ## Outcomes -/

/-- The outcome of checking one manifest. -/
structure Verdict where
  isValid : Bool
  errors : List Violation
  warnings : List Warning
  deriving Inhabited

namespace Verdict

/-- A verdict without violations. -/
def valid (warnings : List Warning) : Verdict := { isValid := true, errors := [], warnings }

/-- A verdict with violations; if the list is empty the manifest is valid. -/
def invalid (errors : List Violation) : Verdict :=
  { isValid := errors.isEmpty, errors, warnings := [] }

/-- Adds a warning to the verdict on a valid manifest. -/
def push (v : Verdict) (w : Warning) : Verdict :=
  if v.isValid then { v with warnings := v.warnings ++ [w] } else v

/-- Drops the warnings. -/
def clearWarnings (v : Verdict) : Verdict := { v with warnings := [] }

/-- A verdict as JSON. -/
def toJson (v : Verdict) : Value :=
  .object [("valid", .bool v.isValid), ("errors", .array (v.errors.map Violation.toJson)),
    ("warnings", .array (v.warnings.map Warning.toJson))]

end Verdict

end AgentManifest.Report
