import AgentManifest.Decimal.Notation
import AgentManifest.Lint.Config
import AgentManifest.Lint.Depth
import AgentManifest.Report.Verdict

/-!
# Checks

Each check reads a manifest and gives warnings. A section that is missing or of an unexpected
shape is passed over, because its type is the schema's business.
-/

namespace AgentManifest.Lint

open Json (Value)
open Decimal (natString)
open Report (Warning)

/-- The place of an entry of a section. -/
def entryPath (field : String) (index : Nat) : String :=
  field ++ "[" ++ natString index ++ "]"

/-- The entries of a section, if it is an array. -/
def entries? (document : Value) (field : String) : Option (List Value) :=
  match document.get? field with
  | some (.array entries) => some entries
  | _ => none

/-- The warnings that a check gives for the entries from an index on. -/
def checkEntries (check : Nat → Value → Option Warning) : Nat → List Value → List Warning
  | _, [] => []
  | i, v :: vs => (check i v).toList ++ checkEntries check (i + 1) vs

/-- The number of lines of a text; behind a line break there is one more. -/
def lineCount (code : String) : Nat := code.toList.count '\n' + 1

/-- The sections whose entries carry code. -/
def codeSections : List String := ["quick_usage", "common_patterns"]

/-- Warns of an entry with too many lines of code. -/
def longCode? (c : Config) (field : String) (index : Nat) (entry : Value) : Option Warning :=
  match (entry.get? "code").bind Value.string? with
  | none => none
  | some code =>
    if lineCount code ≤ c.maxCodeLines then none
    else some
      { kind := .codeLength, path := entryPath field index,
        message := "Code example has " ++ natString (lineCount code) ++
          " lines (recommended: at most " ++ natString c.maxCodeLines ++ ")",
        severity := .minor }

/-- Warns of long code in the sections that carry code. -/
def checkCodeLength (c : Config) (document : Value) : List Warning :=
  codeSections.flatMap fun field =>
    match entries? document field with
    | some entries => checkEntries (longCode? c field) 0 entries
    | none => []

/-- Whether a section is there and not null. -/
def hasSection (document : Value) (field : String) : Bool :=
  match document.get? field with
  | none => false
  | some .null => false
  | some _ => true

/-- Warns of recommended sections that are missing. -/
def checkSections (c : Config) (document : Value) : List Warning :=
  (c.recommendedSections.filter fun field => !hasSection document field).map fun field =>
    { kind := .missingSection, path := "/",
      message := "Missing recommended section: " ++ field, severity := .moderate }

/-- Warns of too few usage examples. -/
def checkUsageExamples (c : Config) (document : Value) : List Warning :=
  match entries? document "quick_usage" with
  | none => []
  | some entries =>
    if c.minUsageExamples ≤ entries.length then []
    else
      [{ kind := .insufficientExamples, path := "quick_usage",
         message := "Consider adding more usage examples (found " ++ natString entries.length ++
          ", recommended: at least " ++ natString c.minUsageExamples ++ ")",
         severity := .minor }]

/-- Whether a value is there: not null, and no empty string. -/
def isPresent : Option Value → Bool
  | none => false
  | some .null => false
  | some (.string s) => !s.isEmpty
  | some _ => true

/-- Warns of a solution without an example. -/
def missingExample? (index : Nat) (entry : Value) : Option Warning :=
  if isPresent (entry.get? "solution") && !isPresent (entry.get? "example") then
    some
      { kind := .missingExample, path := entryPath "error_handling" index,
        message := "Consider adding a code example for this error solution", severity := .minor }
  else none

/-- Warns of solutions without an example. -/
def checkErrorExamples (document : Value) : List Warning :=
  match entries? document "error_handling" with
  | some entries => checkEntries missingExample? 0 entries
  | none => []

/-- Warns of a decision tree with too many levels. -/
def checkDecisionTree (c : Config) (document : Value) : List Warning :=
  match document.get? "decision_tree" with
  | none => []
  | some tree =>
    if objectDepth tree ≤ c.maxDecisionTreeDepth then []
    else
      [{ kind := .deepNesting, path := "decision_tree",
         message := "Decision tree has " ++ natString (objectDepth tree) ++
          " levels of nesting (recommended: at most " ++ natString c.maxDecisionTreeDepth ++ ")",
         severity := .moderate }]

/-- The warnings of all checks on a manifest, in order. -/
def check (c : Config) (document : Value) : List Warning :=
  checkCodeLength c document ++ checkSections c document ++ checkUsageExamples c document ++
    checkErrorExamples document ++ checkDecisionTree c document

/-! ## File size -/

/-- A number of bytes in kilobytes with one decimal, counted as a double. -/
def kilobytes (bytes : Nat) : String :=
  match Decimal.Binary64.ofInt bytes with
  | .finite _ m q =>
    let (num, den) := Decimal.scaleByTwo m 1024 q
    String.ofList (Decimal.oneDecimal num den)
  | _ => ""

/-- A limit in kilobytes, without a decimal where there is nothing behind the point. -/
def limitKilobytes (bytes : Nat) : String :=
  if bytes % 1024 = 0 then natString (bytes / 1024) else kilobytes bytes

/-- Warns of a file with too many bytes. -/
def checkFileSize (c : Config) (bytes : Nat) : Option Warning :=
  if bytes ≤ c.maxFileSize then none
  else some
    { kind := .fileSize, path := "/",
      message := "File size " ++ kilobytes bytes ++ "KB exceeds recommended " ++
        limitKilobytes c.maxFileSize ++ "KB",
      severity := .moderate }

end AgentManifest.Lint
