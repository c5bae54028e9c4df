import AgentManifest.Schema.Compiled
import AgentManifest.Text.Quoted

/-!
# The schema of manifests

What a manifest has to look like: which sections there are, which of them every manifest has, and
what stands in each. Further sections need a name that starts with `x-`.
-/

namespace AgentManifest.Schema

open Json (Location)
open Pattern (Simple CharSet)

namespace Builtin

/-- The identifier of the schema. -/
def identifier : String := "https://llm-yml.org/schemas/llm.schema.json"

/-! ## Patterns -/

/-- One or more decimal digits. -/
def digits : Simple := .repeated (.set CharSet.digit) 1 none true

/-- A point. -/
def point : Simple := .char '.'

/-- What stands in the label of a version. -/
def labelSet : CharSet :=
  CharSet.union CharSet.digit (CharSet.union CharSet.letter
    (CharSet.union (CharSet.single '.') (CharSet.single '-')))

/-- A version: two or three numbers with points between them, and possibly a label behind a minus or
a plus sign. -/
def version : Simple :=
  .sequence [
    .anchor .start, digits, point, digits,
    .repeated (.group none (.seq point digits)) 0 (some 1) true,
    .repeated (.group none (.seq
      (.set (CharSet.union (CharSet.single '-') (CharSet.single '+')))
      (.repeated (.set labelSet) 1 none true))) 0 (some 1) true,
    .anchor .finish]

/-- The pattern of versions as it is written. -/
def versionPattern : String := "^[0-9]+\\.[0-9]+(\\.[0-9]+)?([-+][0-9A-Za-z.-]+)?$"

/-- The names of further sections. -/
def extensionName : NamePattern where
  text := "^x-"
  matcher := .simple (.sequence [.anchor .start, .char 'x', .char '-'])

/-! ## Parts -/

/-- A condition under its own keyword. -/
def test (keyword : String) (a : Assertion) : Keyword := .test [.key keyword] a

/-- Values of one type. -/
def ofType (k : Kind) : Keyword := test "type" (.type [k] false)

/-- Strings. -/
def text : Form := .all [ofType .string]

/-- Strings that are not empty. -/
def someText : Form := .all [test "minLength" (.count .characters true 1), ofType .string]

/-- Strings whose length is between two limits. -/
def textBetween (least most : Nat) : Form :=
  .all [test "maxLength" (.count .characters false most),
    test "minLength" (.count .characters true least), ofType .string]

/-- One of some strings. -/
def oneOf (options : List String) : Form :=
  .all [test "enum" (.enum (options.map Json.Value.string)), ofType .string]

/-- Lists of values that satisfy a schema. -/
def listOf (s : Form) : Form := .all [.itemsFrom "items" 0 s, ofType .array]

/-- Objects with some members, of which some are required. -/
def record (required : List String) (members : List (String × Form)) : Form :=
  .all [.properties members, .required [.key "required"] required, ofType .object]

/-- Where a definition of the schema stands. -/
def target (name : String) : Target :=
  { resource := identifier, anchor := none, place := [.key "definitions", .key name],
    base := identifier, scopes := [], draft := .draft7, vocabularies := [] }

/-- Lists of values that satisfy a definition. -/
def listOfDefined (name : String) : Form :=
  listOf (.all [.reference "$ref" (target name)])

/-! ## Sections -/

/-- The categories of software. -/
def categories : List String :=
  ["library", "framework", "cli", "service", "api", "tool", "plugin", "other"]

/-- How far software has come. -/
def stabilities : List String := ["experimental", "beta", "stable", "deprecated"]

/-- What may be said about the manifest itself. -/
def metadata : Form :=
  .all [
    .properties [
      ("maintainers", listOf text),
      ("min_runtime_version", text),
      ("priority", .all [test "maximum" (.bound .atMost (.int 5)),
        test "minimum" (.bound .atLeast (.int 1)), ofType .integer]),
      ("stability", oneOf stabilities)],
    ofType .object]

/-- The sections by name. -/
def sections : List (String × Form) :=
  [("category", oneOf categories),
    ("common_patterns", listOfDefined "pattern_example"),
    ("decision_tree", .all [ofType .object]),
    ("description", textBetween 10 500),
    ("error_handling", listOfDefined "error_entry"),
    ("keywords", .all [.itemsFrom "items" 0 someText,
      test "maxItems" (.count .items false 20), ofType .array, test "uniqueItems" .uniqueItems]),
    ("language", someText),
    ("metadata", metadata),
    ("name", textBetween 1 100),
    ("quick_usage", listOfDefined "usage_example"),
    ("related", listOf someText),
    ("repository", someText),
    ("version", .all [test "pattern" (.pattern versionPattern (.simple version)), ofType .string])]

/-- The sections that every manifest has. -/
def requiredSections : List String := ["name", "version", "description", "quick_usage"]

/-- The schemas of what stands in lists. -/
def definitions : List (String × Form) :=
  [("usage_example", record ["description", "code"]
      [("code", someText), ("description", someText), ("language", text), ("output", text)]),
    ("pattern_example", record ["name", "code"]
      [("code", someText), ("description", text), ("language", text), ("name", someText)]),
    ("error_entry", record ["error"]
      [("cause", text), ("error", someText), ("example", text), ("solution", text)])]

end Builtin

open Builtin in
/-- The schema of manifests. -/
def builtin : Compiled where
  id? := some identifier
  root := .all [
    .closed sections [(extensionName, .all [])],
    .required [.key "required"] requiredSections,
    ofType .object]
  table := { forms := definitions.map fun d => (target d.1, d.2) }

/-- The text that stands for a compiled schema in diagnostics. -/
def Compiled.debugText (s : Compiled) : String :=
  let id :=
    match s.id? with
    | some id => "Some(" ++ Text.quoted id ++ ")"
    | none => "None"
  "CompiledSchema \x7b schema_id: " ++ id ++ ", .. \x7d"

end AgentManifest.Schema
