import AgentManifest.Json.Printer
import AgentManifest.Report.Verdict
import AgentManifest.Schema.Syntax

/-!
# Failures

Why a value does not satisfy a schema, and where. A cause is worded twice: for a report, from the
schema alone and with its parameters as JSON, and for the errors of schemas, with the value at
fault.
-/

namespace AgentManifest.Schema

open Decimal (Binary64 natString)
open Json (Value Members Location Number)
open Report (Violation)

/-- Why a keyword fails. -/
inductive Cause where
  | type (kinds : List Kind)
  | const (v : Value)
  | enum (options : List Value)
  | count (m : Measure) (atLeast : Bool) (limit : Nat)
  | bound (c : Comparison) (limit : Number)
  | multipleOf (divisor : Binary64)
  | pattern (text : String)
  /-- It could not be found out whether a pattern matches. -/
  | patternGivenUp
  | format (name : String)
  | required (name : String)
  | additionalProperties (names : List String)
  | uniqueItems
  | anyOf
  /-- Several alternatives hold, or none. -/
  | oneOf (several : Bool)
  | not (written : Value)
  | never
  | contains
  | additionalItems (limit : Nat)
  | unevaluatedProperties (names : List String)
  | unevaluatedItems (items : List Value)
  | propertyName (name : String) (inner : Cause)
  | mediaType
  | encoding
  | notUtf8 (offset : Nat) (length : Option Nat)
  deriving Inhabited

/-- A cause at a place of a value and a place of its schema. -/
structure Failure where
  place : Location
  keyword : Location
  cause : Cause
  deriving Inhabited

/-- Whether a cause is reported for the whole value, wherever it arises. -/
def Cause.hidesPlace : Cause → Bool
  | .notUtf8 _ _ => true
  | _ => false

/-- Whether a cause is reported for the whole schema, wherever it arises. -/
def Cause.hidesKeyword : Cause → Bool
  | .notUtf8 _ _ => true
  | .propertyName _ inner => inner.hidesKeyword
  | _ => false

/-- The failure as seen from further up in the value and in the schema. -/
def Failure.under (place keyword : Location) (f : Failure) : Failure :=
  { f with
    place := if f.cause.hidesPlace then f.place else place ++ f.place,
    keyword := if f.cause.hidesKeyword then f.keyword else keyword ++ f.keyword }

/-! ## Wording for reports -/

/-- The sign of a comparison. -/
def Comparison.sign : Comparison → String
  | .atLeast => ">="
  | .atMost => "<="
  | .above => ">"
  | .below => "<"

/-- What is counted, in the plural. -/
def Measure.plural : Measure → String
  | .characters => "characters"
  | .items => "items"
  | .properties => "properties"

/-- A number in running text. -/
def numberText (n : Number) : String := String.ofList n.write

namespace Cause

/-- The wording of a cause for a report and its parameters, both from the schema alone. Some
causes have none. -/
def description? : Cause → Option (String × Option Members)
  | .type kinds =>
    let types := ",".intercalate (kinds.map Kind.name)
    some ("must be " ++ types, some [("type", .string types)])
  | .const v => some ("must be equal to constant", some [("allowedValue", v)])
  | .enum options =>
    some ("must be equal to one of the allowed values", some [("allowedValues", .array options)])
  | .count m atLeast limit =>
    some ("must NOT have " ++ (if atLeast then "fewer" else "more") ++ " than " ++
      natString limit ++ " " ++ m.plural, some [("limit", .nat limit)])
  | .bound c limit =>
    some ("must be " ++ c.sign ++ " " ++ numberText limit,
      some [("comparison", .string c.sign), ("limit", .number limit)])
  | .multipleOf divisor =>
    some ("must be multiple of " ++ divisor.text .plain,
      some [("multipleOf", .number (.float divisor))])
  | .pattern text =>
    some ("must match pattern \"" ++ text ++ "\"", some [("pattern", .string text)])
  | .format name => some ("must match format \"" ++ name ++ "\"", some [("format", .string name)])
  | .required name =>
    some ("must have required property '" ++ name ++ "'", some [("missingProperty", .string name)])
  | .additionalProperties names =>
    some ("must NOT have additional properties: " ++ ", ".intercalate names,
      some [("additionalProperties", .array (names.map Value.string))])
  | .uniqueItems => some ("must NOT have duplicate items", none)
  | .anyOf => some ("must match a schema in anyOf", none)
  | .oneOf _ => some ("must match exactly one schema in oneOf", none)
  | .not _ => some ("must NOT be valid", none)
  | .never => some ("boolean schema is false", none)
  | .contains => some ("must contain at least 1 valid item", none)
  | _ => none

/-! ## Wording with the value at fault -/

/-- A count with its unit in the singular or plural. -/
def counted (n : Nat) (singular plural : String) : String :=
  natString n ++ " " ++ if n = 1 then singular else plural

/-- How a count falls short or goes too far. -/
def countText (m : Measure) (atLeast : Bool) (limit : Nat) : String :=
  match m with
  | .characters =>
    "is " ++ (if atLeast then "shorter" else "longer") ++ " than " ++
      counted limit "character" "characters"
  | .items =>
    "has " ++ (if atLeast then "less" else "more") ++ " than " ++ counted limit "item" "items"
  | .properties =>
    "has " ++ (if atLeast then "less" else "more") ++ " than " ++
      counted limit "property" "properties"

/-- How a number misses a limit. -/
def boundText : Comparison → String
  | .atLeast => "is less than the minimum of "
  | .atMost => "is greater than the maximum of "
  | .above => "is less than or equal to the minimum of "
  | .below => "is greater than or equal to the maximum of "

/-- A list of things that were not expected. -/
def unexpected (things : List String) : String :=
  "(" ++ ", ".intercalate things ++
    if things.length = 1 then " was unexpected)" else " were unexpected)"

/-- A name between single quotes. -/
def singleQuoted (name : String) : String := "'" ++ name ++ "'"

/-- A name between double quotes. -/
def doubleQuoted (name : String) : String := "\"" ++ name ++ "\""

/-- The wording for text that is not in an encoding, given where the bytes at fault start and how
many they are. -/
def notUtf8Text (offset : Nat) (length : Option Nat) : String :=
  match length with
  | some n =>
    "invalid utf-8 sequence of " ++ natString n ++ " bytes from index " ++ natString offset
  | none => "incomplete utf-8 byte sequence from index " ++ natString offset

/-- The wording of a cause, given how the value at fault is written. -/
def message (shown : String) : Cause → String
  | .type [k] => shown ++ " is not of type " ++ doubleQuoted k.name
  | .type kinds =>
    shown ++ " is not of types " ++ ", ".intercalate (kinds.map fun k => doubleQuoted k.name)
  | .const v => v.compact ++ " was expected"
  | .enum options => shown ++ " is not one of " ++ (Value.array options).compact
  | .count m atLeast limit => shown ++ " " ++ countText m atLeast limit
  | .bound c limit => shown ++ " " ++ boundText c ++ numberText limit
  | .multipleOf divisor => shown ++ " is not a multiple of " ++ divisor.text .plain
  | .pattern text => shown ++ " does not match " ++ doubleQuoted text
  | .patternGivenUp => "Error executing regex: Max limit for backtracking count exceeded"
  | .format name => shown ++ " is not a " ++ doubleQuoted name
  | .required name => (Value.string name).compact ++ " is a required property"
  | .additionalProperties names =>
    "Additional properties are not allowed " ++ unexpected (names.map singleQuoted)
  | .uniqueItems => shown ++ " has non-unique elements"
  | .anyOf => shown ++ " is not valid under any of the schemas listed in the 'anyOf' keyword"
  | .oneOf several =>
    if several then
      shown ++ " is valid under more than one of the schemas listed in the 'oneOf' keyword"
    else shown ++ " is not valid under any of the schemas listed in the 'oneOf' keyword"
  | .not written => written.compact ++ " is not allowed for " ++ shown
  | .never => "False schema does not allow " ++ shown
  | .contains => "None of " ++ shown ++ " are valid under the given schema"
  | .additionalItems limit => "Additional items are not allowed (" ++ natString limit ++ " items)"
  | .unevaluatedProperties names =>
    "Unevaluated properties are not allowed " ++ unexpected (names.map singleQuoted)
  | .unevaluatedItems items =>
    "Unevaluated items are not allowed (" ++ natString items.length ++ " items)"
  | .propertyName name inner => inner.message (Value.string name).compact
  | .mediaType => shown ++ " is not compliant with \"application/json\" media type"
  | .encoding => shown ++ " is not compliant with \"base64\" content encoding"
  | .notUtf8 offset length => notUtf8Text offset length

end Cause

/-- The violation that reports a failure. A cause without a wording of its own is worded without
the value at fault. -/
def Failure.violation (f : Failure) : Violation :=
  let (message, params) := f.cause.description?.getD (f.cause.message "value", none)
  Violation.make (Location.pointer f.place) message params (Location.pointer f.keyword)

end AgentManifest.Schema
