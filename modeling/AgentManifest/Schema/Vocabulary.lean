import AgentManifest.Schema.Syntax

/-!
# Vocabulary

The keywords that say something about values, by name, with the drafts that know them. A name that
a draft does not know says nothing. In the later drafts keywords also come in vocabularies, and say
nothing where theirs is not in force.
-/

namespace AgentManifest.Schema

open Json (Value)

/-- A keyword of the schema language. -/
inductive Word where
  | additionalItems
  | additionalProperties
  | allOf
  | alternative
  | anyOf
  | bound (c : Comparison)
  | condition
  | consequence
  | const
  | contains
  | contentEncoding
  | contentMediaType
  | count (m : Measure) (atLeast : Bool)
  | dependencies
  | dependentRequired
  | dependentSchemas
  | dynamicReference
  | enum
  | format
  | items
  | multipleOf
  | not
  | oneOf
  | pattern
  | patternProperties
  | prefixItems
  | properties
  | propertyNames
  | recursiveReference
  | reference
  | required
  | type
  | unevaluatedItems
  | unevaluatedProperties
  | uniqueItems
  deriving DecidableEq, Repr, Inhabited

/-- What the value of a keyword holds. -/
inductive Shape where
  /-- No schemas. -/
  | plain
  | one
  | many
  | named
  deriving DecidableEq, Repr, Inhabited

namespace Word

/-- The keywords by name, with the first and the last draft that know them. -/
def known : List (String × Draft × Draft × Word) :=
  [("$dynamicRef", .draft2020, .draft2020, dynamicReference),
    ("$recursiveRef", .draft2019, .draft2019, recursiveReference),
    ("$ref", .draft4, .draft2020, reference),
    ("additionalItems", .draft4, .draft2020, additionalItems),
    ("additionalProperties", .draft4, .draft2020, additionalProperties),
    ("allOf", .draft4, .draft2020, allOf),
    ("anyOf", .draft4, .draft2020, anyOf),
    ("const", .draft6, .draft2020, const),
    ("contains", .draft6, .draft2020, contains),
    ("contentEncoding", .draft6, .draft7, contentEncoding),
    ("contentMediaType", .draft6, .draft7, contentMediaType),
    ("dependencies", .draft4, .draft2020, dependencies),
    ("dependentRequired", .draft2019, .draft2020, dependentRequired),
    ("dependentSchemas", .draft2019, .draft2020, dependentSchemas),
    ("else", .draft7, .draft2020, alternative),
    ("enum", .draft4, .draft2020, enum),
    ("exclusiveMaximum", .draft6, .draft2020, bound .below),
    ("exclusiveMinimum", .draft6, .draft2020, bound .above),
    ("format", .draft4, .draft7, format),
    ("if", .draft7, .draft2020, condition),
    ("items", .draft4, .draft2020, items),
    ("maxItems", .draft4, .draft2020, count .items false),
    ("maxLength", .draft4, .draft2020, count .characters false),
    ("maxProperties", .draft4, .draft2020, count .properties false),
    ("maximum", .draft4, .draft2020, bound .atMost),
    ("minItems", .draft4, .draft2020, count .items true),
    ("minLength", .draft4, .draft2020, count .characters true),
    ("minProperties", .draft4, .draft2020, count .properties true),
    ("minimum", .draft4, .draft2020, bound .atLeast),
    ("multipleOf", .draft4, .draft2020, multipleOf),
    ("not", .draft4, .draft2020, not),
    ("oneOf", .draft4, .draft2020, oneOf),
    ("pattern", .draft4, .draft2020, pattern),
    ("patternProperties", .draft4, .draft2020, patternProperties),
    ("prefixItems", .draft2020, .draft2020, prefixItems),
    ("properties", .draft4, .draft2020, properties),
    ("propertyNames", .draft6, .draft2020, propertyNames),
    ("required", .draft4, .draft2020, required),
    ("then", .draft7, .draft2020, consequence),
    ("type", .draft4, .draft2020, type),
    ("unevaluatedItems", .draft2019, .draft2020, unevaluatedItems),
    ("unevaluatedProperties", .draft2019, .draft2020, unevaluatedProperties),
    ("uniqueItems", .draft4, .draft2020, uniqueItems)]

/-- The vocabulary that a keyword of a draft belongs to. References belong to none that could be out
of force, and what the first drafts alone know needs none. -/
def vocabulary? (d : Draft) : Word → Option Vocabulary
  | dynamicReference | recursiveReference | reference => none
  | contentEncoding | contentMediaType | format => none
  | unevaluatedItems | unevaluatedProperties =>
    some (if d = .draft2020 then .unevaluated else .applicator)
  | bound _ | const | count .. | dependentRequired | enum | multipleOf | pattern | required | type
  | uniqueItems => some .validation
  | _ => some .applicator

/-- Whether a keyword of a draft says something where some vocabularies are in force. The drafts
before 2019 know no vocabularies. -/
def inForce (d : Draft) (vocabularies : List Vocabulary) (w : Word) : Bool :=
  !d.since .draft2019 ||
    match w.vocabulary? d with
    | some vocabulary => vocabularies.contains vocabulary
    | none => true

/-- The keyword that some draft knows under a name. -/
def named? (name : String) : Option Word := (known.lookup name).map fun k => k.2.2

/-- The keyword that a draft knows under a name, with some vocabularies in force. -/
def of? (d : Draft) (vocabularies : List Vocabulary) (name : String) : Option Word :=
  match known.lookup name with
  | some (first, last, w) =>
    if d.since first && last.since d && w.inForce d vocabularies then some w else none
  | none => none

/-- What a keyword holds when it has a value. An array is a list of items' schemas where a single
schema for all items would be an object. -/
def shape (v : Value) : Word → Shape
  | additionalItems | additionalProperties | alternative | condition | consequence | contains | not
  | propertyNames | unevaluatedItems | unevaluatedProperties => .one
  | allOf | anyOf | oneOf | prefixItems => .many
  | items =>
    match v with
    | .array _ => .many
    | _ => .one
  | dependencies | dependentSchemas | patternProperties | properties => .named
  | _ => .plain

end Word
end AgentManifest.Schema
