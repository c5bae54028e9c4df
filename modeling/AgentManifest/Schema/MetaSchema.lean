import AgentManifest.Schema.Draft

/-!
# The schemas of schemas

Each draft comes with a schema that says what a schema of the draft looks like. From 2019-09 on it
is a resource of its own for each vocabulary and one that joins them.
-/

namespace AgentManifest.Schema.MetaSchema

open Json (Value Members)

/-- A schema with members in any order. -/
def obj (pairs : List (String × Value)) : Value := .object (Members.ofList pairs)

/-- A schema for one type of values, with more members. -/
def ofType (name : String) (more : List (String × Value)) : Value :=
  obj (("type", .string name) :: more)

/-- A schema that only refers to another. -/
def ref (target : String) : Value := obj [("$ref", .string target)]

/-- A schema without conditions. -/
def anything : Value := .object []

def text : Value := ofType "string" []
def flag : Value := ofType "boolean" []
def number : Value := ofType "number" []
def count : Value := ofType "integer" [("minimum", .nat 0)]
def regex : Value := ofType "string" [("format", .string "regex")]
def uri : Value := ofType "string" [("format", .string "uri")]
def uriReference : Value := ofType "string" [("format", .string "uri-reference")]

/-- A schema for objects all of whose members satisfy a schema. -/
def mapOf (s : Value) : Value := ofType "object" [("additionalProperties", s)]

/-- A schema for objects that hold schemas by pattern. -/
def patternsOf (s : Value) : Value :=
  ofType "object" [("additionalProperties", s),
    ("propertyNames", obj [("format", .string "regex")])]

/-- Alternatives. -/
def anyOf (schemas : List Value) : Value := obj [("anyOf", .array schemas)]

/-- Conjunctions. -/
def allOf (schemas : List Value) : Value := obj [("allOf", .array schemas)]

/-- The names of types. -/
def simpleTypes : Value :=
  obj [("enum", .array (["array", "boolean", "integer", "null", "number", "object", "string"].map
    Value.string))]

/-- A schema for what is a schema: an object, or a truth value. -/
def schemaTypes : Value := .array [.string "object", .string "boolean"]

/-- The same schema under several names. -/
def each (names : List String) (s : Value) : List (String × Value) := names.map fun n => (n, s)

/-- A schema for one or several types, given where the names of types are. -/
def typeNames (simple : Value) : Value :=
  anyOf [simple, ofType "array" [("items", simple), ("minItems", .nat 1),
    ("uniqueItems", .bool true)]]

/-! ## Drafts 4, 6 and 7 -/

/-- What the first drafts have in common, given how they name counts. -/
def sharedProperties (count countFromZero : Value) : List (String × Value) :=
  each ["title", "description", "format"] text ++
  each ["maximum", "minimum"] number ++
  each ["maxLength", "maxItems", "maxProperties"] count ++
  each ["minLength", "minItems", "minProperties"] countFromZero ++
  each ["allOf", "anyOf", "oneOf"] (ref "#/definitions/schemaArray") ++
  each ["definitions", "properties"] (mapOf (ref "#")) ++
  [("pattern", regex),
    ("items", anyOf [ref "#", ref "#/definitions/schemaArray"]),
    ("uniqueItems", flag),
    ("required", ref "#/definitions/stringArray"),
    ("dependencies", mapOf (anyOf [ref "#", ref "#/definitions/stringArray"])),
    ("type", typeNames (ref "#/definitions/simpleTypes")),
    ("not", ref "#")]

/-- A list of at least one schema. -/
def schemaArray : Value := ofType "array" [("minItems", .nat 1), ("items", ref "#")]

/-- A list of different strings. -/
def stringArray : Value := ofType "array" [("items", text), ("uniqueItems", .bool true)]

/-- A list of at least one value, all different. -/
def someValues : Value := ofType "array" [("minItems", .nat 1), ("uniqueItems", .bool true)]

/-- The schema of draft 4. -/
def draft4 : Value :=
  let id : Value := .string "http://json-schema.org/draft-04/schema#"
  ofType "object" [
    ("id", id), ("$schema", id),
    ("definitions", obj [
      ("schemaArray", schemaArray),
      ("positiveInteger", count),
      ("positiveIntegerDefault0", allOf [ref "#/definitions/positiveInteger",
        obj [("default", .nat 0)]]),
      ("simpleTypes", simpleTypes),
      ("stringArray", ofType "array" [("items", text), ("minItems", .nat 1),
        ("uniqueItems", .bool true)])]),
    ("properties", obj (
      sharedProperties (ref "#/definitions/positiveInteger")
        (ref "#/definitions/positiveIntegerDefault0") ++
      each ["id", "$schema"] text ++
      each ["exclusiveMaximum", "exclusiveMinimum"] flag ++
      each ["additionalItems", "additionalProperties"] (anyOf [flag, ref "#"]) ++
      [("default", anything),
        ("multipleOf", ofType "number" [("minimum", .nat 0), ("exclusiveMinimum", .bool true)]),
        ("patternProperties", mapOf (ref "#")),
        ("enum", someValues)])),
    ("dependencies", obj [
      ("exclusiveMaximum", .array [.string "maximum"]),
      ("exclusiveMinimum", .array [.string "minimum"])])]

/-- What drafts 6 and 7 share. -/
def laterProperties : List (String × Value) :=
  sharedProperties (ref "#/definitions/nonNegativeInteger")
    (ref "#/definitions/nonNegativeIntegerDefault0") ++
  each ["$id", "$ref"] uriReference ++
  each ["exclusiveMaximum", "exclusiveMinimum"] number ++
  each ["additionalItems", "additionalProperties", "contains", "propertyNames"] (ref "#") ++
  [("$schema", uri), ("multipleOf", ofType "number" [("exclusiveMinimum", .nat 0)])]

/-- What drafts 6 and 7 define. -/
def laterDefinitions : Value :=
  obj [
    ("schemaArray", schemaArray),
    ("nonNegativeInteger", count),
    ("nonNegativeIntegerDefault0", allOf [ref "#/definitions/nonNegativeInteger",
      obj [("default", .nat 0)]]),
    ("simpleTypes", simpleTypes),
    ("stringArray", stringArray)]

/-- The schema of draft 6. -/
def draft6 : Value :=
  let id : Value := .string "http://json-schema.org/draft-06/schema#"
  obj [
    ("$id", id), ("$schema", id),
    ("definitions", laterDefinitions),
    ("type", schemaTypes),
    ("properties", obj (laterProperties ++
      [("default", anything),
        ("examples", ofType "array" [("items", anything)]),
        ("patternProperties", mapOf (ref "#")),
        ("const", anything),
        ("enum", someValues)]))]

/-- The schema of draft 7. -/
def draft7 : Value :=
  let id : Value := .string "http://json-schema.org/draft-07/schema#"
  obj [
    ("$id", id), ("$schema", id),
    ("definitions", laterDefinitions),
    ("type", schemaTypes),
    ("properties", obj (laterProperties ++
      each ["$comment", "contentMediaType", "contentEncoding"] text ++
      each ["if", "then", "else"] (ref "#") ++
      each ["default", "const"] (.bool true) ++
      each ["examples", "enum"] (ofType "array" [("items", .bool true)]) ++
      [("readOnly", flag),
        ("patternProperties", patternsOf (ref "#"))]))]

/-! ## Draft 2019-09 -/

/-- The vocabularies' properties of counts, types and values, shared by the later drafts. -/
def validationProperties : List (String × Value) :=
  each ["maximum", "exclusiveMaximum", "minimum", "exclusiveMinimum"] number ++
  each ["maxLength", "maxItems", "maxContains", "minContains", "maxProperties"]
    (ref "#/$defs/nonNegativeInteger") ++
  each ["minLength", "minItems", "minProperties"] (ref "#/$defs/nonNegativeIntegerDefault0") ++
  [("multipleOf", ofType "number" [("exclusiveMinimum", .nat 0)]),
    ("pattern", regex),
    ("uniqueItems", flag),
    ("required", ref "#/$defs/stringArray"),
    ("dependentRequired", mapOf (ref "#/$defs/stringArray")),
    ("const", .bool true),
    ("enum", ofType "array" [("items", .bool true)]),
    ("type", typeNames (ref "#/$defs/simpleTypes"))]

/-- What the vocabulary of counts, types and values defines. -/
def validationDefinitions : Value :=
  obj [
    ("nonNegativeInteger", count),
    ("nonNegativeIntegerDefault0", obj [("$ref", .string "#/$defs/nonNegativeInteger"),
      ("default", .nat 0)]),
    ("simpleTypes", simpleTypes),
    ("stringArray", stringArray)]

/-- The properties that describe a schema for readers. -/
def descriptionProperties : List (String × Value) :=
  each ["title", "description"] text ++
  each ["deprecated", "readOnly", "writeOnly"] flag ++
  [("default", .bool true), ("examples", ofType "array" [("items", .bool true)])]

/-- One resource of a later draft: its path, the member that makes its root the outermost one's, its
properties and what else it has. -/
def resource (base path : String) (root : String × Value) (properties : List (String × Value))
    (more : List (String × Value)) : String × Value :=
  (base ++ path, obj ([
    ("$id", .string (base ++ path)), ("$schema", .string (base ++ "schema")), root,
    ("type", schemaTypes), ("properties", obj properties)] ++ more))

/-- The schemas of draft 2019-09, the joining one last. -/
def draft2019 : List (String × Value) :=
  let base := "https://json-schema.org/draft/2019-09/"
  let root := ("$recursiveAnchor", Value.bool true)
  let self := obj [("$recursiveRef", .string "#")]
  let several := ref "#/$defs/schemaArray"
  let parts := ["core", "applicator", "validation", "meta-data", "format", "content"]
  [resource base "meta/core" root
      (each ["$ref", "$recursiveRef"] uriReference ++
        [("$id", ofType "string" [("format", .string "uri-reference"),
            ("pattern", .string "^[^#]*#?$")]),
          ("$schema", uri),
          ("$anchor", ofType "string" [("pattern", .string "^[A-Za-z][-A-Za-z0-9.:_]*$")]),
          ("$recursiveAnchor", flag),
          ("$vocabulary", ofType "object" [("propertyNames", uri),
            ("additionalProperties", flag)]),
          ("$comment", text),
          ("$defs", mapOf self)]) [],
    resource base "meta/applicator" root
      (each ["additionalItems", "unevaluatedItems", "contains", "additionalProperties",
          "unevaluatedProperties", "propertyNames", "if", "then", "else", "not"] self ++
        each ["allOf", "anyOf", "oneOf"] several ++
        each ["properties", "dependentSchemas"] (mapOf self) ++
        [("items", anyOf [self, several]), ("patternProperties", patternsOf self)])
      [("$defs", obj [("schemaArray", ofType "array" [("minItems", .nat 1), ("items", self)])])],
    resource base "meta/validation" root validationProperties [("$defs", validationDefinitions)],
    resource base "meta/meta-data" root descriptionProperties [],
    resource base "meta/format" root [("format", text)] [],
    resource base "meta/content" root
      (each ["contentMediaType", "contentEncoding"] text ++ [("contentSchema", self)]) [],
    resource base "schema" root
      [("definitions", mapOf self),
        ("dependencies", mapOf (anyOf [self, ref "meta/validation#/$defs/stringArray"]))]
      [("allOf", .array (parts.map fun p => ref ("meta/" ++ p)))]]

/-! ## Draft 2020-12 -/

/-- The schemas of draft 2020-12, the joining one last. -/
def draft2020 : List (String × Value) :=
  let base := "https://json-schema.org/draft/2020-12/"
  let root := ("$dynamicAnchor", Value.string "meta")
  let self := obj [("$dynamicRef", .string "#meta")]
  let several := ref "#/$defs/schemaArray"
  let parts := ["core", "applicator", "unevaluated", "validation", "meta-data",
    "format-annotation", "content"]
  [resource base "meta/core" root
      (each ["$anchor", "$dynamicAnchor"] (ref "#/$defs/anchorString") ++
        each ["$ref", "$dynamicRef"] (ref "#/$defs/uriReferenceString") ++
        [("$id", obj [("$ref", .string "#/$defs/uriReferenceString"),
            ("pattern", .string "^[^#]*#?$")]),
          ("$schema", ref "#/$defs/uriString"),
          ("$vocabulary", ofType "object" [("propertyNames", ref "#/$defs/uriString"),
            ("additionalProperties", flag)]),
          ("$comment", text),
          ("$defs", mapOf self)])
      [("$defs", obj [
        ("anchorString", ofType "string" [("pattern", .string "^[A-Za-z_][-A-Za-z0-9._]*$")]),
        ("uriString", uri),
        ("uriReferenceString", uriReference)])],
    resource base "meta/applicator" root
      (each ["items", "contains", "additionalProperties", "propertyNames", "if", "then", "else",
          "not"] self ++
        each ["prefixItems", "allOf", "anyOf", "oneOf"] several ++
        each ["properties", "dependentSchemas"] (mapOf self) ++
        [("patternProperties", patternsOf self)])
      [("$defs", obj [("schemaArray", ofType "array" [("minItems", .nat 1), ("items", self)])])],
    resource base "meta/unevaluated" root
      (each ["unevaluatedItems", "unevaluatedProperties"] self) [],
    resource base "meta/validation" root validationProperties [("$defs", validationDefinitions)],
    resource base "meta/meta-data" root descriptionProperties [],
    resource base "meta/format-annotation" root [("format", text)] [],
    resource base "meta/content" root
      (each ["contentMediaType", "contentEncoding"] text ++ [("contentSchema", self)]) [],
    resource base "schema" root
      [("definitions", mapOf self),
        ("dependencies", mapOf (anyOf [self, ref "meta/validation#/$defs/stringArray"])),
        ("$recursiveAnchor", ref "meta/core#/$defs/anchorString"),
        ("$recursiveRef", ref "meta/core#/$defs/uriReferenceString")]
      [("allOf", .array (parts.map fun p => ref ("meta/" ++ p)))]]

/-! ## All of them -/

/-- The schemas that a draft comes with, by identifier. -/
def documents : Draft → List (String × Value)
  | .draft4 => [("http://json-schema.org/draft-04/schema", draft4)]
  | .draft6 => [("http://json-schema.org/draft-06/schema", draft6)]
  | .draft7 => [("http://json-schema.org/draft-07/schema", draft7)]
  | .draft2019 => draft2019
  | .draft2020 => draft2020

/-- The identifier of the schema that schemas of a draft have to satisfy. -/
def identifier : Draft → String
  | .draft4 => "http://json-schema.org/draft-04/schema"
  | .draft6 => "http://json-schema.org/draft-06/schema"
  | .draft7 => "http://json-schema.org/draft-07/schema"
  | .draft2019 => "https://json-schema.org/draft/2019-09/schema"
  | .draft2020 => "https://json-schema.org/draft/2020-12/schema"

/-- The drafts, the oldest first. -/
def drafts : List Draft := [.draft4, .draft6, .draft7, .draft2019, .draft2020]

end AgentManifest.Schema.MetaSchema
