import AgentManifest.Json.Pointer

/-!
# Drafts

A schema is written in one of five drafts of the language, which differ in their keywords. A draft
says which keywords hold further schemas, and how a schema is given a name.
-/

namespace AgentManifest.Schema

open Json (Value Members Segment Location)

/-- A vocabulary: a group of keywords that is in force or not. -/
inductive Vocabulary where
  | applicator
  | unevaluated
  | validation
  deriving DecidableEq, Repr, Inhabited

/-- The vocabularies by identifier. -/
def Vocabulary.identifiers : List (String × Vocabulary) :=
  [("https://json-schema.org/draft/2020-12/vocab/applicator", applicator),
    ("https://json-schema.org/draft/2020-12/vocab/unevaluated", unevaluated),
    ("https://json-schema.org/draft/2020-12/vocab/validation", validation),
    ("https://json-schema.org/draft/2019-09/vocab/applicator", applicator),
    ("https://json-schema.org/draft/2019-09/vocab/validation", validation)]

/-- A draft of the schema language. -/
inductive Draft where
  | draft4
  | draft6
  | draft7
  | draft2019
  | draft2020
  deriving DecidableEq, Repr, Inhabited

namespace Draft

/-- The place of a draft in time. -/
def rank : Draft → Nat
  | draft4 => 4
  | draft6 => 6
  | draft7 => 7
  | draft2019 => 8
  | draft2020 => 9

/-- Whether a draft is at least as new as another. -/
def since (d first : Draft) : Bool := decide (first.rank ≤ d.rank)

/-- The drafts by the identifiers of their own schemas. -/
def identifiers : List (String × Draft) :=
  [("https://json-schema.org/draft/2020-12/schema", draft2020),
    ("https://json-schema.org/draft/2019-09/schema", draft2019),
    ("http://json-schema.org/draft-07/schema", draft7),
    ("http://json-schema.org/draft-06/schema", draft6),
    ("http://json-schema.org/draft-04/schema", draft4)]

/-- A text without number signs at its end. -/
def trimNumberSigns (s : String) : String :=
  String.ofList (s.toList.reverse.dropWhile (· == '#')).reverse

/-- The draft that an identifier names. -/
def ofIdentifier? (s : String) : Option Draft := identifiers.lookup (trimNumberSigns s)

/-- The vocabularies of a draft. The first drafts have none. -/
def vocabularies : Draft → List Vocabulary
  | draft4 | draft6 | draft7 => []
  | draft2019 => [.applicator, .validation]
  | draft2020 => [.applicator, .unevaluated, .validation]

/-! ## Keywords that hold schemas -/

/-- The keywords whose value is a schema. -/
def schemaKeywords (d : Draft) : List String :=
  ["additionalProperties", "not", if d = draft2020 then "items" else "additionalItems"] ++
    (if d.since draft6 then ["contains", "propertyNames"] else []) ++
    (if d.since draft7 then ["if", "then", "else"] else []) ++
    if d.since draft2019 then ["contentSchema", "unevaluatedItems", "unevaluatedProperties"] else []

/-- The keywords whose value is a list of schemas. -/
def listKeywords (d : Draft) : List String :=
  ["allOf", "anyOf", "oneOf"] ++ if d = draft2020 then ["prefixItems"] else []

/-- The keywords whose value is an object of schemas. -/
def mapKeywords (d : Draft) : List String :=
  ["definitions", "patternProperties", "properties"] ++
    if d.since draft2019 then ["$defs", "dependentSchemas"] else []

/-- The schemas that a member of a schema holds, each with the way to it. -/
def subschemasOf (d : Draft) (keyword : String) (v : Value) : List (Location × Value) :=
  let indexed (vs : List Value) : List (Location × Value) :=
    vs.mapIdx fun i v => ([.key keyword, .index i], v)
  let named (ms : Members) : List (Location × Value) :=
    ms.map fun m => ([.key keyword, .key m.1], m.2)
  if d.schemaKeywords.contains keyword then [([.key keyword], v)]
  else
    match v with
    | .array vs =>
      if d.listKeywords.contains keyword ∨ (keyword = "items" ∧ d ≠ draft2020) then indexed vs
      else []
    | .object ms =>
      if d.mapKeywords.contains keyword then named ms
      else if keyword = "items" then [([.key keyword], v)]
      else if keyword = "dependencies" ∧ d ≠ draft2019 ∧ d ≠ draft2020 then
        (named ms).filter fun m => match m.2 with
          | .object _ => true
          | _ => false
      else []
    | _ => []

/-- The schemas right below a schema, each with the way to it. -/
def subschemas (d : Draft) : Value → List (Location × Value)
  | .object ms => ms.flatMap fun m => d.subschemasOf m.1 m.2
  | _ => []

/-- Whether all that lies below a keyword counts as schemas. -/
def holdsAnything (d : Draft) (keyword : String) : Bool :=
  (keyword == "items" && d != draft2020) || (keyword == "dependencies" && !d.since draft2019)

/-- Whether a way leads only through keywords that hold schemas. -/
def leadsToSchema (d : Draft) : Location → Bool
  | [] => true
  | .index _ :: rest => leadsToSchema d rest
  | .key k :: rest =>
    if d.holdsAnything k then true
    else if d.schemaKeywords.contains k then leadsToSchema d rest
    else if d.listKeywords.contains k ∨ d.mapKeywords.contains k then
      match rest with
      | _ :: rest => leadsToSchema d rest
      | [] => false
    else false

/-! ## Names of schemas -/

/-- The keyword that gives a schema an identifier. -/
def idKeyword (d : Draft) : String := if d = draft4 then "id" else "$id"

/-- The identifier of a schema. Up to draft 7 a reference hides it, and one that starts with a
number sign is an anchor instead. -/
def identifier? (d : Draft) (v : Value) : Option String :=
  match (v.get? d.idKeyword).bind Value.string? with
  | none => none
  | some id =>
    if d.since draft2019 then some (trimNumberSigns id)
    else if (v.get? "$ref").isSome ∨ id.toList.head? = some '#' then none
    else some (trimNumberSigns id)

/-- A name inside a resource. -/
structure Anchor where
  name : String
  /-- Whether the outermost resource with the name decides what it means. -/
  dynamic : Bool
  deriving DecidableEq, Repr, Inhabited

/-- The names that a schema gives itself inside its resource. -/
def anchors (d : Draft) (v : Value) : List Anchor :=
  let named (keyword : String) (dynamic : Bool) : List Anchor :=
    match (v.get? keyword).bind Value.string? with
    | some name => [{ name, dynamic }]
    | none => []
  match d with
  | draft2020 => named "$anchor" false ++ named "$dynamicAnchor" true
  | draft2019 => named "$anchor" false
  | _ =>
    match (v.get? d.idKeyword).bind Value.string? with
    | some id =>
      match id.toList with
      | '#' :: name => [{ name := String.ofList name, dynamic := false }]
      | _ => []
    | none => []

end Draft
end AgentManifest.Schema
