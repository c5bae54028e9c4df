import AgentManifest.Decimal.Binary64
import AgentManifest.Json.Pointer
import AgentManifest.Pattern.Matcher
import AgentManifest.Schema.Draft
import AgentManifest.Schema.Format

/-!
# Schemas

A schema in evaluable form: every value, none, or those that satisfy a list of keywords. Keywords
stand in the order of their names. What a reference leads to is named, not contained, so that
schemas may refer to themselves.
-/

namespace AgentManifest.Schema

open Decimal (Binary64)
open Json (Value Members Segment Location Number)

/-- A simple type of values. -/
inductive Kind where
  | array
  | boolean
  | integer
  | null
  | number
  | object
  | string
  deriving DecidableEq, Repr, Inhabited

namespace Kind

/-- All types, in the order of their names. -/
def all : List Kind := [array, boolean, integer, null, number, object, string]

/-- The name of a type. -/
def name : Kind → String
  | array => "array"
  | boolean => "boolean"
  | integer => "integer"
  | null => "null"
  | number => "number"
  | object => "object"
  | string => "string"

/-- The type with a name. -/
def ofName? (s : String) : Option Kind := all.find? fun k => k.name == s

end Kind

/-- What a count keyword counts. -/
inductive Measure where
  | characters
  | items
  | properties
  deriving DecidableEq, Repr, Inhabited

/-- How a number relates to a limit. -/
inductive Comparison where
  | atLeast
  | atMost
  | above
  | below
  deriving DecidableEq, Repr, Inhabited

/-- A condition on a value that involves no further schema. -/
inductive Assertion where
  /-- One of some types. A strict reading takes no double for an integer. -/
  | type (kinds : List Kind) (strict : Bool)
  | const (v : Value)
  | enum (options : List Value)
  /-- Not fewer or not more than so many. -/
  | count (m : Measure) (atLeast : Bool) (limit : Nat)
  | bound (c : Comparison) (limit : Number)
  | multipleOf (divisor : Binary64)
  | pattern (text : String) (matcher : Pattern.Matcher)
  | format (f : Format)
  | uniqueItems
  /-- No value at all. -/
  | unsatisfiable
  /-- An object has no members. -/
  | noMembers
  /-- An array has no items beyond the given number. -/
  | noItemsBeyond (count : Nat)
  /-- A text in the notation of this library's values. -/
  | jsonText
  /-- A text in base 64, and whether it holds a value in turn. -/
  | base64 (ofJson : Bool)

/-- How many items of an array are to satisfy a schema. -/
structure ContainsRule where
  least : Option Nat
  most : Option Nat
  deriving DecidableEq, Repr, Inhabited

/-- A pattern of names, with its text. -/
structure NamePattern where
  text : String
  matcher : Pattern.Matcher

/-- Which part of a value a keyword about the rest is about. -/
inductive Focus where
  | members
  | items
  deriving DecidableEq, Repr, Inhabited

/-- When the branches of a combination count: all of them hold, or some, or one. -/
inductive BranchRule where
  | all
  | some
  | one
  deriving DecidableEq, Repr, Inhabited

/-- A place that a reference can lead to, and how it is read there: a resource, a name in it, a way
down from there, the identifier that references in it start from, the resources passed on the way
to it, the draft it is read in, and the vocabularies in force. -/
structure Target where
  resource : String
  anchor : Option String
  place : Location
  base : String
  scopes : List String
  draft : Draft
  vocabularies : List Vocabulary
  deriving DecidableEq, Repr, Inhabited

mutual

/-- A schema. -/
inductive Form where
  | always
  | never
  | all (keywords : List Keyword)

/-- A keyword of a schema. -/
inductive Keyword where
  /-- A condition, with the place that is reported when it fails. -/
  | test (place : Location) (a : Assertion)
  | required (place : Location) (names : List String)
  /-- Schemas for the members with some names. -/
  | properties (members : List (String × Form))
  /-- Schemas for the members whose names match some patterns. -/
  | patternProperties (members : List (NamePattern × Form))
  /-- Schemas for named and matching members, and no others. -/
  | closed (named : List (String × Form)) (matching : List (NamePattern × Form))
  /-- Schemas for named and matching members, and one for all others. -/
  | additional (named : List (String × Form)) (matching : List (NamePattern × Form))
      (other : Form)
  | propertyNames (s : Form)
  /-- A schema for the items from an index on. -/
  | itemsFrom (keyword : String) (skip : Nat) (s : Form)
  /-- Schemas for the first items, one each. -/
  | tuple (keyword : String) (schemas : List Form)
  /-- A schema for some of the items. -/
  | contains (rule : ContainsRule) (s : Form)
  | allOf (schemas : List Form)
  | anyOf (schemas : List Form)
  | oneOf (schemas : List Form)
  /-- Not the schema, which is also given as it was written. -/
  | not (written : Value) (s : Form)
  | conditional (condition consequence alternative : Form)
  /-- A schema for objects that have a member. -/
  | dependent (keyword : String) (place : Location) (trigger : String) (s : Form)
  /-- The schema that a reference leads to. -/
  | nested (keyword : String) (s : Form)
  /-- A reference to a schema that is read on its own. -/
  | reference (keyword : String) (target : Target)
  /-- A schema for the members that are not looked at. -/
  | unevaluatedProperties (seen : Coverage) (s : Form)
  /-- A schema for the items that are not looked at. -/
  | unevaluatedItems (seen : Coverage) (s : Form)

/-- What is looked at among the members or items of a value. -/
inductive Coverage where
  | join (parts : List Coverage)
  | everything
  | first (count : Nat)
  /-- The members with some names whose values satisfy the schemas for them. -/
  | named (members : List (String × Form))
  /-- The members whose names match one of some patterns. -/
  | matching (patterns : List Pattern.Matcher)
  /-- All that satisfies a schema. -/
  | satisfying (s : Form)
  /-- What is looked at in objects that have a member. -/
  | whenPresent (trigger : String) (inner : Coverage)
  | conditional (condition : Form) (met otherwise : Coverage)
  /-- All that some branches look at, if as many of them hold as should. -/
  | branches (rule : BranchRule) (alternatives : List (Form × Coverage))
  /-- What a schema looks at that is read on its own. -/
  | reference (focus : Focus) (target : Target)

end

instance : Inhabited Form := ⟨.always⟩

instance : Inhabited Coverage := ⟨.join []⟩

end AgentManifest.Schema
