import AgentManifest.Json.Value
import AgentManifest.Decimal.Notation
import AgentManifest.Text.Quoted

/-!
# YAML values

What a document means. Keys may be any values and keep their order; local tags stay visible.
-/

namespace AgentManifest.Yaml

open Decimal (Binary64)

/-- A YAML value. -/
inductive Value where
  | null
  | bool (b : Bool)
  | number (n : Json.Number)
  | string (s : String)
  | sequence (items : List Value)
  | mapping (entries : List (Value × Value))
  | tagged (tag : String) (value : Value)
  deriving Inhabited

/-- Whether two numbers are one key: integers by value, doubles by numeric equality, except that
what is not a number equals itself. -/
def sameNumber : Json.Number → Json.Number → Bool
  | .int m, .int n => m == n
  | .float .nan, .float .nan => true
  | .float x, .float y => x.numEq y
  | _, _ => false

namespace Value

mutual

/-- Whether two values are one key. Mappings are compared without regard to order. -/
def same : Value → Value → Bool
  | .null, .null => true
  | .bool a, .bool b => a == b
  | .number m, .number n => sameNumber m n
  | .string s, .string t => s == t
  | .sequence vs, .sequence ws => sameItems vs ws
  | .mapping es, .mapping fs => es.length == fs.length && sameEntries es fs
  | .tagged t v, .tagged u w => t == u && same v w
  | _, _ => false

/-- Whether two lists hold the same items in order. -/
def sameItems : List Value → List Value → Bool
  | [], [] => true
  | v :: vs, w :: ws => same v w && sameItems vs ws
  | _, _ => false

/-- Whether each of some entries has its like among others. -/
def sameEntries : List (Value × Value) → List (Value × Value) → Bool
  | [], _ => true
  | (k, v) :: es, fs => fs.any (fun f => same k f.1 && same v f.2) && sameEntries es fs

end

/-- A number in YAML text. -/
def numberText : Json.Number → List Char
  | .int n => Decimal.intText n
  | .float x => x.write .yaml

/-- Puts separators between texts. -/
def commaSeparated (parts : List (List Char)) : List Char := [',', ' '].intercalate parts

mutual

/-- A value as it is shown in messages. -/
def shown : Value → List Char
  | .null => "Null".toList
  | .bool b => "Bool(".toList ++ (if b then "true" else "false").toList ++ [')']
  | .number n => "Number(".toList ++ numberText n ++ [')']
  | .string s => "String(".toList ++ (Text.quoted s).toList ++ [')']
  | .sequence vs => "Sequence [".toList ++ commaSeparated (shownItems vs) ++ [']']
  | .mapping es => "Mapping ".toList ++ '{' :: (commaSeparated (shownEntries es) ++ ['}'])
  | .tagged t v =>
    "TaggedValue ".toList ++ '{' :: (" tag: !".toList ++ t.toList ++ ", value: ".toList ++
      shown v ++ [' ', '}'])

/-- The items of a sequence as they are shown. -/
def shownItems : List Value → List (List Char)
  | [] => []
  | v :: vs => shown v :: shownItems vs

/-- The entries of a mapping as they are shown; scalar keys stand bare. -/
def shownEntries : List (Value × Value) → List (List Char)
  | [] => []
  | (k, v) :: es =>
    ((match k with
      | .bool b => (if b then "true" else "false").toList
      | .number n => numberText n
      | .string s => (Text.quoted s).toList
      | k => shown k) ++ [':', ' '] ++ shown v) :: shownEntries es

end

/-- The words that name a key that occurs twice. -/
def namedAsKey : Value → String
  | .null => "with null key"
  | .bool b => "with key `" ++ (if b then "true" else "false") ++ "`"
  | .number n => "with key " ++ String.ofList (numberText n)
  | .string s => "with key " ++ Text.quoted s
  | _ => "in YAML map"

mutual

/-- How many sequences and mappings lie on the longest way down. -/
def nesting : Value → Nat
  | .sequence items => nestingItems items + 1
  | .mapping entries => nestingEntries entries + 1
  | .tagged _ v => nesting v
  | _ => 0

/-- The deepest nesting among items. -/
def nestingItems : List Value → Nat
  | [] => 0
  | v :: vs => max (nesting v) (nestingItems vs)

/-- The deepest nesting among keys and values. -/
def nestingEntries : List (Value × Value) → Nat
  | [] => 0
  | (k, v) :: es => max (max (nesting k) (nesting v)) (nestingEntries es)

end

end Value

/-! ## Values as JSON

Scalar keys become strings and tags are dropped; everything else must have a JSON form.
-/

/-- Why a YAML value has no JSON form. -/
inductive NoJson where
  | notFinite (x : Binary64)
  | key (v : Value)
  deriving Inhabited

/-- The wording of a failure. -/
def NoJson.message : NoJson → String
  | .notFinite x => "number " ++ x.text .plain ++ " has no JSON representation"
  | .key v => "unsupported map key: " ++ String.ofList v.shown

namespace Value

/-- The name that a scalar key becomes. -/
def keyName? : Value → Option String
  | .string s => some s
  | .number n => some (String.ofList (numberText n))
  | .bool b => some (if b then "true" else "false")
  | _ => none

mutual

/-- The JSON form of a value. -/
def toJson : Value → Except NoJson Json.Value
  | .null => .ok .null
  | .bool b => .ok (.bool b)
  | .number (.int n) => .ok (.number (.int n))
  | .number (.float x) =>
    if x.isFinite then .ok (.number (.float x)) else .error (.notFinite x)
  | .string s => .ok (.string s)
  | .sequence vs =>
    match toJsonItems vs with
    | .ok items => .ok (.array items)
    | .error e => .error e
  | .mapping es => toJsonEntries [] es
  | .tagged _ v => toJson v

/-- The JSON forms of items. -/
def toJsonItems : List Value → Except NoJson (List Json.Value)
  | [] => .ok []
  | v :: vs =>
    match toJson v with
    | .error e => .error e
    | .ok w =>
      match toJsonItems vs with
      | .ok ws => .ok (w :: ws)
      | .error e => .error e

/-- The members so far with those of further entries; a later entry replaces an earlier one of the
same name. -/
def toJsonEntries : Json.Members → List (Value × Value) → Except NoJson Json.Value
  | ms, [] => .ok (.object ms)
  | ms, (k, v) :: es =>
    match keyName? k with
    | none => .error (.key k)
    | some name =>
      match toJson v with
      | .error e => .error e
      | .ok w => toJsonEntries (Json.Members.insert ms name w) es

end

end Value

end AgentManifest.Yaml
