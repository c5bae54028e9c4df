import AgentManifest.Decimal.Notation
import AgentManifest.Text.Quoted

/-!
# Mismatches

How a value that was read can fail to be of the shape asked for, and the wording of each failure.
-/

namespace AgentManifest.Decode

/-- What stands in the text, as far as a message shows it. -/
inductive Found where
  | null
  | unit
  | bool (b : Bool)
  | integer (n : Int)
  /-- An integer that no 64-bit type holds. -/
  | wide (n : Int)
  /-- A fraction in its written form. -/
  | float (text : String)
  | text (s : String)
  | sequence
  | map
  deriving DecidableEq, Repr, Inhabited

/-- The wording of what was found. -/
def Found.describe : Found → String
  | .null => "null"
  | .unit => "unit value"
  | .bool b => "boolean `" ++ (if b then "true" else "false") ++ "`"
  | .integer n => "integer `" ++ String.ofList (Decimal.intText n) ++ "`"
  | .wide n =>
    "integer `" ++ String.ofList (Decimal.intText n) ++ "` as " ++
      (if n < 0 then "i128" else "u128")
  | .float t => "floating point `" ++ t ++ "`"
  | .text s => "string " ++ Text.quoted s
  | .sequence => "sequence"
  | .map => "map"

/-- How a value misses the shape asked for. -/
inductive Mismatch where
  | invalidType (found : Found) (expected : String)
  | invalidValue (found : Found) (expected : String)
  | invalidLength (length : Nat) (expected : String)
  | unknownVariant (name : String) (expected : List String)
  | unknownField (name : String) (expected : List String)
  | missingField (name : String)
  | duplicateField (name : String)
  deriving DecidableEq, Repr, Inhabited

/-- A name between backquotes. -/
def ticked (name : String) : String := "`" ++ name ++ "`"

/-- The names that would have been right. -/
def oneOf : List String → String
  | [] => "nothing"
  | [a] => ticked a
  | [a, b] => ticked a ++ " or " ++ ticked b
  | names => "one of " ++ ", ".intercalate (names.map ticked)

/-- The wording of a mismatch. -/
def Mismatch.describe : Mismatch → String
  | .invalidType found expected => "invalid type: " ++ found.describe ++ ", expected " ++ expected
  | .invalidValue found expected => "invalid value: " ++ found.describe ++ ", expected " ++ expected
  | .invalidLength n expected =>
    "invalid length " ++ String.ofList (Decimal.natText n) ++ ", expected " ++ expected
  | .unknownVariant name expected =>
    "unknown variant " ++ ticked name ++ ", expected " ++ oneOf expected
  | .unknownField name expected =>
    "unknown field " ++ ticked name ++ ", expected " ++ oneOf expected
  | .missingField name => "missing field " ++ ticked name
  | .duplicateField name => "duplicate field " ++ ticked name

end AgentManifest.Decode
