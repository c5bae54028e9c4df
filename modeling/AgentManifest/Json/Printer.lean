import AgentManifest.Json.Value
import AgentManifest.Decimal.Notation

/-!
# Writing JSON

The compact form has no blanks; the indented form puts every item on a line of its own, two
spaces deeper than its container. Members are written in the order in which they stand.
-/

namespace AgentManifest.Json

open Decimal (Binary64)

/-- A hexadecimal digit in lower case. -/
def hexDigit (n : Nat) : Char :=
  if n < 10 then Char.ofNat ('0'.toNat + n) else Char.ofNat ('a'.toNat + (n - 10))

/-- The written form of one character of a string. -/
def escape (c : Char) : List Char :=
  if c = '"' then ['\\', '"']
  else if c = '\\' then ['\\', '\\']
  else if c = '\x08' then ['\\', 'b']
  else if c = '\t' then ['\\', 't']
  else if c = '\n' then ['\\', 'n']
  else if c = '\x0c' then ['\\', 'f']
  else if c = '\r' then ['\\', 'r']
  else if c.toNat < 0x20 then
    ['\\', 'u', '0', '0', hexDigit (c.toNat / 16), hexDigit (c.toNat % 16)]
  else [c]

/-- A string between quotes. -/
def quote (s : String) : List Char := '"' :: (s.toList.flatMap escape ++ ['"'])

/-- A number: an integer in decimal, a double by its shortest digits. -/
def Number.write : Number → List Char
  | .int n => Decimal.intText n
  | .float x => x.write .json

namespace Value

mutual

/-- The compact form. -/
def write : Value → List Char
  | .null => "null".toList
  | .bool b => if b then "true".toList else "false".toList
  | .number n => n.write
  | .string s => quote s
  | .array [] => ['[', ']']
  | .array (v :: vs) => '[' :: (write v ++ writeItems vs)
  | .object [] => ['{', '}']
  | .object ((k, v) :: ms) => '{' :: (quote k ++ ':' :: (write v ++ writeMembers ms))

/-- The items after the first, and the closing bracket. -/
def writeItems : List Value → List Char
  | [] => [']']
  | v :: vs => ',' :: (write v ++ writeItems vs)

/-- The members after the first, and the closing brace. -/
def writeMembers : List (String × Value) → List Char
  | [] => ['}']
  | (k, v) :: ms => ',' :: (quote k ++ ':' :: (write v ++ writeMembers ms))

end

/-- A new line indented to a depth. -/
def newline (depth : Nat) : List Char := '\n' :: List.replicate (2 * depth) ' '

mutual

/-- The indented form of a value that stands at a depth. -/
def writeIndented (depth : Nat) : Value → List Char
  | .array [] => ['[', ']']
  | .array (v :: vs) =>
    '[' :: (newline (depth + 1) ++ (writeIndented (depth + 1) v ++ writeIndentedItems depth vs))
  | .object [] => ['{', '}']
  | .object ((k, v) :: ms) =>
    '{' :: (newline (depth + 1) ++ (quote k ++ ':' :: ' ' ::
      (writeIndented (depth + 1) v ++ writeIndentedMembers depth ms)))
  | v => write v

/-- The items after the first and the closing bracket, in indented form. -/
def writeIndentedItems (depth : Nat) : List Value → List Char
  | [] => newline depth ++ [']']
  | v :: vs =>
    ',' :: (newline (depth + 1) ++ (writeIndented (depth + 1) v ++ writeIndentedItems depth vs))

/-- The members after the first and the closing brace, in indented form. -/
def writeIndentedMembers (depth : Nat) : List (String × Value) → List Char
  | [] => newline depth ++ ['}']
  | (k, v) :: ms =>
    ',' :: (newline (depth + 1) ++ (quote k ++ ':' :: ' ' ::
      (writeIndented (depth + 1) v ++ writeIndentedMembers depth ms)))

end

/-- The compact text. -/
def compact (v : Value) : String := String.ofList v.write

/-- The indented text. -/
def pretty (v : Value) : String := String.ofList (writeIndented 0 v)

end Value
end AgentManifest.Json
