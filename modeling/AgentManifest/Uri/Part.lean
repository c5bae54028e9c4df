import AgentManifest.Text.Character
import AgentManifest.Text.Utf8

/-!
# Parts of references

The characters that a resource identifier is made of. Each of its parts has a class of characters
of its own; all others are written as escaped octets.
-/

namespace AgentManifest.Uri

/-- Why a text is no reference. -/
inductive Problem where
  | badOctet
  | badCharacter
  | badAddress
  deriving DecidableEq, Repr, Inhabited

/-- A problem with the byte at which it lies. -/
structure Fault where
  problem : Problem
  index : Nat
  deriving DecidableEq, Repr, Inhabited

/-- The wording of a fault. -/
def Fault.message (f : Fault) : String :=
  (match f.problem with
    | .badOctet => "invalid percent-encoded octet at index "
    | .badCharacter => "unexpected character at index "
    | .badAddress => "invalid IPv6 address at index ") ++ toString f.index

/-! ## Character classes -/

/-- The characters that never need an escape. -/
def isUnreserved (c : Char) : Bool :=
  c.isAlphanum || c == '-' || c == '.' || c == '_' || c == '~'

/-- The characters that may have a meaning inside a part. -/
def isSubDelimiter (c : Char) : Bool := "!$&'()*+,;=".toList.contains c

/-- The characters beyond ASCII that an internationalised reference may have. -/
def isInternational (c : Char) : Bool :=
  let n := c.toNat
  (decide (0xA0 ≤ n) && decide (n ≤ 0xD7FF)) || (decide (0xF900 ≤ n) && decide (n ≤ 0xFDCF)) ||
    (decide (0xFDF0 ≤ n) && decide (n ≤ 0xFFEF)) ||
    (decide (0x10000 ≤ n) && decide (n % 0x10000 ≤ 0xFFFD) && decide (n < 0xE0000)) ||
    (decide (0xE1000 ≤ n) && decide (n ≤ 0xEFFFD))

/-- The private characters, which may stand in the query of an internationalised reference. -/
def isPrivate (c : Char) : Bool :=
  let n := c.toNat
  (decide (0xE000 ≤ n) && decide (n ≤ 0xF8FF)) || (decide (0xF0000 ≤ n) && decide (n ≤ 0xFFFFD)) ||
    (decide (0x100000 ≤ n) && decide (n ≤ 0x10FFFD))

/-- The characters of a scheme. -/
def isSchemeChar (c : Char) : Bool := c.isAlphanum || c == '+' || c == '-' || c == '.'

/-- The characters of a registered name. -/
def isNameChar (wide : Bool) (c : Char) : Bool :=
  isUnreserved c || isSubDelimiter c || (wide && isInternational c)

/-- The characters of a path segment. -/
def isSegmentChar (wide : Bool) (c : Char) : Bool := isNameChar wide c || c == ':' || c == '@'

/-- The characters of a path. -/
def isPathChar (wide : Bool) (c : Char) : Bool := isSegmentChar wide c || c == '/'

/-- The characters of a fragment. -/
def isFragmentChar (wide : Bool) (c : Char) : Bool := isPathChar wide c || c == '?'

/-- The characters of a query. -/
def isQueryChar (wide : Bool) (c : Char) : Bool := isFragmentChar wide c || (wide && isPrivate c)

/-! ## Reading -/

/-- The text that is left, and how many bytes were read. -/
structure Cursor where
  rest : List Char
  index : Nat

/-- The cursor behind some characters. -/
def Cursor.behind (c : Cursor) (taken : List Char) : Cursor :=
  { rest := c.rest.drop taken.length, index := c.index + (Text.encode taken).length }

/-- Steps over a given text if it is next. -/
def Cursor.over? (c : Cursor) (text : List Char) : Option Cursor :=
  if text.isPrefixOf c.rest then some (c.behind text) else none

/-- The characters of a part, with escaped octets among them; `none` at a bad octet. -/
def takePart (allowed : Char → Bool) : List Char → List Char × Bool
  | '%' :: a :: b :: rest =>
    if Text.isHex a && Text.isHex b then
      let (part, bad) := takePart allowed rest
      ('%' :: a :: b :: part, bad)
    else ([], true)
  | '%' :: _ => ([], true)
  | c :: rest =>
    if allowed c then
      let (part, bad) := takePart allowed rest
      (c :: part, bad)
    else ([], false)
  | [] => ([], false)

/-- Reads a part. -/
def readPart (allowed : Char → Bool) (c : Cursor) : Except Fault (List Char × Cursor) :=
  let (part, bad) := takePart allowed c.rest
  let c := c.behind part
  if bad then .error { problem := .badOctet, index := c.index } else .ok (part, c)

/-- A fault for a character that may not stand at the cursor. -/
def unexpected {α : Type} (c : Cursor) : Except Fault α :=
  .error { problem := .badCharacter, index := c.index }

end AgentManifest.Uri
