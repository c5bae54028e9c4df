import AgentManifest.Pattern.Property
import AgentManifest.Pattern.Simple
import AgentManifest.Text.Character

/-!
# Escapes of the plain dialect

Patterns come in two dialects. The plain one has neither look-around nor references to groups. Texts
are judged by it and prepared with it: control characters are put in place of their escapes, and the
shorthands are spelled out.
-/

namespace AgentManifest.Pattern

/-- Why a text is no pattern of the plain dialect. -/
inductive Refusal where
  /-- It is malformed. -/
  | invalid
  /-- It looks around itself or refers to a group. -/
  | beyond
  /-- So many characters before its end it has the escape of a control character. -/
  | control (left : Nat)
  deriving DecidableEq, Repr, Inhabited

/-- A shorthand in a text. -/
structure Shorthand where
  /-- The number of characters from its beginning to the end of the text. -/
  left : Nat
  letter : Char

/-- What has been found in a text so far. -/
structure Findings where
  /-- The shorthands, last first. -/
  shorthands : List Shorthand := []
  /-- The names of groups. -/
  names : List (List Char) := []
  /-- Whether the bell stands anywhere but in brackets. -/
  bell : Bool := false
  /-- Whether a property is not known. -/
  unknown : Bool := false

/-- Reading of the plain dialect. -/
abbrev Reading := StateT Findings (Except Refusal)

namespace Reading

/-- The text is malformed. -/
def invalid {α : Type} : Reading α := throw .invalid

/-- The text is left to the wide dialect. -/
def beyond {α : Type} : Reading α := throw .beyond

end Reading

open Reading (invalid beyond)

/-- Skips blanks, and comments up to the end of their line. -/
def skipBlanks : List Char → List Char
  | '#' :: rest => skipComment rest
  | c :: rest => if Text.isBlank c then skipBlanks rest else c :: rest
  | [] => []
where
  skipComment : List Char → List Char
    | '\n' :: rest => skipBlanks rest
    | _ :: rest => skipComment rest
    | [] => []

/-- Skips what may stand between the parts of a pattern, given whether it is spaced. -/
def skip (spaced : Bool) (cs : List Char) : List Char := if spaced then skipBlanks cs else cs

/-- The number that some decimal digits spell. -/
def decimalNumber (digits : List Char) : Nat :=
  digits.foldl (fun n c => 10 * n + (c.toNat - '0'.toNat)) 0

/-- The character with a code. -/
def charOfCode? (n : Nat) : Option Char := if n.isValidChar then some (Char.ofNat n) else none

/-- What an escape stands for. -/
inductive Escaped where
  | char (c : Char)
  | bell
  /-- The characters of a set, or those outside it. -/
  | set (members : CharSet) (negated : Bool)
  | anchor

/-- The set that a shorthand letter in lower case names. -/
def shorthandSet? : Char → Option CharSet
  | 'd' => some (CharSet.ofCategory fun k => k == .nd)
  | 's' => some (.having Text.isBlank 10)
  | 'w' => some (.having Text.isWord 770)
  | _ => none

/-- The set that a shorthand letter is spelled out as: digits, blanks or letters of ASCII, with a
few more blanks. -/
def shorthandText (c : Char) : List Char :=
  let members :=
    match c.toLower with
    | 'd' => "0-9"
    | 's' => " \t\n\r\x0b\x0c\u2003\ufeff\u2029\u00a0"
    | _ => "A-Za-z0-9_"
  if c.isUpper then "[^".toList ++ members.toList ++ [']'] else '[' :: members.toList ++ [']']

/-- Reads hexadecimal digits up to a brace. -/
def readBracedHex (spaced : Bool) (digits : List Char) : List Char → Option (List Char × List Char)
  | [] => none
  | c :: rest =>
    if c = '}' then some (digits.reverse, rest)
    else if Text.isHex c then readBracedHex spaced (c :: digits) rest
    else if spaced ∧ Text.isBlank c then readBracedHex spaced digits rest
    else none

/-- Reads so many hexadecimal digits. -/
def readHexDigits (spaced : Bool) (digits : List Char) :
    Nat → List Char → Option (List Char × List Char)
  | 0, cs => some (digits.reverse, cs)
  | n + 1, cs =>
    match skip spaced cs with
    | c :: rest => if Text.isHex c then readHexDigits spaced (c :: digits) n rest else none
    | [] => none

/-- Reads the code of a character: so many digits, or digits between braces. -/
def readHex (spaced : Bool) (count : Nat) (cs : List Char) : Reading (Escaped × List Char) :=
  let found :=
    match skip spaced cs with
    | '{' :: rest => readBracedHex spaced [] rest
    | cs => readHexDigits spaced [] count cs
  match found with
  | some (digits, rest) =>
    match if digits.isEmpty then none else charOfCode? (Text.hexNumber digits) with
    | some c => pure (.char c, rest)
    | none => invalid
  | none => invalid

/-- Splits a text at the first place where another one begins. -/
def splitAt? (mark : List Char) (cs : List Char) : Option (List Char × List Char) :=
  go [] cs
where
  go (before : List Char) : List Char → Option (List Char × List Char)
    | [] => none
    | c :: rest =>
      if mark.isPrefixOf (c :: rest) then
        some (before.reverse, (c :: rest).drop mark.length)
      else go (c :: before) rest

/-- The set that the text between the braces of a property names, if there is such a property, and
whether the characters outside it are meant. -/
def propertyOf? (body : List Char) : Option CharSet × Bool :=
  match splitAt? ['!', '='] body, splitAt? [':'] body, splitAt? ['='] body with
  | some (name, value), _, _ => (CharSet.propertyValue? name value, true)
  | _, some (name, value), _ => (CharSet.propertyValue? name value, false)
  | _, _, some (name, value) => (CharSet.propertyValue? name value, false)
  | _, _, _ => (CharSet.property? body, false)

/-- Reads the name of a property: one letter, or a text between braces. -/
def readPropertyName (spaced : Bool) (cs : List Char) : Option (List Char × List Char) :=
  match skip spaced cs with
  | '{' :: rest =>
    let body := rest.takeWhile (· != '}')
    match rest.drop body.length with
    | _ :: rest => some (if spaced then body.filter (!Text.isBlank ·) else body, rest)
    | [] => none
  | c :: rest => if c = '\\' then none else some ([c], rest)
  | [] => none

/-- The character of an escape that always stands for the same one. -/
def fixedEscape? : Char → Option Char
  | 'f' => some '\x0c'
  | 't' => some '\t'
  | 'n' => some '\n'
  | 'r' => some '\r'
  | 'v' => some '\x0b'
  | _ => none

/-- The sides of a word that may stand in braces behind the escape of a word boundary. -/
def boundarySides : List String := ["start", "end", "start-half", "end-half"]

/-- Reads what follows the escape of a word boundary: a side of the word between braces, or
nothing. -/
def readBoundary (spaced : Bool) (cs : List Char) : Reading (List Char) :=
  let isSide (c : Char) : Bool := c.isAlpha || c == '-'
  match cs with
  | '{' :: rest =>
    let inner := skip spaced rest
    if inner.isEmpty then invalid
    else if inner.head?.any isSide then
      let body := inner.takeWhile fun c => isSide c || (spaced && Text.isBlank c)
      let side := String.ofList (body.filter isSide)
      match inner.drop body.length with
      | '}' :: rest => if boundarySides.contains side then pure rest else invalid
      | _ => invalid
    else pure cs
  | _ => pure cs

/-- Notes a shorthand. -/
def noteShorthand (left : Nat) (letter : Char) : Reading Unit :=
  modify fun f => { f with shorthands := { left, letter } :: f.shorthands }

/-- Reads an escape, behind its backslash. A property that is not known is noted. -/
def readEscape (spaced : Bool) (cs : List Char) : Reading (Escaped × List Char) :=
  match cs with
  | [] => invalid
  | c :: rest =>
    if c.isDigit then beyond
    else if c = 'x' then readHex spaced 2 rest
    else if c = 'u' then readHex spaced 4 rest
    else if c = 'U' then readHex spaced 8 rest
    else if c = 'p' ∨ c = 'P' then
      match readPropertyName spaced rest with
      | some (body, rest) => do
        let (members, outside) := propertyOf? body
        modify fun f => { f with unknown := f.unknown || members.isNone }
        pure (.set (members.getD CharSet.none) (outside != (c == 'P')), rest)
      | none => invalid
    else if c = 'c' then
      if rest.head?.any Char.isAlpha then throw (.control (cs.length + 1)) else invalid
    else
      match shorthandSet? c.toLower with
      | some members => do
        noteShorthand (cs.length + 1) c
        pure (.set members c.isUpper, rest)
      | none =>
        if c = 'b' then do pure (.anchor, ← readBoundary spaced rest)
        else if c = 'a' then pure (.bell, rest)
        else if ['A', 'z', 'B', '<', '>'].contains c then pure (.anchor, rest)
        else
          match fixedEscape? c with
          | some a => pure (.char a, rest)
          | none => if c.isAlphanum ∨ 0x80 ≤ c.toNat then invalid else pure (.char c, rest)

end AgentManifest.Pattern
