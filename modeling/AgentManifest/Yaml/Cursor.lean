import AgentManifest.Text.Character

/-!
# Cursors

A cursor is the text that is left to read, with the mark at which it starts. Lines end at any of
five characters, and a carriage return with the line feed behind it is one break.
-/

namespace AgentManifest.Yaml

/-- A place in the text, all counts from zero. -/
structure Mark where
  /-- The bytes in front of it. -/
  index : Nat
  line : Nat
  column : Nat
  deriving DecidableEq, Repr, Inhabited

/-- The start of a text. -/
def Mark.start : Mark := { index := 0, line := 0, column := 0 }

/-- Whether a mark lies at the start of a text. -/
def Mark.isStart (m : Mark) : Bool := m.line == 0 && m.column == 0

/-- Whether two marks are on the same line and column. -/
def Mark.samePlace (m n : Mark) : Bool := m.line == n.line && m.column == n.column

/-- A space or a tab. -/
def isBlank (c : Char) : Bool := c == ' ' || c == '\t'

/-- A character that ends a line. -/
def isBreak (c : Char) : Bool :=
  c == '\n' || c == '\r' || c == '\u0085' || c == '\u2028' || c == '\u2029'

/-- A letter or digit of ASCII, an underscore or a hyphen. -/
def isWordChar (c : Char) : Bool := c.isAlphanum || c == '_' || c == '-'

/-- The text that is left, and the mark at which it starts. -/
structure Cursor where
  rest : List Char
  mark : Mark
  deriving Repr, Inhabited

namespace Cursor

/-- The next character. -/
def head? (c : Cursor) : Option Char := c.rest.head?

/-- The character `n` places ahead. -/
def ahead? (c : Cursor) (n : Nat) : Option Char := c.rest[n]?

/-- Whether `p` holds of the character `n` places ahead. -/
def check (c : Cursor) (n : Nat) (p : Char → Bool) : Bool := (c.ahead? n).any p

/-- Whether a given character stands `n` places ahead. -/
def isAt (c : Cursor) (n : Nat) (ch : Char) : Bool := c.ahead? n == some ch

/-- Whether the text, or a word of it, ends `n` places ahead. -/
def gapAt (c : Cursor) (n : Nat) : Bool := (c.ahead? n).all fun ch => isBlank ch || isBreak ch

/-- Whether the line ends here. -/
def lineEnds (c : Cursor) : Bool := c.head?.all isBreak

/-- Steps over `n` characters of a line, or to the end of the text. -/
def skip (c : Cursor) (n : Nat := 1) : Cursor :=
  { rest := c.rest.drop n,
    mark :=
      { c.mark with
        index := c.mark.index + Text.byteLength (c.rest.take n), column := c.mark.column + n } }

/-- Steps over the characters that satisfy `p`, none of which ends a line. -/
def skipWhile (c : Cursor) (p : Char → Bool) : Cursor := c.skip (c.rest.takeWhile p).length

/-- Steps to the end of the line if a comment starts here. -/
def skipComment (c : Cursor) : Cursor :=
  if c.isAt 0 '#' then c.skipWhile fun ch => !isBreak ch else c

/-- The mark after a line break of `n` bytes. -/
def nextLine (m : Mark) (n : Nat) : Mark :=
  { index := m.index + n, line := m.line + 1, column := 0 }

/-- Reads a line break, as the character that it stands for in a scalar. -/
def readBreak? (c : Cursor) : Option (Char × Cursor) :=
  match c.rest with
  | '\r' :: '\n' :: rest => some ('\n', { rest, mark := nextLine c.mark 2 })
  | '\u2028' :: rest => some ('\u2028', { rest, mark := nextLine c.mark 3 })
  | '\u2029' :: rest => some ('\u2029', { rest, mark := nextLine c.mark 3 })
  | ch :: rest =>
    if isBreak ch then some ('\n', { rest, mark := nextLine c.mark ch.utf8Size }) else none
  | [] => none

/-- Steps over a line break if there is one. -/
def skipBreak (c : Cursor) : Cursor :=
  match c.readBreak? with
  | some (_, c) => c
  | none => c

/-- Whether a line starts here that marks the start or the end of a document. -/
def atDocumentMarker (c : Cursor) : Bool :=
  c.mark.column == 0 &&
    (c.isAt 0 '-' && c.isAt 1 '-' && c.isAt 2 '-' ||
      c.isAt 0 '.' && c.isAt 1 '.' && c.isAt 2 '.') &&
    c.gapAt 3

end Cursor
end AgentManifest.Yaml
