/-!
# Characters and their places

White space, hexadecimal digits, sets of characters as ranges, and places in a text.
-/

namespace AgentManifest.Text

/-!
## Blank text

The white space of Unicode, and texts made of nothing else.
-/

/-- Whether a character is white space. -/
def isBlank (c : Char) : Bool :=
  let n := c.toNat
  (decide (0x09 ≤ n) && decide (n ≤ 0x0d)) || n == 0x20 || n == 0x85 || n == 0xa0 || n == 0x1680 ||
    (decide (0x2000 ≤ n) && decide (n ≤ 0x200a)) || n == 0x2028 || n == 0x2029 || n == 0x202f ||
    n == 0x205f || n == 0x3000

/-- Whether a text holds nothing but white space. -/
def allBlank (s : List Char) : Bool := s.all isBlank

/-!
## Hexadecimal digits

Numbers in digits to the base sixteen, with letters of either case.
-/

/-- The value of a hexadecimal digit. -/
def hexDigit? (c : Char) : Option Nat :=
  if '0' ≤ c ∧ c ≤ '9' then some (c.toNat - '0'.toNat)
  else if 'a' ≤ c ∧ c ≤ 'f' then some (c.toNat - 'a'.toNat + 10)
  else if 'A' ≤ c ∧ c ≤ 'F' then some (c.toNat - 'A'.toNat + 10)
  else none

/-- Whether a character is a hexadecimal digit. -/
def isHex (c : Char) : Bool := (hexDigit? c).isSome

/-- The number that some hexadecimal digits spell. -/
def hexNumber (digits : List Char) : Nat :=
  digits.foldl (fun n c => 16 * n + (hexDigit? c).getD 0) 0

/-!
## Ranges of characters

Sets of characters as lists of ranges of code points.
-/

/-- Ranges of code points, as first and last, in increasing order. -/
abbrev Ranges := List (Nat × Nat)

namespace Ranges

/-- Whether a code point is in a range. The first range that does not end before it decides. -/
def includes (n : Nat) : Ranges → Bool
  | [] => false
  | (first, last) :: rest => if last < n then includes n rest else decide (first ≤ n)

/-- Whether a character is in a range. -/
def has (ranges : Ranges) (c : Char) : Bool := ranges.includes c.toNat

end Ranges

/-! ## Positions

A place in a text is a line, counted from one, with the number of bytes that stand before it on
that line. Places are found from a number of bytes; a count may end inside a character.
-/

/-- The number of bytes of a text in UTF-8. -/
def byteLength (s : List Char) : Nat := s.foldl (fun n c => n + c.utf8Size) 0

/-- A line with a number of bytes on it. -/
structure Place where
  line : Nat
  column : Nat
  deriving DecidableEq, Repr, Inhabited

/-- The start of a text. -/
def Place.start : Place := { line := 1, column := 0 }

/-- The place reached from `p` after `n` bytes of a text. -/
def Place.advance (p : Place) : List Char → Nat → Place
  | [], _ => p
  | c :: cs, n =>
    if n = 0 then p
    else if c = '\n' then Place.advance { line := p.line + 1, column := 0 } cs (n - 1)
    else if n ≤ c.utf8Size then { p with column := p.column + n }
    else Place.advance { p with column := p.column + c.utf8Size } cs (n - c.utf8Size)

end AgentManifest.Text
