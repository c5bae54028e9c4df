import AgentManifest.Text.Folding
import AgentManifest.Text.Character

/-!
# Sets of characters

What one place of a pattern admits, with the room that the set takes in a compiled pattern.
-/

namespace AgentManifest.Pattern

open Text (Ranges)

/-- A set of characters. -/
structure CharSet where
  /-- Whether a character is in the set. -/
  has : Char → Bool
  /-- The room for its ranges in a compiled pattern, in bytes. It is exact for sets of characters of
  ASCII, and an estimate for others. -/
  room : Nat

namespace CharSet

instance : Inhabited CharSet := ⟨⟨fun _ => false, 0⟩⟩

/-- The room for one range, by its last character: beyond ASCII it takes more steps than one. -/
def rangeRoom (last : Nat) : Nat := if last < 0x80 then 8 else 48

/-- The room for what stands outside some range of ASCII. -/
def outsideRoom : Nat := 480

/-- No character. -/
def none : CharSet := ⟨fun _ => false, 0⟩

/-- The characters with a property, given about how many ranges they make up. -/
def having (p : Char → Bool) (ranges : Nat) : CharSet := ⟨p, 48 * ranges⟩

/-- Every character. -/
def all : CharSet := ⟨fun _ => true, outsideRoom⟩

/-- One character. -/
def single (a : Char) : CharSet := ⟨fun c => c == a, rangeRoom a.toNat⟩

/-- The characters from one to another. -/
def range (first last : Char) : CharSet := ⟨fun c => first ≤ c && c ≤ last, rangeRoom last.toNat⟩

/-- The characters in one of some ranges of code points. -/
def ofRanges (ranges : Ranges) : CharSet :=
  ⟨ranges.has, ranges.foldl (fun room r => room + rangeRoom r.2) 0⟩

/-- The characters of either set. -/
def union (a b : CharSet) : CharSet := ⟨fun c => a.has c || b.has c, a.room + b.room⟩

/-- The characters of both sets. -/
def inter (a b : CharSet) : CharSet := ⟨fun c => a.has c && b.has c, min a.room b.room⟩

/-- The characters of the first set that are not in the second. -/
def diff (a b : CharSet) : CharSet := ⟨fun c => a.has c && !b.has c, a.room⟩

/-- The characters of one set and not of the other. -/
def symmDiff (a b : CharSet) : CharSet := ⟨fun c => a.has c != b.has c, a.room + b.room⟩

/-- The characters outside a set. -/
def complement (a : CharSet) : CharSet := ⟨fun c => !a.has c, a.room + outsideRoom⟩

/-- The characters of which some case is in a set. -/
def caseless (a : CharSet) : CharSet := ⟨fun c => a.has c || (Text.cases c).any a.has, 2 * a.room⟩

/-- A set as it is meant: closed under case if case is ignored, and then negated. -/
def finish (ignoreCase negated : Bool) (a : CharSet) : CharSet :=
  let a := if ignoreCase then a.caseless else a
  if negated then a.complement else a

/-! ## Characters of ASCII -/

/-- Decimal digits of ASCII. -/
def digit : CharSet := range '0' '9'

/-- Letters of ASCII. -/
def letter : CharSet := union (range 'a' 'z') (range 'A' 'Z')

/-- Letters, digits and the underscore of ASCII. -/
def word : CharSet := union (union letter digit) (single '_')

/-- Hexadecimal digits of ASCII. -/
def hexDigit : CharSet := union digit (union (range 'a' 'f') (range 'A' 'F'))

/-- The sets with names between colons. -/
def named? (name : String) : Option CharSet :=
  [("alnum", union letter digit), ("alpha", letter), ("ascii", range '\x00' '\x7f'),
    ("blank", union (single ' ') (single '\t')),
    ("cntrl", union (range '\x00' '\x1f') (single '\x7f')), ("digit", digit),
    ("graph", range '!' '~'), ("lower", range 'a' 'z'), ("print", range ' ' '~'),
    ("punct", ofRanges [(0x21, 0x2f), (0x3a, 0x40), (0x5b, 0x60), (0x7b, 0x7e)]),
    ("space", union (range '\t' '\r') (single ' ')), ("upper", range 'A' 'Z'), ("word", word),
    ("xdigit", hexDigit)].lookup name

end CharSet
end AgentManifest.Pattern
