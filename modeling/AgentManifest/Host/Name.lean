import AgentManifest.Text.Property.Mark
import AgentManifest.Text.Character
import AgentManifest.Host.Direction
import AgentManifest.Host.Mapping
import AgentManifest.Host.Punycode
import AgentManifest.Uri.Address

/-!
# Host names

A host name is made of parts with points between them. Its parts are made of letters, digits and
hyphens, or of characters of any script, which then have a form in ASCII as well.
-/

namespace AgentManifest.Host

open Text (Ranges)
open Uri (splitOnChar)

/-! ## Joined letters

Letters of some scripts are joined to their neighbours, and two characters without a shape keep them
apart or join them. A host name may have them only where they make a difference.
-/

/-- Letters joined to both neighbours. -/
def joinedBothWays : Ranges := [
  (0x620, 0x620), (0x626, 0x626), (0x628, 0x628), (0x62a, 0x62e), (0x633, 0x63f), (0x641, 0x647),
  (0x649, 0x64a), (0x66e, 0x66f), (0x679, 0x687), (0x69a, 0x6bf), (0x6c1, 0x6c2), (0x6cc, 0x6cc),
  (0x6ce, 0x6ce), (0x6d0, 0x6d1), (0x6fa, 0x6fc), (0x6ff, 0x6ff), (0x712, 0x714), (0x71a, 0x71d),
  (0x71f, 0x727), (0x729, 0x729), (0x72b, 0x72b), (0x72d, 0x72e), (0x74e, 0x758), (0x75c, 0x76a),
  (0x76d, 0x770), (0x772, 0x772), (0x775, 0x777), (0x77a, 0x77f), (0x7ca, 0x7ea), (0x841, 0x845),
  (0x848, 0x848), (0x84a, 0x853), (0x855, 0x855), (0x860, 0x860), (0x862, 0x865), (0x868, 0x868),
  (0x886, 0x886), (0x889, 0x88d), (0x8a0, 0x8a9), (0x8af, 0x8b0), (0x8b3, 0x8b8), (0x8ba, 0x8c8),
  (0x1807, 0x1807), (0x1820, 0x1878), (0x1887, 0x18a8), (0x18aa, 0x18aa), (0xa840, 0xa871),
  (0x10ac0, 0x10ac4), (0x10ad3, 0x10ad6), (0x10ad8, 0x10adc), (0x10ade, 0x10ae0),
  (0x10aeb, 0x10aee), (0x10b80, 0x10b80), (0x10b82, 0x10b82), (0x10b86, 0x10b88),
  (0x10b8a, 0x10b8b), (0x10b8d, 0x10b8d), (0x10b90, 0x10b90), (0x10bad, 0x10bae),
  (0x10d01, 0x10d21), (0x10d23, 0x10d23), (0x10ec3, 0x10ec4), (0x10f30, 0x10f32),
  (0x10f34, 0x10f44), (0x10f51, 0x10f53), (0x10f70, 0x10f73), (0x10f76, 0x10f81),
  (0x10fb0, 0x10fb0), (0x10fb2, 0x10fb3), (0x10fb8, 0x10fb8), (0x10fbb, 0x10fbc),
  (0x10fbe, 0x10fbf), (0x10fc1, 0x10fc1), (0x10fc4, 0x10fc4), (0x10fca, 0x10fca),
  (0x1e922, 0x1e943)]

/-- Letters joined to the one before. -/
def joinedBefore : Ranges := [
  (0x622, 0x625), (0x627, 0x627), (0x629, 0x629), (0x62f, 0x632), (0x648, 0x648), (0x671, 0x673),
  (0x688, 0x699), (0x6c0, 0x6c0), (0x6c3, 0x6cb), (0x6cd, 0x6cd), (0x6cf, 0x6cf), (0x6d2, 0x6d3),
  (0x6d5, 0x6d5), (0x6ee, 0x6ef), (0x710, 0x710), (0x715, 0x719), (0x71e, 0x71e), (0x728, 0x728),
  (0x72a, 0x72a), (0x72c, 0x72c), (0x72f, 0x72f), (0x74d, 0x74d), (0x759, 0x75b), (0x76b, 0x76c),
  (0x771, 0x771), (0x773, 0x774), (0x778, 0x779), (0x840, 0x840), (0x846, 0x847), (0x849, 0x849),
  (0x854, 0x854), (0x856, 0x858), (0x867, 0x867), (0x869, 0x86a), (0x870, 0x882), (0x88e, 0x88e),
  (0x8aa, 0x8ac), (0x8ae, 0x8ae), (0x8b1, 0x8b2), (0x8b9, 0x8b9), (0x10ac5, 0x10ac5),
  (0x10ac7, 0x10ac7), (0x10ac9, 0x10aca), (0x10ace, 0x10ad2), (0x10add, 0x10add),
  (0x10ae1, 0x10ae1), (0x10ae4, 0x10ae4), (0x10aef, 0x10aef), (0x10b81, 0x10b81),
  (0x10b83, 0x10b85), (0x10b89, 0x10b89), (0x10b8c, 0x10b8c), (0x10b8e, 0x10b8f),
  (0x10b91, 0x10b91), (0x10ba9, 0x10bac), (0x10d22, 0x10d22), (0x10ec2, 0x10ec2),
  (0x10f33, 0x10f33), (0x10f54, 0x10f54), (0x10f74, 0x10f75), (0x10fb4, 0x10fb6),
  (0x10fb9, 0x10fba), (0x10fbd, 0x10fbd), (0x10fc2, 0x10fc3), (0x10fc9, 0x10fc9)]

/-- Letters joined to the one behind. -/
def joinedBehind : Ranges :=
  [(0xa872, 0xa872), (0x10acd, 0x10acd), (0x10ad7, 0x10ad7), (0x10d00, 0x10d00), (0x10fcb, 0x10fcb)]

/-- Whether a character does not come between the letters that it stands between. -/
def isTransparent (c : Char) : Bool :=
  let k := Text.category c
  k == .mn || k == .me || c.toNat == 0x1e94b

/-- The next character that is not transparent. -/
def nextLetter? (cs : List Char) : Option Char := (cs.dropWhile isTransparent).head?

/-- Whether every character without a shape has something to do, given what stands before it, last
first. Both may stand behind a virama, and the one that keeps letters apart may stand between two
that would be joined. -/
def joinersHold (before : List Char) : List Char → Bool
  | [] => true
  | c :: rest =>
    let isNeeded :=
      before.head?.any Text.viramas.has ||
        (c == '\u200c' &&
          (nextLetter? before).any (fun a => joinedBothWays.has a || joinedBehind.has a) &&
          (nextLetter? rest).any fun b => joinedBothWays.has b || joinedBefore.has b)
    (!(c == '\u200c' || c == '\u200d') || isNeeded) && joinersHold (c :: before) rest

/-! ## Names -/

/-- The longest host name. -/
def maxNameLength : Nat := 253

/-- The longest part of a host name. -/
def maxPartLength : Nat := 63

/-! ## Names in ASCII -/

/-- Whether a text has the length of a part of a host name, and a hyphen stands neither first nor
last. -/
def isPart (part : List Char) : Bool :=
  !part.isEmpty && decide (part.length ≤ maxPartLength) && part.head? != some '-' &&
    part.getLast? != some '-'

/-- Whether a text is a host name in ASCII. -/
def isName (s : List Char) : Bool :=
  decide (s.length ≤ maxNameLength) &&
    (splitOnChar '.' s).all fun part => isPart part && part.all fun c => c.isAlphanum || c == '-'

/-! ## Names in any script -/

/-- A part of a host name as it is shown, and in ASCII. -/
structure Part where
  shown : List Char
  ascii : List Char

/-- What the parts in ASCII begin with that stand for others. -/
def asciiMark : List Char := "xn--".toList

/-- The part of a host name that a text is. What stands for characters of other scripts has some,
and in the form that they have in host names. -/
def Part.of? (text : List Char) : Option Part :=
  if asciiMark.isPrefixOf text then
    match decode? (text.drop asciiMark.length) with
    | some shown =>
      if !shown.all isAscii ∧ shown.all isStable ∧ Text.composed shown = shown then
        some { shown, ascii := text }
      else none
    | none => none
  else if text.all isAscii then some { shown := text, ascii := text }
  else some { shown := text, ascii := asciiMark ++ encode text }

/-- Whether a part starts with a mark, which has nothing to mark. -/
def startsWithMark (part : List Char) : Bool :=
  part.head?.any fun c => (Text.category c).major == 'M'

/-- Whether a part has hyphens at its ends, or those in its third and fourth place that are left to
parts in ASCII. -/
def hasForbiddenHyphens (part : List Char) : Bool :=
  part.head? == some '-' || part.getLast? == some '-' || (part.drop 2).take 2 == ['-', '-']

/-- Whether a part is a proper one by itself. -/
def Part.isProper (p : Part) : Bool :=
  isPart p.ascii && !hasForbiddenHyphens p.shown && !startsWithMark p.shown &&
    joinersHold [] p.shown

/-- Whether parts side by side read in one order only. This is so unless something in them runs from
right to left. -/
def readInOrder (parts : List Part) : Bool :=
  let directions := parts.map fun p => p.shown.map direction
  directions.all (!·.any Direction.isTurned) || directions.all readsOneWay

/-! ## Characters in their context -/

/-- Characters that stretch or repeat others, which have no place in a name. -/
def stretchers : Text.Ranges :=
  [(0x640, 0x640), (0x7fa, 0x7fa), (0x302e, 0x302f), (0x3031, 0x3035), (0x303b, 0x303b)]

/-- Greek letters. -/
def greek : Text.Ranges := [(0x370, 0x3ff)]

/-- Hebrew letters. -/
def hebrew : Text.Ranges := [(0x590, 0x5ff)]

/-- Letters of Japanese. -/
def japanese : Text.Ranges := [(0x3041, 0x30fa), (0x30fc, 0x30ff), (0x3400, 0x9fff)]

/-- Arabic digits of one kind. -/
def arabicDigits : Text.Ranges := [(0x660, 0x669)]

/-- Arabic digits of the other kind. -/
def easternArabicDigits : Text.Ranges := [(0x6f0, 0x6f9)]

/-- Whether the characters that need company have it, given what stands before: the middle dot
stands between two letters l, the Greek sign of a number before a Greek letter, and the Hebrew signs
behind a Hebrew one. -/
def contextHolds : Option Char → List Char → Bool
  | _, [] => true
  | before, c :: rest =>
    (if stretchers.has c then false
      else if c = '·' then before == some 'l' && rest.head? == some 'l'
      else if c = '͵' then rest.head?.any greek.has
      else if c = '׳' ∨ c = '״' then before.any hebrew.has
      else true) && contextHolds (some c) rest

/-- Whether a name as it is shown is in order: the dot of Katakana needs some letter of Japanese,
and Arabic digits are of one kind. -/
def isInOrder (shown : List Char) : Bool :=
  contextHolds none shown && (!shown.contains '・' || shown.any japanese.has) &&
    !(shown.any arabicDigits.has && shown.any easternArabicDigits.has)

/-- Whether a text is a host name in any script. -/
def isWideName (s : List Char) : Bool :=
  match (mapped? s).bind fun mapped => (splitOnChar '.' mapped).mapM Part.of? with
  | some parts =>
    decide (parts.foldl (fun n p => n + p.ascii.length + 1) 0 ≤ maxNameLength + 1) &&
      parts.all Part.isProper && readInOrder parts &&
      isInOrder (['.'].intercalate (parts.map Part.shown))
  | none => false

end AgentManifest.Host
