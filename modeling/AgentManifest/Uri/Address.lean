import AgentManifest.Decimal.Notation
import AgentManifest.Uri.Part

/-!
# Addresses

The numbers of machines on a network: four bytes between points, or eight groups of four
hexadecimal digits between colons, of which a run of zeros may be left out. An address is told from
its text, or read from the front of a longer one, which then says how far it got.
-/

namespace AgentManifest.Uri

/-! ## Whole texts -/

/-- The parts of a text between the occurrences of a character. -/
def splitOnChar (sep : Char) : List Char → List (List Char)
  | [] => [[]]
  | c :: cs =>
    if c = sep then [] :: splitOnChar sep cs
    else
      match splitOnChar sep cs with
      | [] => [[c]]
      | part :: parts => (c :: part) :: parts

/-- Whether a text is a number of one byte without a leading zero. -/
def isByteText (s : List Char) : Bool :=
  !s.isEmpty && decide (s.length ≤ 3) && s.all Char.isDigit &&
    (s.length == 1 || s.head? != some '0') &&
    decide (s.foldl (fun n d => 10 * n + (d.toNat - '0'.toNat)) 0 ≤ 255)

/-- Whether a text is an address of four bytes. -/
def isIpv4 (s : List Char) : Bool :=
  let parts := splitOnChar '.' s
  parts.length == 4 && parts.all isByteText

/-- Whether a text is a group of an address of eight groups. -/
def isGroup (s : List Char) : Bool := !s.isEmpty && decide (s.length ≤ 4) && s.all Text.isHex

/-- How many groups some parts make up; an address of four bytes at the end counts for two. -/
def groupCount? (allowIpv4 : Bool) : List (List Char) → Option Nat
  | [] => some 0
  | [part] => if isGroup part then some 1 else if allowIpv4 && isIpv4 part then some 2 else none
  | part :: parts => if isGroup part then (groupCount? allowIpv4 parts).map (· + 1) else none

/-- The text before and behind the first double colon. -/
def splitDoubleColon : List Char → Option (List Char × List Char)
  | ':' :: ':' :: rest => some ([], rest)
  | c :: rest => (splitDoubleColon rest).map fun (a, b) => (c :: a, b)
  | [] => none

/-- The number of groups in a text between colons; an empty text has none. -/
def groupsOf? (allowIpv4 : Bool) (s : List Char) : Option Nat :=
  if s.isEmpty then some 0 else groupCount? allowIpv4 (splitOnChar ':' s)

/-- Whether a text is an address of eight groups, of which a run of zeros may be left out. -/
def isIpv6 (s : List Char) : Bool :=
  match splitDoubleColon s with
  | none => groupsOf? true s == some 8
  | some (before, behind) =>
    match groupsOf? false before, groupsOf? true behind with
    | some a, some b => decide (a + b ≤ 7)
    | _, _ => false

/-! ## At the front of a text -/

/-- A byte in decimal digits without leading zeros, and what follows it. -/
def readByte? (s : List Char) : Option (Nat × List Char) :=
  match s with
  | '0' :: rest => some (0, rest)
  | _ =>
    let digits := (s.take 3).takeWhile Char.isDigit
    let n := digits.foldl (fun n d => 10 * n + (d.toNat - '0'.toNat)) 0
    if digits.isEmpty || decide (255 < n) then none else some (n, s.drop digits.length)

/-- Four bytes between points, as two groups, and what follows them. -/
def readQuad? (s : List Char) : Option ((Nat × Nat) × List Char) := do
  let point : List Char → Option (List Char)
    | '.' :: rest => some rest
    | _ => none
  let (a, s) ← readByte? s
  let (b, s) ← readByte? (← point s)
  let (c, s) ← readByte? (← point s)
  let (d, s) ← readByte? (← point s)
  some ((256 * a + b, 256 * c + d), s)

/-- What stands at the front of the groups that are left. -/
inductive GroupToken where
  /-- A group, and whether a colon stands in front of it. -/
  | number (n : Nat) (colon : Bool)
  /-- Two colons. -/
  | gap
  /-- The start of four bytes between points, and whether a colon stands in front of them. -/
  | quad (colon : Bool)
  | loneColon
  deriving DecidableEq, Repr, Inhabited

/-- The next of some groups, and what is left. Nothing is found where the text ends in a group. -/
def readGroup (s : List Char) : Option GroupToken × List Char :=
  let (colon, s) :=
    match s with
    | ':' :: rest => (true, rest)
    | _ => (false, s)
  let digits := (s.take 4).takeWhile Text.isHex
  let rest := s.drop digits.length
  if digits.isEmpty then
    match colon, s with
    | true, ':' :: rest => (some .gap, rest)
    | true, _ => (some .loneColon, s)
    | false, _ => (none, s)
  else if digits.length < 4 && rest.head? == some '.' then (some (.quad colon), s)
  else if digits.length < 4 && rest.isEmpty then (none, rest)
  else (some (.number (Text.hexNumber digits) colon), rest)

/-- The groups read so far, with the number of them in front of the gap. -/
structure Groups where
  numbers : List Nat
  gap : Option Nat
  deriving DecidableEq, Repr, Inhabited

/-- All eight groups, the gap filled with zeros; a gap stands for at least one. -/
def Groups.fill? (g : Groups) : Option (List Nat) :=
  match g.gap with
  | none => if g.numbers.length = 8 then some g.numbers else none
  | some i =>
    if g.numbers.length < 8 then
      some (g.numbers.take i ++ List.replicate (8 - g.numbers.length) 0 ++ g.numbers.drop i)
    else none

/-- Reads groups up to eight. Every group but the first, and but the one behind the gap, has a
colon in front. -/
def readGroups : Nat → Groups → List Char → Option (List Nat) × List Char
  | 0, g, s => (g.fill?, s)
  | fuel + 1, g, s =>
    let count := g.numbers.length
    if 8 ≤ count then (g.fill?, s)
    else
      match readGroup s with
      | (none, rest) => (g.fill?, rest)
      | (some .loneColon, rest) => (none, rest)
      | (some .gap, rest) =>
        if g.gap.isSome then (none, rest) else readGroups fuel { g with gap := some count } rest
      | (some (.number n colon), rest) =>
        if colon == (count == 0 || g.gap == some count) then (none, rest)
        else readGroups fuel { g with numbers := g.numbers ++ [n] } rest
      | (some (.quad colon), rest) =>
        if 6 < count || colon == (g.gap == some count) then (none, rest)
        else
          match readQuad? rest with
          | none => (none, [])
          | some ((a, b), rest) => ({ g with numbers := g.numbers ++ [a, b] }.fill?, rest)

/-- The eight groups of the address at the front of a text, and what was not read. -/
def readAddress (s : List Char) : Option (List Nat) × List Char :=
  readGroups 10 { numbers := [], gap := none } s

/-! ## Writing -/

/-- A group in hexadecimal digits. -/
def groupText (n : Nat) : List Char := Nat.toDigits 16 n

/-- Some groups between colons. -/
def groupsText (groups : List Nat) : List Char := [':'].intercalate (groups.map groupText)

/-- The first of the longest runs of zeros: where it starts, and its length. -/
def longestZeros (groups : List Nat) : Nat × Nat :=
  (List.range groups.length).foldl (fun best i =>
    let length := ((groups.drop i).takeWhile (· == 0)).length
    if best.2 < length then (i, length) else best) (0, 0)

/-- A group as two bytes with a point between them. -/
def bytesText (n : Nat) : List Char :=
  Decimal.natText (n / 256) ++ '.' :: Decimal.natText (n % 256)

/-- An address in normal form: the longest run of several zeros is left out, and an address of four
bytes that is part of it is written as one. -/
def addressText (groups : List Nat) : List Char :=
  match groups with
  | [0, 0, 0, 0, 0, 0xFFFF, a, b] => "::ffff:".toList ++ bytesText a ++ '.' :: bytesText b
  | _ =>
    let (start, length) := longestZeros groups
    if length ≤ 1 then groupsText groups
    else
      groupsText (groups.take start) ++ [':', ':'] ++ groupsText (groups.drop (start + length))

end AgentManifest.Uri
