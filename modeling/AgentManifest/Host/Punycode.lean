/-!
# Host names in ASCII

A part of a host name is put in ASCII as its characters of ASCII, a hyphen, and numbers that tell
which others come in and where. A number is written in letters and digits to a base that changes
from place to place; the last digit is below a threshold, which follows the numbers written before.
-/

namespace AgentManifest.Host

/-! ## Numbers -/

/-- The digit for a value. -/
def digit (value : Nat) : Char :=
  if value < 26 then Char.ofNat ('a'.toNat + value) else Char.ofNat ('0'.toNat + value - 26)

/-- The value of a digit. -/
def digitValue? (c : Char) : Option Nat :=
  if c.isLower then some (c.toNat - 'a'.toNat)
  else if c.isDigit then some (c.toNat - '0'.toNat + 26)
  else none

/-- The number of digits. -/
def digitCount : Nat := 36

/-- The threshold at a place, where places count by the number of digits. -/
def threshold (bias place : Nat) : Nat := min 26 (max 1 (place - bias))

/-- A threshold is at least one. -/
theorem one_le_threshold (bias place : Nat) : 1 ≤ threshold bias place := by
  unfold threshold
  omega

/-- A threshold is less than the number of digits. -/
theorem threshold_lt (bias place : Nat) : threshold bias place < digitCount := by
  unfold threshold digitCount
  omega

/-- Writes a number from a place on. -/
def writeNumber (bias place n : Nat) : List Char :=
  let t := threshold bias place
  if n < t then [digit n]
  else
    digit (t + (n - t) % (digitCount - t)) ::
      writeNumber bias (place + digitCount) ((n - t) / (digitCount - t))
termination_by n
decreasing_by
  have := one_le_threshold bias place
  exact Nat.lt_of_le_of_lt (Nat.div_le_self _ _) (by omega)

/-- Reads a number from a place on, given what was read and the weight of the next digit. -/
def readNumber (bias place weight n : Nat) : List Char → Option (Nat × List Char)
  | [] => none
  | c :: rest =>
    match digitValue? c with
    | none => none
    | some d =>
      if d < threshold bias place then some (n + d * weight, rest)
      else
        readNumber bias (place + digitCount) (weight * (digitCount - threshold bias place))
          (n + d * weight) rest

/-- A number that was read leaves less of the text. -/
theorem length_of_readNumber {bias place weight n m : Nat} {cs rest : List Char}
    (h : readNumber bias place weight n cs = some (m, rest)) : rest.length < cs.length := by
  induction cs generalizing place weight n with
  | nil => simp [readNumber] at h
  | cons c cs ih =>
    unfold readNumber at h
    split at h
    · cases h
    · split at h
      · cases h
        simp
      · exact Nat.lt_succ_of_lt (ih h)

/-- Makes a difference small, counting the places that this takes. -/
def biasOf (delta place : Nat) : Nat :=
  if 455 < delta then biasOf (delta / 35) (place + digitCount)
  else place + digitCount * delta / (delta + 38)
termination_by delta
decreasing_by exact Nat.div_lt_self (by omega) (by omega)

/-- The bias after a number, given how many characters there are now. -/
def nextBias (delta count : Nat) (first : Bool) : Nat :=
  let delta := if first then delta / 700 else delta / 2
  biasOf (delta + delta / count) 0

/-- The bias for the first number. -/
def firstBias : Nat := 72

/-! ## Writing -/

/-- Whether a character is one of ASCII. -/
def isAscii (c : Char) : Bool := c.toNat < 0x80

/-- A text being written: what was written, last first, the number of characters put in, how far the
next one is from the last, and the bias. -/
structure Progress where
  written : List Char := []
  count : Nat
  delta : Nat := 0
  bias : Nat := firstBias

/-- Passes a character while the characters with a code are put in. -/
def Progress.pass (p : Progress) (basic code : Nat) (c : Char) : Progress :=
  if c.toNat < code then { p with delta := p.delta + 1 }
  else if c.toNat = code then
    { written := (writeNumber p.bias digitCount p.delta).reverse ++ p.written
      count := p.count + 1
      delta := 0
      bias := nextBias p.delta (p.count + 1) (p.count == basic) }
  else p

/-- Puts in the characters with some codes in increasing order, from a code on. -/
def putIn (cs : List Char) (basic : Nat) : List Nat → Nat → Progress → Progress
  | [], _, p => p
  | code :: codes, from', p =>
    let p := { p with delta := p.delta + (code - from') * (p.count + 1) }
    let p := cs.foldl (fun p c => p.pass basic code c) p
    putIn cs basic codes (code + 1) { p with delta := p.delta + 1 }

/-- A text in characters of ASCII. -/
def encode (cs : List Char) : List Char :=
  let basic := cs.filter isAscii
  let codes := ((cs.filter fun c => !isAscii c).map Char.toNat).eraseDups.mergeSort
  let numbers := (putIn cs basic.length codes 0x80 { count := basic.length }).written.reverse
  basic ++ (if basic.isEmpty then [] else ['-']) ++ numbers

/-! ## Reading -/

/-- Reads numbers and puts in the characters that they tell of. -/
def takeIn (bias code index : Nat) (found cs : List Char) : Option (List Char) :=
  match cs with
  | [] => some found
  | c :: rest =>
    match _h : readNumber bias digitCount 1 index (c :: rest) with
    | none => none
    | some (i, rest') =>
      let count := found.length + 1
      let code := code + i / count
      if code.isValidChar then
        takeIn (nextBias (i - index) count (index == 0)) code
          (i % count + 1) (found.insertIdx (i % count) (Char.ofNat code)) rest'
      else none
termination_by cs.length
decreasing_by exact length_of_readNumber ‹readNumber _ _ _ _ _ = some _›

/-- The text that characters of ASCII stand for. The characters before the last hyphen stand for
themselves, unless it comes first. -/
def decode? (cs : List Char) : Option (List Char) :=
  let numbers := (cs.reverse.takeWhile (· != '-')).reverse
  let basic := cs.take (cs.length - numbers.length - 1)
  if numbers.length + 1 < cs.length then
    if basic.all isAscii then takeIn firstBias 0x80 0 basic numbers else none
  else takeIn firstBias 0x80 0 [] cs

end AgentManifest.Host
