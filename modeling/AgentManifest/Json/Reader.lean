import AgentManifest.Text.Character
import AgentManifest.Json.Error
import AgentManifest.Json.Value
import AgentManifest.Decimal.Binary64

/-!
# Reading JSON

Strict JSON, with at most 127 arrays and objects around a value. Each reader takes the text that
is left and gives a value with the text behind it; a refusal keeps the text at which it arose, so
that its place can be found afterwards. Readers of containers run on fuel, which the length of the
text bounds.
-/

namespace AgentManifest.Json

/-- What a reader gives when it does not stop: a value and the text behind it. -/
abbrev Parsed (α : Type) := α × List Char

/-- A stop at the text that is left. -/
def stopAt {α : Type} (cause : Cause) (rest : List Char) : Except Stop α :=
  .error { cause, rest, ahead := 0 }

/-- A stop that counts the next byte, if there is one. -/
def stopAfter {α : Type} (cause : Cause) (rest : List Char) : Except Stop α :=
  .error { cause, rest, ahead := if rest.isEmpty then 0 else 1 }

/-- The characters that may stand between tokens. -/
def isBlank (c : Char) : Bool := c == ' ' || c == '\n' || c == '\t' || c == '\r'

/-- Drops blanks. -/
def skipBlanks (s : List Char) : List Char := s.dropWhile isBlank

/-- Reads the rest of a word of which the first letter was seen. -/
def word : List Char → List Char → Except Stop (List Char)
  | [], s => .ok s
  | _ :: _, [] => stopAt .eofValue []
  | w :: ws, c :: s => if w = c then word ws s else stopAfter .expectedIdent (c :: s)

/-! ## Numbers -/

/-- The greatest integer kept exactly. -/
def maxInteger : Nat := UInt64.size - 1

/-- The value of a decimal digit. -/
def digitValue (c : Char) : Nat := c.toNat - '0'.toNat

/-- Takes up digits into a significand until it would pass `maxInteger`; also says how many
digits were left over. -/
def absorb : Nat → List Char → Nat × Nat
  | n, [] => (n, 0)
  | n, c :: cs =>
    let n' := 10 * n + digitValue c
    if n' ≤ maxInteger then absorb n' cs else (n, cs.length + 1)

/-- A scaled significand with its sign. -/
def signed (negative : Bool) (significand : Nat) (exponent : Int) (rest : List Char) :
    Except Stop (Parsed Decimal.Binary64) :=
  match Decimal.scaled significand exponent with
  | none => stopAt .numberOutOfRange rest
  | some x => .ok (if negative then Decimal.Binary64.mul (.ofInt (-1)) x else x, rest)

/-- The greatest exponent that is taken literally. -/
def maxWrittenExponent : Nat := Nat.pow 2 31 - 1

/-- Takes up the digits of an exponent; `none`, with the text at which it grew too large. -/
def exponentDigits : Nat → List Char → Option Nat × List Char
  | e, [] => (some e, [])
  | e, c :: cs =>
    if c.isDigit then
      let e' := 10 * e + digitValue c
      if e' ≤ maxWrittenExponent then exponentDigits e' cs else (none, cs)
    else (some e, c :: cs)

/-- The exponent part, behind its `e`, of a number whose digits were read. -/
def exponentPart (negative : Bool) (significand : Nat) (exponent : Int) (s : List Char) :
    Except Stop (Parsed Decimal.Binary64) :=
  let (minus, s) : Bool × List Char :=
    match s with
    | '+' :: s => (false, s)
    | '-' :: s => (true, s)
    | s => (false, s)
  match s with
  | [] => stopAt .eofValue []
  | c :: cs =>
    if c.isDigit then
      match exponentDigits (digitValue c) cs with
      | (some e, rest) =>
        signed negative significand (if minus then exponent - e else exponent + e) rest
      | (none, rest) =>
        if significand ≠ 0 ∧ minus = false then stopAt .numberOutOfRange rest
        else .ok (Decimal.Binary64.zero negative, rest.dropWhile Char.isDigit)
    else stopAfter .invalidNumber (c :: cs)

/-- What may follow the digits before and after a point: an exponent, or the end. -/
def afterDigits (negative : Bool) (significand : Nat) (exponent : Int) (s : List Char) :
    Except Stop (Parsed Decimal.Binary64) :=
  match s with
  | 'e' :: rest => exponentPart negative significand exponent rest
  | 'E' :: rest => exponentPart negative significand exponent rest
  | rest => signed negative significand exponent rest

/-- The digits behind a point, and what follows them. -/
def fractionPart (negative : Bool) (significand : Nat) (exponent : Int) (s : List Char) :
    Except Stop (Parsed Decimal.Binary64) :=
  let ds := s.takeWhile Char.isDigit
  let rest := s.dropWhile Char.isDigit
  if ds.isEmpty then
    if rest.isEmpty then stopAt .eofValue [] else stopAfter .invalidNumber rest
  else
    let (n, left) := absorb significand ds
    afterDigits negative n (exponent - (ds.length - left : Nat)) rest

/-- An integer with its sign. Negative zero, and what is below `-2^63`, is a double. -/
def wholeNumber (negative : Bool) (n : Nat) : Number :=
  if negative then
    if n = 0 ∨ Nat.pow 2 63 < n then
      .float (Decimal.Binary64.mul (.ofInt (-1)) (.ofInt n))
    else .int (-n)
  else .int n

/-- The part of a number behind its integer digits. -/
def afterInteger (negative : Bool) (significand left : Nat) (s : List Char) :
    Except Stop (Parsed Number) :=
  match s with
  | '.' :: rest => do
    let (x, rest) ← fractionPart negative significand left rest
    .ok (.float x, rest)
  | c :: rest =>
    if c = 'e' ∨ c = 'E' then do
      let (x, rest) ← exponentPart negative significand left rest
      .ok (.float x, rest)
    else if left = 0 then .ok (wholeNumber negative significand, c :: rest)
    else do
      let (x, rest) ← signed negative significand left (c :: rest)
      .ok (.float x, rest)
  | [] =>
    if left = 0 then .ok (wholeNumber negative significand, [])
    else do
      let (x, rest) ← signed negative significand left []
      .ok (.float x, rest)

/-- A number behind its sign. -/
def number (negative : Bool) (s : List Char) : Except Stop (Parsed Number) :=
  match s with
  | [] => stopAt .eofValue []
  | '0' :: rest =>
    match rest with
    | c :: _ => if c.isDigit then stopAfter .invalidNumber rest else afterInteger negative 0 0 rest
    | [] => afterInteger negative 0 0 []
  | c :: rest =>
    if c.isDigit then
      let (n, left) := absorb 0 (c :: rest.takeWhile Char.isDigit)
      afterInteger negative n left (rest.dropWhile Char.isDigit)
    else stopAfter .invalidNumber (c :: rest)

/-! ## Strings -/

/-- Four hexadecimal digits. Fewer than four bytes are an end of text; other characters are
refused behind the fourth byte. -/
def hexUnit (s : List Char) : Except Stop (Parsed Nat) :=
  if Text.byteLength (s.take 4) < 4 then stopAt .eofString []
  else
    match s with
    | a :: b :: c :: d :: rest =>
      match Text.hexDigit? a, Text.hexDigit? b, Text.hexDigit? c, Text.hexDigit? d with
      | some a, some b, some c, some d => .ok (((a * 16 + b) * 16 + c) * 16 + d, rest)
      | _, _, _, _ => .error { cause := .invalidEscape, rest := s, ahead := 4 }
    | _ => .error { cause := .invalidEscape, rest := s, ahead := 4 }

/-- The character of a `\u` escape, read behind the `u`; a surrogate needs its partner. -/
def unicodeEscape (s : List Char) : Except Stop (Parsed Char) := do
  let (n, rest) ← hexUnit s
  if 0xDC00 ≤ n ∧ n ≤ 0xDFFF then stopAt .loneSurrogate rest
  else if n < 0xD800 ∨ 0xDBFF < n then .ok (Char.ofNat n, rest)
  else
    match rest with
    | '\\' :: 'u' :: rest => do
      let (m, rest) ← hexUnit rest
      if m < 0xDC00 ∨ 0xDFFF < m then stopAt .loneSurrogate rest
      else .ok (Char.ofNat ((n - 0xD800) * 0x400 + (m - 0xDC00) + 0x10000), rest)
    | '\\' :: [] => stopAt .eofString []
    | '\\' :: rest => stopAfter .unexpectedEndOfHexEscape rest
    | [] => stopAt .eofString []
    | rest => stopAfter .unexpectedEndOfHexEscape rest

/-- The characters that stand for themselves behind a backslash, and those that stand for
control characters. -/
def simpleEscape : Char → Option Char
  | '"' => some '"'
  | '\\' => some '\\'
  | '/' => some '/'
  | 'b' => some '\x08'
  | 'f' => some '\x0c'
  | 'n' => some '\n'
  | 'r' => some '\r'
  | 't' => some '\t'
  | _ => none

/-- The characters of a string up to its closing quote, behind those already read (last first). -/
def stringBody : Nat → List Char → List Char → Except Stop (Parsed (List Char))
  | 0, _, s => stopAt .eofString s
  | fuel + 1, seen, s =>
    match s with
    | [] => stopAt .eofString []
    | '"' :: rest => .ok (seen.reverse, rest)
    | '\\' :: rest =>
      match rest with
      | [] => stopAt .eofString []
      | 'u' :: rest =>
        match unicodeEscape rest with
        | .ok (c, rest) => stringBody fuel (c :: seen) rest
        | .error stop => .error stop
      | c :: rest =>
        match simpleEscape c with
        | some c => stringBody fuel (c :: seen) rest
        | none => stopAfter .invalidEscape (c :: rest)
    | c :: rest =>
      if c.toNat < 0x20 then stopAfter .controlCharacter (c :: rest)
      else stringBody fuel (c :: seen) rest

/-- A string behind its opening quote. -/
def stringRest (fuel : Nat) (s : List Char) : Except Stop (Parsed String) := do
  let (cs, rest) ← stringBody fuel [] s
  .ok (String.ofList cs, rest)

/-! ## Containers -/

/-- Steps over the separator before an item, or finds the end of the array. -/
def beforeItem (first : Bool) (s : List Char) : Except Stop (Bool × List Char) :=
  match skipBlanks s with
  | [] => stopAt .eofArray []
  | ']' :: rest => .ok (false, rest)
  | c :: rest =>
    if first then .ok (true, c :: rest)
    else if c = ',' then
      match skipBlanks rest with
      | [] => stopAt .eofValue []
      | ']' :: rest => stopAfter .trailingComma (']' :: rest)
      | rest => .ok (true, rest)
    else stopAfter .expectedArrayCommaOrEnd (c :: rest)

/-- Steps over the separator and the opening quote of a name, or finds the end of the object. -/
def beforeName (first : Bool) (s : List Char) : Except Stop (Bool × List Char) :=
  match skipBlanks s with
  | [] => stopAt .eofObject []
  | '}' :: rest => .ok (false, rest)
  | c :: rest =>
    if first then
      if c = '"' then .ok (true, rest) else stopAfter .keyMustBeString (c :: rest)
    else if c = ',' then
      match skipBlanks rest with
      | [] => stopAt .eofValue []
      | '"' :: rest => .ok (true, rest)
      | '}' :: rest => stopAfter .trailingComma ('}' :: rest)
      | rest => stopAfter .keyMustBeString rest
    else stopAfter .expectedObjectCommaOrEnd (c :: rest)

/-- Steps over the colon between a name and its value. -/
def colon (s : List Char) : Except Stop (List Char) :=
  match skipBlanks s with
  | [] => stopAt .eofObject []
  | ':' :: rest => .ok rest
  | rest => stopAfter .expectedColon rest

/-- One more than the number of containers that may enclose a value. -/
def maxNesting : Nat := 128

mutual

/-- A value, below at most `depth - 1` containers. -/
def value : Nat → Nat → List Char → Except Stop (Parsed Value)
  | 0, _, s => stopAt .eofValue s
  | fuel + 1, depth, s =>
    match skipBlanks s with
    | [] => stopAt .eofValue []
    | 'n' :: rest => do .ok (.null, ← word ['u', 'l', 'l'] rest)
    | 't' :: rest => do .ok (.bool true, ← word ['r', 'u', 'e'] rest)
    | 'f' :: rest => do .ok (.bool false, ← word ['a', 'l', 's', 'e'] rest)
    | '-' :: rest => do
      let (n, rest) ← number true rest
      .ok (.number n, rest)
    | '"' :: rest => do
      let (t, rest) ← stringRest fuel rest
      .ok (.string t, rest)
    | '[' :: rest =>
      if depth ≤ 1 then stopAfter .nestingTooDeep ('[' :: rest)
      else do
        let (vs, rest) ← items fuel (depth - 1) true rest
        .ok (.array vs, rest)
    | '{' :: rest =>
      if depth ≤ 1 then stopAfter .nestingTooDeep ('{' :: rest)
      else do
        let (ms, rest) ← members fuel (depth - 1) true rest
        .ok (.object (Members.ofList ms), rest)
    | c :: rest =>
      if c.isDigit then do
        let (n, rest) ← number false (c :: rest)
        .ok (.number n, rest)
      else stopAfter .expectedValue (c :: rest)

/-- The items of an array up to its closing bracket. -/
def items : Nat → Nat → Bool → List Char → Except Stop (Parsed (List Value))
  | 0, _, _, s => stopAt .eofArray s
  | fuel + 1, depth, first, s => do
    let (more, rest) ← beforeItem first s
    if more then
      let (v, rest) ← value fuel depth rest
      let (vs, rest) ← items fuel depth false rest
      .ok (v :: vs, rest)
    else .ok ([], rest)

/-- The members of an object up to its closing brace, in the order of the text. -/
def members : Nat → Nat → Bool → List Char → Except Stop (Parsed (List (String × Value)))
  | 0, _, _, s => stopAt .eofObject s
  | fuel + 1, depth, first, s => do
    let (more, rest) ← beforeName first s
    if more then
      let (k, rest) ← stringRest fuel rest
      let rest ← colon rest
      let (v, rest) ← value fuel depth rest
      let (ms, rest) ← members fuel depth false rest
      .ok ((k, v) :: ms, rest)
    else .ok ([], rest)

end

/-- Nothing but blanks may follow the value of a text. -/
def finish {α : Type} (a : α) (rest : List Char) : Except Stop α :=
  match skipBlanks rest with
  | [] => .ok a
  | rest => stopAfter .trailingCharacters rest

/-- The value of a whole text. -/
def readChars (text : List Char) : Except Error Value :=
  match (do let (v, rest) ← value (2 * text.length + 2) maxNesting text; finish v rest :
      Except Stop Value) with
  | .ok v => .ok v
  | .error stop => .error (stop.locate text)

/-- The value of a JSON text. -/
def read (text : String) : Except Error Value := readChars text.toList

end AgentManifest.Json
