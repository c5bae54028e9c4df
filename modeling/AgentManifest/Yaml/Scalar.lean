import AgentManifest.Decimal.Binary64
import AgentManifest.Json.Value
import AgentManifest.Yaml.Node

/-!
# The meaning of scalars

A plain scalar is null, a boolean, a number or, where nothing else fits, a string. A tag of the
core schema asks for one kind; any other tag makes a string, except that a local tag leaves a
plain scalar to speak for itself.
-/

namespace AgentManifest.Yaml

open Decimal (Binary64)

/-- The meaning of a scalar. -/
inductive Meaning where
  | null
  | bool (b : Bool)
  | int (n : Int)
  /-- An integer outside the 64-bit types. -/
  | wide (n : Int)
  | float (x : Binary64)
  | text
  deriving DecidableEq, Repr, Inhabited

/-! ## Words -/

/-- Whether a text is a word for null. -/
def isNullWord (s : List Char) : Bool :=
  s == ['~'] || s == "null".toList || s == "Null".toList || s == "NULL".toList

/-- The boolean that a word stands for. -/
def boolWord? (s : List Char) : Option Bool :=
  if s == "true".toList || s == "True".toList || s == "TRUE".toList then some true
  else if s == "false".toList || s == "False".toList || s == "FALSE".toList then some false
  else none

/-! ## Integers -/

/-- The value of a digit in a radix up to sixteen. -/
def digitIn? (radix : Nat) (c : Char) : Option Nat :=
  let d :=
    if '0' ≤ c ∧ c ≤ '9' then c.toNat - '0'.toNat
    else if 'a' ≤ c ∧ c ≤ 'f' then c.toNat - 'a'.toNat + 10
    else if 'A' ≤ c ∧ c ≤ 'F' then c.toNat - 'A'.toNat + 10
    else 16
  if d < radix then some d else none

/-- The value of a text of digits, at least one. -/
def digitsIn? (radix : Nat) (s : List Char) : Option Nat :=
  if s.isEmpty then none
  else s.foldlM (fun n c => (digitIn? radix c).map (n * radix + ·)) 0

/-- The number behind a radix mark such as `0x`. -/
def marked? : List Char → Option Nat
  | '0' :: 'x' :: s => digitsIn? 16 s
  | '0' :: 'o' :: s => digitsIn? 8 s
  | '0' :: 'b' :: s => digitsIn? 2 s
  | _ => none

/-- A text without its sign. -/
def unsigned : List Char → List Char
  | '+' :: s => s
  | '-' :: s => s
  | s => s

/-- Whether a text is a run of digits that starts with a zero and goes on, which is no number. -/
def isPaddedDigits (s : List Char) : Bool :=
  match unsigned s with
  | '0' :: c :: cs => (c :: cs).all Char.isDigit
  | _ => false

/-- The natural number that a text without minus sign stands for. -/
def natural? (s : List Char) : Option Nat :=
  let body :=
    match s with
    | '+' :: rest => rest
    | rest => rest
  match marked? body with
  | some n => some n
  | none => if isPaddedDigits s then none else digitsIn? 10 body

/-- The magnitude of the integer that a text with a minus sign stands for. -/
def negative? : List Char → Option Nat
  | '-' :: body =>
    match marked? body with
    | some n => some n
    | none => if isPaddedDigits body then none else digitsIn? 10 body
  | _ => none

/-- The integer that a text stands for, if some type holds it. -/
def integer? (s : List Char) : Option Meaning :=
  match natural? s with
  | some n =>
    if n < Nat.pow 2 64 then some (.int n) else if n < Nat.pow 2 128 then some (.wide n) else none
  | none =>
    match negative? s with
    | some n =>
      if n ≤ Nat.pow 2 63 then some (.int (-n))
      else if n ≤ Nat.pow 2 127 then some (.wide (-n))
      else none
    | none => none

/-! ## Fractions -/

/-- The exponent behind an `e`, with its sign. -/
def exponent? : List Char → Option Int
  | '-' :: s => (digitsIn? 10 s).map fun n => -(n : Int)
  | '+' :: s => (digitsIn? 10 s).map Int.ofNat
  | s => (digitsIn? 10 s).map Int.ofNat

/-- The double nearest to a decimal without its sign: digits, perhaps a point among them or at
either end, and perhaps an exponent. -/
def decimal? (negative : Bool) (s : List Char) : Option Binary64 :=
  let whole := s.takeWhile Char.isDigit
  let rest := s.dropWhile Char.isDigit
  let (fraction, rest) : List Char × List Char :=
    match rest with
    | '.' :: rest => (rest.takeWhile Char.isDigit, rest.dropWhile Char.isDigit)
    | rest => ([], rest)
  let exponent : Option Int :=
    match rest with
    | [] => some 0
    | c :: rest => if c == 'e' || c == 'E' then exponent? rest else none
  match digitsIn? 10 (whole ++ fraction), exponent with
  | some significand, some e =>
    some (Decimal.nearest negative significand (whole.length + fraction.length)
      (e - fraction.length))
  | _, _ => none

/-- The double that a text stands for; a decimal too large for a finite one is none. -/
def float? (s : List Char) : Option Binary64 :=
  let body :=
    match s with
    | '+' :: rest => rest
    | rest => rest
  if body == ".inf".toList || body == ".Inf".toList || body == ".INF".toList then
    some (.infinite false)
  else if s == "-.inf".toList || s == "-.Inf".toList || s == "-.INF".toList then
    some (.infinite true)
  else if s == ".nan".toList || s == ".NaN".toList || s == ".NAN".toList then some .nan
  else
    let number :=
      match s with
      | '-' :: rest => decimal? true rest
      | _ => decimal? false body
    number.filter Binary64.isFinite

/-! ## Scalars -/

/-- The meaning of a plain scalar. -/
def plainMeaning (s : List Char) : Meaning :=
  if s.isEmpty || isNullWord s then .null
  else
    match boolWord? s with
    | some b => .bool b
    | none =>
      match integer? s with
      | some m => m
      | none =>
        if isPaddedDigits s then .text
        else
          match float? s with
          | some x => .float x
          | none => .text

/-- A tag of the core schema. -/
def coreTag (name : String) : Text.Bytes := Text.encode ("tag:yaml.org,2002:" ++ name).toList

/-- Whether a tag is local to the document, and not of a schema. -/
def isLocalTag (tag : Text.Bytes) : Bool := tag.head? == some '!'.toUInt8

/-- The meaning that a tag asks for, or the mismatch that the text is not of that kind. -/
def taggedMeaning (tag : Text.Bytes) (s : List Char) (style : Style) :
    Except Decode.Mismatch Meaning :=
  let require (m : Option Meaning) (kind : String) : Except Decode.Mismatch Meaning :=
    match m with
    | some m => .ok m
    | none => .error (.invalidValue (.text (String.ofList s)) kind)
  if tag == coreTag "bool" then require ((boolWord? s).map .bool) "a boolean"
  else if tag == coreTag "int" then require (integer? s) "an integer"
  else if tag == coreTag "float" then require ((float? s).map .float) "a float"
  else if tag == coreTag "null" then require (if isNullWord s then some .null else none) "null"
  else if isLocalTag tag && style == .plain then .ok (plainMeaning s)
  else .ok .text

/-- The meaning of a scalar. -/
def meaning (tag : Option Text.Bytes) (s : List Char) (style : Style) :
    Except Decode.Mismatch Meaning :=
  match tag with
  | some tag => taggedMeaning tag s style
  | none => .ok (if style = .plain then plainMeaning s else .text)

/-- How a scalar of a given meaning is named in a message. -/
def Meaning.found (m : Meaning) (s : List Char) : Decode.Found :=
  match m with
  | .null => .unit
  | .bool b => .bool b
  | .int n => .integer n
  | .wide n => .wide n
  | .float x => .float (x.text .pointed)
  | .text => .text (String.ofList s)

end AgentManifest.Yaml
