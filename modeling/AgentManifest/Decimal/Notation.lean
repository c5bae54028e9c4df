import AgentManifest.Decimal.Binary64

/-!
# Written forms of a double

The fewest digits that read back as a given double, and of those the digits nearest to it, in the
notation that a format asks for.
-/

namespace AgentManifest.Decimal

/-! ## Shortest decimals

Grids of one, two, … seventeen digits are tried in turn; on each, only the two neighbours of the
value can lie in the interval of reals that round to it.
-/

/-- A positive decimal `0.d₁d₂…dₙ · 10^point`, its digits most significant first. -/
structure Digits where
  digits : List Nat
  point : Int
  deriving DecidableEq, Repr, Inhabited

/-- The digits of a natural number, most significant first; none for zero. -/
def natDigits (n : Nat) : List Nat :=
  go (n.log2 + 1) n []
where
  go : Nat → Nat → List Nat → List Nat
    | 0, _, acc => acc
    | fuel + 1, n, acc => if n = 0 then acc else go fuel (n / 10) (n % 10 :: acc)

/-- The natural number that a list of digits spells. -/
def ofDigits (ds : List Nat) : Nat := ds.foldl (fun n d => 10 * n + d) 0

/-- Comparison of two fractions with positive denominators. -/
def compareFractions (a b c d : Nat) : Ordering := compare (a * d) (c * b)

/-- The reals that round to a double: both ends, and whether they belong to it. -/
structure RoundingInterval where
  low : Nat × Nat
  high : Nat × Nat
  closed : Bool

/-- The interval of a positive finite double. The gap below a power of two is half as wide. -/
def RoundingInterval.of (m : Nat) (q : Int) : RoundingInterval :=
  let narrow := m = Nat.pow 2 52 ∧ Binary64.minExponent < q
  let low := if narrow then scaleByTwo (4 * m - 1) 1 (q - 2) else scaleByTwo (2 * m - 1) 1 (q - 1)
  { low, high := scaleByTwo (2 * m + 1) 1 (q - 1), closed := m % 2 == 0 }

/-- Whether a fraction lies in the interval. -/
def RoundingInterval.contains (i : RoundingInterval) (n d : Nat) : Bool :=
  let above := compareFractions i.low.1 i.low.2 n d
  let below := compareFractions n d i.high.1 i.high.2
  (above == .lt || (i.closed && above == .eq)) && (below == .lt || (i.closed && below == .eq))

/-- The least `k` with `num / den < 10^k`, searched upward from a lower bound. -/
def decimalPoint (num den : Nat) : Int :=
  let start := ((num.log2 : Int) - den.log2 - 1) * 30103 / 100000 - 1
  go 8 start
where
  go : Nat → Int → Int
    | 0, k => k
    | fuel + 1, k =>
      let (n, d) := scaleByTen num den (-k)
      if n < d then k else go fuel (k + 1)

/-- The point of the grid of step `10^k` that is nearest to `num / den` among its two neighbours
inside the interval; a tie goes to the even one. -/
def nearestOnGrid (i : RoundingInterval) (num den : Nat) (k : Int) : Option Nat :=
  let (n, d) := scaleByTen num den (-k)
  let f := n / d
  let inside (c : Nat) : Bool :=
    let (a, b) := scaleByTen c 1 k
    i.contains a b
  match inside f, inside (f + 1) with
  | false, false => none
  | true, false => some f
  | false, true => some (f + 1)
  | true, true => some (roundDiv n d)

/-- Removes trailing zeros. -/
def dropTrailingZeros (ds : List Nat) : List Nat :=
  (ds.reverse.dropWhile (· == 0)).reverse

/-- The shortest digits of a positive finite double. -/
def shortest (m : Nat) (q : Int) : Digits :=
  let (num, den) := scaleByTwo m 1 q
  let i := RoundingInterval.of m q
  let p := decimalPoint num den
  go i num den p 17 1
where
  go (i : RoundingInterval) (num den : Nat) (p : Int) : Nat → Nat → Digits
    | 0, _ => { digits := [], point := p }
    | fuel + 1, n =>
      match nearestOnGrid i num den (p - n) with
      | some c =>
        let ds := natDigits c
        { digits := dropTrailingZeros ds, point := p - n + ds.length }
      | none => go i num den p fuel (n + 1)

/-! ## Notations

One writer, governed by a record of the choices that a format makes: where positional form ends,
whether a whole number keeps `.0`, and whether a positive exponent has a sign.
-/

/-- The choices a format makes when it writes a double. -/
structure Style where
  /-- The range of `point` written positionally; `none` means always. -/
  positional : Option (Int × Int)
  /-- Whether a whole number is written with `.0`. -/
  keepsPoint : Bool
  /-- Whether a positive exponent is written with a plus sign. -/
  plusSign : Bool
  infinity : String
  notANumber : String

/-- Numbers in JSON text: positional for `1e-5 ≤ |x| < 1e16`. -/
def Style.json : Style :=
  { positional := some (-4, 16), keepsPoint := true, plusSign := true,
    infinity := "inf", notANumber := "NaN" }

/-- Numbers in YAML text: as in JSON, without the plus sign. -/
def Style.yaml : Style :=
  { positional := some (-4, 16), keepsPoint := true, plusSign := false,
    infinity := ".inf", notANumber := ".nan" }

/-- Numbers in messages: always positional, and whole numbers without a point. -/
def Style.plain : Style :=
  { positional := none, keepsPoint := false, plusSign := false,
    infinity := "inf", notANumber := "NaN" }

/-- Numbers in messages that must not look like integers: positional, with a point. -/
def Style.pointed : Style := { Style.plain with keepsPoint := true }

/-- The character of a decimal digit. -/
def digitChar (d : Nat) : Char := Char.ofNat ('0'.toNat + d)

/-- A natural number in decimal. -/
def natText (n : Nat) : List Char :=
  match natDigits n with
  | [] => ['0']
  | ds => ds.map digitChar

/-- A natural number in decimal, as a string. -/
def natString (n : Nat) : String := String.ofList (natText n)

/-- An integer in decimal, with a minus sign when negative. -/
def intText (n : Int) : List Char :=
  if n < 0 then '-' :: natText n.natAbs else natText n.natAbs

/-- Positional form of `0.d₁…dₙ · 10^point`. -/
def Digits.positional (d : Digits) (keepsPoint : Bool) : List Char :=
  let cs := d.digits.map digitChar
  if d.point ≤ 0 then
    ['0', '.'] ++ List.replicate (-d.point).toNat '0' ++ cs
  else
    let p := d.point.toNat
    if cs.length ≤ p then
      cs ++ List.replicate (p - cs.length) '0' ++ (if keepsPoint then ['.', '0'] else [])
    else
      cs.take p ++ '.' :: cs.drop p

/-- Exponent form: one digit, the others behind a point, then `e` and the exponent. -/
def Digits.scientific (d : Digits) (plusSign : Bool) : List Char :=
  let e := d.point - 1
  let mantissa :=
    match d.digits.map digitChar with
    | [] => ['0']
    | [c] => [c]
    | c :: cs => c :: '.' :: cs
  mantissa ++ 'e' :: (if plusSign && decide (0 ≤ e) then ['+'] else []) ++ intText e

/-- A positive decimal in the given style. -/
def Digits.write (style : Style) (d : Digits) : List Char :=
  match style.positional with
  | none => d.positional style.keepsPoint
  | some (low, high) =>
    if low ≤ d.point ∧ d.point ≤ high then d.positional style.keepsPoint
    else d.scientific style.plusSign

/-- A double in the given style. -/
def Binary64.write (style : Style) : Binary64 → List Char
  | .nan => style.notANumber.toList
  | .infinite s => (if s then ['-'] else []) ++ style.infinity.toList
  | .finite s m q =>
    let body :=
      if m = 0 then (if style.keepsPoint then ['0', '.', '0'] else ['0'])
      else (shortest m q).write style
    if s then '-' :: body else body

/-- A double in the given style, as a string. -/
def Binary64.text (style : Style) (x : Binary64) : String := String.ofList (x.write style)

/-- A fraction to one decimal place, a tie going to the even digit. -/
def oneDecimal (num den : Nat) : List Char :=
  let t := roundDiv (10 * num) den
  natText (t / 10) ++ ['.', digitChar (t % 10)]

end AgentManifest.Decimal
