/-!
# Double-precision numbers

A double is a sign with a magnitude `m · 2^q`, an infinity, or not a number. Every operation
is exact arithmetic on fractions followed by one `round` to the nearest double, a tie going to
the even mantissa.
-/

namespace AgentManifest.Decimal

/-- A double-precision number, with `m · 2^q` in lowest exponent form for a finite one. -/
inductive Binary64 where
  | finite (negative : Bool) (mantissa : Nat) (exponent : Int)
  | infinite (negative : Bool)
  | nan
  deriving DecidableEq, Repr, Inhabited

/-- Division of naturals rounded to the nearest, a tie going to the even quotient. -/
def roundDiv (num den : Nat) : Nat :=
  let q := num / den
  let r := 2 * (num % den)
  if r < den then q
  else if den < r then q + 1
  else if q % 2 = 0 then q else q + 1

/-- The fraction `num / den · 2^k` as a pair of naturals. -/
def scaleByTwo (num den : Nat) (k : Int) : Nat × Nat :=
  if 0 ≤ k then (num * Nat.pow 2 k.toNat, den) else (num, den * Nat.pow 2 (-k).toNat)

/-- The fraction `num / den · 10^k` as a pair of naturals. -/
def scaleByTen (num den : Nat) (k : Int) : Nat × Nat :=
  if 0 ≤ k then (num * Nat.pow 10 k.toNat, den) else (num, den * Nat.pow 10 (-k).toNat)

namespace Binary64

/-- The exponent of the smallest positive double. -/
def minExponent : Int := -1074

/-- The largest exponent of a finite double. -/
def maxExponent : Int := 971

/-- Positive or negative zero. -/
def zero (negative : Bool) : Binary64 := .finite negative 0 minExponent

/-- The exponent whose unit divides the fraction into at most 53 bits. -/
def unitExponent (num den : Nat) : Int :=
  let q := max ((num.log2 : Int) - den.log2 - 53) minExponent
  let (n, d) := scaleByTwo num den (-q)
  if n / d < Nat.pow 2 53 then q else q + 1

/-- The double nearest to `num / den`, of the given sign; a tie goes to the even mantissa. -/
def round (negative : Bool) (num den : Nat) : Binary64 :=
  if num = 0 then zero negative
  else
    let q := unitExponent num den
    let (n, d) := scaleByTwo num den (-q)
    let m := roundDiv n d
    let (m, q) := if m < Nat.pow 2 53 then (m, q) else (Nat.pow 2 52, q + 1)
    if maxExponent < q then .infinite negative else .finite negative m q

/-- The double nearest to an integer. -/
def ofInt (n : Int) : Binary64 :=
  round (decide (n < 0)) n.natAbs 1

/-- Whether the number is neither infinite nor undefined. -/
def isFinite : Binary64 → Bool
  | .finite .. => true
  | _ => false

/-- Product, rounded. -/
def mul : Binary64 → Binary64 → Binary64
  | .nan, _ => .nan
  | _, .nan => .nan
  | .finite s m q, .finite s' m' q' =>
    let (n, d) := scaleByTwo (m * m') 1 (q + q')
    round (s != s') n d
  | .infinite s, .finite s' m _ => if m = 0 then .nan else .infinite (s != s')
  | .finite s m _, .infinite s' => if m = 0 then .nan else .infinite (s != s')
  | .infinite s, .infinite s' => .infinite (s != s')

/-- Quotient, rounded. -/
def div : Binary64 → Binary64 → Binary64
  | .nan, _ => .nan
  | _, .nan => .nan
  | .finite s m q, .finite s' m' q' =>
    if m' = 0 then (if m = 0 then .nan else .infinite (s != s'))
    else
      let (n, d) := scaleByTwo m m' (q - q')
      round (s != s') n d
  | .infinite s, .finite s' _ _ => .infinite (s != s')
  | .finite s _ _, .infinite s' => zero (s != s')
  | .infinite _, .infinite _ => .nan

/-- A finite number as an integer count of units `2^q`, for any `q` below its own exponent. -/
def units (s : Bool) (m : Nat) (e q : Int) : Int :=
  let n : Int := m * Nat.pow 2 (e - q).toNat
  if s then -n else n

/-- Difference, rounded. -/
def sub : Binary64 → Binary64 → Binary64
  | .finite s m e, .finite s' m' e' =>
    let q := min e e'
    let n := units s m e q - units s' m' e' q
    let (a, b) := scaleByTwo n.natAbs 1 q
    round (decide (n < 0)) a b
  | .infinite s, .infinite s' => if s = s' then .nan else .infinite s
  | .infinite s, .finite .. => .infinite s
  | .finite .., .infinite s => .infinite !s
  | _, _ => .nan

/-- The number with the other sign. -/
def neg : Binary64 → Binary64
  | .finite s m q => .finite (!s) m q
  | .infinite s => .infinite (!s)
  | .nan => .nan

/-- Sum, rounded. -/
def add (x y : Binary64) : Binary64 := x.sub y.neg

/-- Magnitude. -/
def abs : Binary64 → Binary64
  | .finite _ m q => .finite false m q
  | .infinite _ => .infinite false
  | .nan => .nan

/-- Remainder of truncating division; it has the sign of the dividend and is exact. -/
def rem : Binary64 → Binary64 → Binary64
  | .finite s m e, .finite _ m' e' =>
    if m' = 0 then .nan
    else
      let q := min e e'
      let n := (units false m e q).toNat % (units false m' e' q).toNat
      let (a, b) := scaleByTwo n 1 q
      round s a b
  | .finite s m e, .infinite _ => .finite s m e
  | _, _ => .nan

/-- Whether a finite number has no fractional part. -/
def isIntegral : Binary64 → Bool
  | .finite _ m q => decide (0 ≤ q) || m % Nat.pow 2 (-q).toNat == 0
  | _ => false

/-- The integer part of a finite number, rounded toward zero. -/
def truncate : Binary64 → Option Int
  | .finite s m q =>
    let (n, d) := scaleByTwo m 1 q
    some (if s then -(n / d : Nat) else (n / d : Nat))
  | _ => none

/-- Numeric order; `none` when an operand is not a number. -/
def compare? : Binary64 → Binary64 → Option Ordering
  | .nan, _ => none
  | _, .nan => none
  | .infinite s, .infinite s' =>
    some (if s = s' then .eq else if s then .lt else .gt)
  | .infinite s, .finite .. => some (if s then .lt else .gt)
  | .finite .., .infinite s => some (if s then .gt else .lt)
  | .finite s m e, .finite s' m' e' =>
    let q := min e e'
    some (compare (units s m e q) (units s' m' e' q))

/-- Numeric order of a finite or infinite number against an integer, compared exactly. -/
def compareInt? (x : Binary64) (n : Int) : Option Ordering :=
  match x with
  | .nan => none
  | .infinite s => some (if s then .lt else .gt)
  | .finite s m q =>
    let u := min q 0
    some (compare (units s m q u) (n * Nat.pow 2 (-u).toNat))

/-- Strictly less, false on quantities that are not numbers. -/
def lt (x y : Binary64) : Bool := x.compare? y == some .lt

/-- Numeric equality: the zeros are equal, and what is not a number equals nothing. -/
def numEq (x y : Binary64) : Bool := x.compare? y == some .eq

/-- The gap between one and the next double. -/
def epsilon : Binary64 := round false 1 (Nat.pow 2 52)

end Binary64
/-!
## Reading decimals

Two readings of `significand · 10^exponent`: the nearest double, and the quicker one that first
rounds the significand and then scales it by a power of ten, which may miss the nearest double.
-/

/-- The double nearest to `significand · 10^exponent`. Exponents far outside the range of doubles
are cut to values that give the same answer. -/
def nearest (negative : Bool) (significand digits : Nat) (exponent : Int) : Binary64 :=
  if significand = 0 then Binary64.zero negative
  else if 400 < exponent then .infinite negative
  else if exponent + digits < -400 then Binary64.zero negative
  else
    let (n, d) := scaleByTen significand 1 exponent
    Binary64.round negative n d

/-- The double nearest to a power of ten. -/
def powerOfTen (k : Nat) : Binary64 := Binary64.round false (Nat.pow 10 k) 1

/-- Scales a rounded significand by a power of ten in double arithmetic, `none` when the result
is too large. Exponents below -308 are applied in steps of 308. -/
def scaled (significand : Nat) (exponent : Int) : Option Binary64 :=
  go 8 (Binary64.ofInt significand) exponent
where
  go : Nat → Binary64 → Int → Option Binary64
    | 0, f, _ => some f
    | fuel + 1, f, exponent =>
      if exponent.natAbs ≤ 308 then
        if 0 ≤ exponent then
          let r := f.mul (powerOfTen exponent.toNat)
          if r.isFinite then some r else none
        else some (f.div (powerOfTen (-exponent).toNat))
      else if f == Binary64.zero false then some f
      else if 0 ≤ exponent then none
      else go fuel (f.div (powerOfTen 308)) (exponent + 308)

end AgentManifest.Decimal
