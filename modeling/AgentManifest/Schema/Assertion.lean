import AgentManifest.Decimal.Notation
import AgentManifest.Json.Value
import AgentManifest.Json.Reader
import AgentManifest.Schema.Syntax
import AgentManifest.Text.Utf8

/-!
# Conditions on values

When a value satisfies a condition. A condition on one type of values says nothing on the others.
-/

namespace AgentManifest.Schema

open Decimal (Binary64)

/-!
## Divisibility

Whether a number is a multiple of a divisor. A whole divisor divides whole doubles exactly. Any
other one divides what leaves less than the gap between one and the next double behind the point
of the quotient; where the quotient has no finite double, the shortest decimals are divided.
-/

/-- One. -/
def one : Binary64 := Binary64.round false 1 1

/-- The shortest decimal of a finite double as a fraction. -/
def decimalFraction : Binary64 → Option (Nat × Nat)
  | .finite _ m q =>
    if m = 0 then some (0, 1)
    else
      let d := Decimal.shortest m q
      some (Decimal.scaleByTen (Decimal.ofDigits d.digits) 1 (d.point - d.digits.length))
  | _ => none

/-- Whether one fraction is a whole multiple of another. -/
def dividesFraction (divisor dividend : Nat × Nat) : Bool :=
  dividend.1 * divisor.2 % (dividend.2 * divisor.1) == 0

/-- Whether a divisor divides a number. -/
def divides (divisor : Binary64) (n : Json.Number) : Bool :=
  let x := n.toDouble
  if divisor.isIntegral then x.isIntegral && (x.rem divisor).numEq (Binary64.zero false)
  else
    match (x.div divisor).rem one with
    | .nan =>
      match decimalFraction divisor, decimalFraction x with
      | some a, some b => dividesFraction a b
      | _, _ => false
    | r => r.lt Binary64.epsilon

open Json (Value Number)

/-- Whether a value has a type. -/
def Kind.admits (strict : Bool) : Kind → Value → Bool
  | .array, .array _ => true
  | .boolean, .bool _ => true
  | .integer, .number (.int _) => true
  | .integer, .number (.float x) => !strict && x.isIntegral
  | .null, .null => true
  | .number, .number _ => true
  | .object, .object _ => true
  | .string, .string _ => true
  | _, _ => false

/-- How much a value has of what is counted. -/
def Measure.size? : Measure → Value → Option Nat
  | .characters, .string s => some s.toList.length
  | .items, .array vs => some vs.length
  | .properties, .object ms => some ms.length
  | _, _ => none

/-- Whether a number relates to a limit as it should. -/
def Comparison.admits (c : Comparison) (limit n : Number) : Bool :=
  match n.compare? limit with
  | some o =>
    match c with
    | .atLeast => o != .lt
    | .atMost => o != .gt
    | .above => o == .gt
    | .below => o == .lt
  | none => false

/-- Equality with a constant, where a number may be off by less than the smallest gap above one. -/
def equalsConst : Value → Value → Bool
  | .number a, .number b => a.near b
  | a, b => a.equal b

/-- Whether a text is one value. -/
def isJsonText (s : List Char) : Bool :=
  match Json.readChars s with
  | .ok _ => true
  | .error _ => false

/-- Whether a value satisfies a condition. -/
def Assertion.holds : Assertion → Value → Bool
  | .type kinds strict, v => kinds.any fun k => k.admits strict v
  | .const w, v => equalsConst w v
  | .enum options, v => options.any fun w => w.equal v
  | .count m atLeast limit, v =>
    match m.size? v with
    | some n => if atLeast then decide (limit ≤ n) else decide (n ≤ limit)
    | none => true
  | .bound c limit, v =>
    match v with
    | .number n => c.admits limit n
    | _ => true
  | .multipleOf divisor, v =>
    match v with
    | .number n => divides divisor n
    | _ => true
  | .pattern _ matcher, v =>
    match v with
    | .string s => matcher.occursIn s
    | _ => true
  | .format f, v =>
    match v with
    | .string s => f.admits s
    | _ => true
  | .uniqueItems, v =>
    match v with
    | .array vs => Value.allDistinct vs
    | _ => true
  | .unsatisfiable, _ => false
  | .noMembers, v =>
    match v with
    | .object ms => ms.isEmpty
    | _ => true
  | .noItemsBeyond limit, v =>
    match v with
    | .array vs => decide (vs.length ≤ limit)
    | _ => true
  | .jsonText, v =>
    match v with
    | .string s => isJsonText s.toList
    | _ => true
  | .base64 ofJson, v =>
    match v with
    | .string s =>
      match Text.decodeBase64 s.toList with
      | none => false
      | some bytes =>
        !ofJson ||
          match Text.decode? bytes with
          | some t => isJsonText t
          | none => false
    | _ => true

end AgentManifest.Schema
