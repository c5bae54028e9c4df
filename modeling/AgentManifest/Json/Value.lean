import AgentManifest.Decimal.Binary64

/-!
# JSON values

The tree that manifests, schemas and reports are made of. An object is a list of members; the
operations below keep the names strictly increasing, which `Value.WellFormed` states.
-/

namespace AgentManifest.Json

open Decimal (Binary64)

/-- A number is an integer or a double; `1` and `1.0` are different numbers. -/
inductive Number where
  | int (n : Int)
  | float (x : Binary64)
  deriving DecidableEq, Repr, Inhabited

/-- A JSON value. -/
inductive Value where
  | null
  | bool (b : Bool)
  | number (n : Number)
  | string (s : String)
  | array (items : List Value)
  | object (members : List (String × Value))
  deriving Inhabited

/-- The members of an object. -/
abbrev Members := List (String × Value)

namespace Number

/-- The nearest double. -/
def toDouble : Number → Binary64
  | .int n => Binary64.ofInt n
  | .float x => x

/-- Exact numeric order. -/
def compare? : Number → Number → Option Ordering
  | .int m, .int n => some (compare m n)
  | .int m, .float y => (y.compareInt? m).map Ordering.swap
  | .float x, .int n => x.compareInt? n
  | .float x, .float y => x.compare? y

end Number

namespace Members

/-- The value under a name. -/
def get? : Members → String → Option Value
  | [], _ => none
  | (k, v) :: ms, key => if k = key then some v else get? ms key

/-- Whether a name is present. -/
def contains (ms : Members) (key : String) : Bool := (get? ms key).isSome

/-- Puts a value under a name, at its place in the order of names, replacing an older value. -/
def insert : Members → String → Value → Members
  | [], key, v => [(key, v)]
  | (k, w) :: ms, key, v =>
    match compare key k with
    | .lt => (key, v) :: (k, w) :: ms
    | .eq => (key, v) :: ms
    | .gt => (k, w) :: insert ms key v

/-- Removes a name. -/
def erase : Members → String → Members
  | [], _ => []
  | (k, v) :: ms, key => if k = key then ms else (k, v) :: erase ms key

/-- The members of a list of pairs; of two pairs with one name the later counts. -/
def ofList (pairs : List (String × Value)) : Members :=
  pairs.foldl (fun ms p => insert ms p.1 p.2) []

/-- The names, in order. -/
def names (ms : Members) : List String := ms.map Prod.fst

end Members

namespace Value

/-- The value under a name, for an object that has it. -/
def get? : Value → String → Option Value
  | .object ms, key => Members.get? ms key
  | _, _ => none

/-- The text of a string value. -/
def string? : Value → Option String
  | .string s => some s
  | _ => none

/-- An integer value. -/
def int (n : Int) : Value := .number (.int n)

/-- A natural number as a value. -/
def nat (n : Nat) : Value := .number (.int n)

mutual

/-- The names of every object in the tree are strictly increasing. -/
def WellFormed : Value → Prop
  | .array items => WellFormedItems items
  | .object members => (members.map Prod.fst).Pairwise (· < ·) ∧ WellFormedMembers members
  | _ => True

/-- Every item is well formed. -/
def WellFormedItems : List Value → Prop
  | [] => True
  | v :: vs => WellFormed v ∧ WellFormedItems vs

/-- Every member's value is well formed. -/
def WellFormedMembers : List (String × Value) → Prop
  | [] => True
  | (_, v) :: ms => WellFormed v ∧ WellFormedMembers ms

end

mutual

/-- How many arrays and objects lie on the longest way down. -/
def nesting : Value → Nat
  | .array items => nestingItems items + 1
  | .object members => nestingMembers members + 1
  | _ => 0

/-- The deepest nesting among items. -/
def nestingItems : List Value → Nat
  | [] => 0
  | v :: vs => max (nesting v) (nestingItems vs)

/-- The deepest nesting among members. -/
def nestingMembers : List (String × Value) → Nat
  | [] => 0
  | (_, v) :: ms => max (nesting v) (nestingMembers ms)

end

end Value

/-! ## Equality

Two values are equal if they differ at most in how their numbers are represented. A finer relation
also tells apart what is written differently as a double, which are the two zeros.
-/

/-- Exact equality of numbers. -/
def Number.equal (a b : Number) : Bool := a.compare? b == some .eq

/-- Equality of numbers whose doubles are also the same. -/
def Number.alike (a b : Number) : Bool := a.equal b && a.toDouble == b.toDouble

/-- Equality of numbers up to the gap between one and the next double. -/
def Number.near (a b : Number) : Bool :=
  (a.toDouble.sub b.toDouble).abs.lt Decimal.Binary64.epsilon

namespace Value

mutual

/-- Equality of values up to a relation of numbers. -/
def equalBy (same : Number → Number → Bool) : Value → Value → Bool
  | .null, .null => true
  | .bool a, .bool b => a == b
  | .number a, .number b => same a b
  | .string a, .string b => a == b
  | .array as, .array bs => equalItems same as bs
  | .object as, .object bs => as.length == bs.length && equalMembers same as bs
  | _, _ => false

/-- Equality of items, one by one. -/
def equalItems (same : Number → Number → Bool) : List Value → List Value → Bool
  | [], [] => true
  | a :: as, b :: bs => equalBy same a b && equalItems same as bs
  | _, _ => false

/-- Whether each member has an equal one of the same name. -/
def equalMembers (same : Number → Number → Bool) :
    List (String × Value) → List (String × Value) → Bool
  | [], _ => true
  | (k, a) :: as, bs =>
    (match Members.get? bs k with
      | some b => equalBy same a b
      | none => false) && equalMembers same as bs

end

/-- Equality of values. -/
def equal : Value → Value → Bool := equalBy Number.equal

/-- The greatest length of a list in which the two zeros count as one value. -/
def shortList : Nat := 15

/-- Whether no two values of a list are related. -/
def pairwiseApart (related : Value → Value → Bool) : List Value → Bool
  | [] => true
  | v :: vs => !vs.any (related v) && pairwiseApart related vs

/-- Whether no two values of a list are equal. -/
def allDistinct (vs : List Value) : Bool :=
  pairwiseApart (if vs.length ≤ shortList then equal else equalBy Number.alike) vs

end Value

end AgentManifest.Json
