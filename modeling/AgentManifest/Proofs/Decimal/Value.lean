import Mathlib.Data.Rat.Cast.Order
import Mathlib.Algebra.Order.Field.Power
import Mathlib.Order.Compare
import Mathlib.Tactic.Positivity
import Mathlib.Tactic.FieldSimp
import Mathlib.Tactic.Ring
import AgentManifest.Json.Value

/-!
# Exact values of numbers

A finite double stands for the rational number `± m · 2^q`. Comparison with an integer compares
these values, and a double has no fractional part exactly if its value is an integer.
-/

namespace AgentManifest.Decimal.Binary64

/-- The magnitude `m · 2^q` with its sign. -/
def magnitude (s : Bool) (m : Nat) (q : Int) : ℚ := (if s then -1 else 1) * m * 2 ^ q

/-- The value of a finite double. -/
def value? : Binary64 → Option ℚ
  | .finite s m q => some (magnitude s m q)
  | _ => none

/-- A number of units below the exponent makes up the value. -/
lemma units_eq (s : Bool) (m : Nat) {e q : Int} (h : q ≤ e) :
    (units s m e q : ℚ) = magnitude s m e * 2 ^ (-q) := by
  have exponent : ((e - q).toNat : Int) = e + -q := by omega
  have power : (2 : ℚ) ^ (e - q).toNat = 2 ^ e * 2 ^ (-q) := by
    rw [← zpow_natCast, exponent, zpow_add₀ two_ne_zero]
  rw [units, magnitude, Nat.pow_eq]
  cases s <;> push_cast <;> rw [power] <;> simp <;> ring

/-- A finite double is compared with an integer by its value. -/
lemma compareInt?_finite (s : Bool) (m : Nat) (q n : Int) :
    (finite s m q).compareInt? n = some (compare (magnitude s m q) (n : ℚ)) := by
  have mono : StrictMono fun k : Int => (k : ℚ) * 2 ^ min q 0 := by
    intro a b less
    exact mul_lt_mul_of_pos_right (Int.cast_lt.mpr less) (by positivity)
  have left : (units s m q (min q 0) : ℚ) * 2 ^ min q 0 = magnitude s m q := by
    rw [units_eq s m (min_le_left q 0), mul_assoc, ← zpow_add₀ two_ne_zero, neg_add_cancel,
      zpow_zero, mul_one]
  have right : ((n * Nat.pow 2 (-min q 0).toNat : Int) : ℚ) * 2 ^ min q 0 = n := by
    have exponent : ((-min q 0).toNat : Int) = -min q 0 := by omega
    rw [Nat.pow_eq]
    push_cast
    rw [← zpow_natCast, exponent, mul_assoc, ← zpow_add₀ two_ne_zero, neg_add_cancel, zpow_zero,
      mul_one]
  have same := mono.cmp_map_eq (units s m q (min q 0)) (n * Nat.pow 2 (-min q 0).toNat)
  rw [left, right] at same
  rw [compareInt?, ← cmp_eq_compare, ← cmp_eq_compare, same]

/-- A finite double has no fractional part exactly if its value is an integer. -/
lemma isIntegral_finite_iff (s : Bool) (m : Nat) (q : Int) :
    (finite s m q).isIntegral = true ↔ ∃ k : Int, magnitude s m q = k := by
  rw [isIntegral, Nat.pow_eq, Bool.or_eq_true, decide_eq_true_eq, beq_iff_eq]
  by_cases h : 0 ≤ q
  · refine iff_of_true (.inl h) ⟨units s m q 0, ?_⟩
    rw [units_eq s m h, neg_zero, zpow_zero, mul_one]
  · have value : magnitude s m q * (2 ^ (-q).toNat : Nat) = units s m q q := by
      rw [units_eq s m le_rfl]
      push_cast
      rw [← zpow_natCast, show ((-q).toNat : Int) = -q from by omega]
    have divides : m % 2 ^ (-q).toNat = 0 ↔ ((2 ^ (-q).toNat : Nat) : Int) ∣ units s m q q := by
      have sign : (units s m q q).natAbs = m := by
        cases s <;> simp [units]
      rw [Int.natCast_dvd, sign, Nat.dvd_iff_mod_eq_zero]
    have positive : ((2 ^ (-q).toNat : Nat) : ℚ) ≠ 0 := by positivity
    rw [or_iff_right h, divides]
    constructor
    · rintro ⟨k, hk⟩
      refine ⟨k, mul_right_cancel₀ positive ?_⟩
      rw [value, hk, mul_comm, Int.cast_mul, Int.cast_natCast]
    · rintro ⟨k, hk⟩
      rw [hk] at value
      refine ⟨k, ?_⟩
      rw [mul_comm]
      exact_mod_cast value.symm

end AgentManifest.Decimal.Binary64

namespace AgentManifest.Json.Number

open Decimal (Binary64)

/-- The value of a number, if it is finite. -/
def value? : Number → Option ℚ
  | .int n => some n
  | .float x => x.value?

/-- A number that has a value is compared with an integer by its value. -/
lemma compare?_int {a : Number} {x : ℚ} (h : a.value? = some x) (n : Int) :
    a.compare? (.int n) = some (compare x (n : ℚ)) := by
  cases a with
  | int m =>
    cases h
    rw [compare?, ← cmp_eq_compare, ← cmp_eq_compare, Int.cast_strictMono.cmp_map_eq]
  | float y =>
    cases y with
    | finite s m q => cases h; exact Binary64.compareInt?_finite s m q n
    | infinite s => cases h
    | nan => cases h

end AgentManifest.Json.Number
