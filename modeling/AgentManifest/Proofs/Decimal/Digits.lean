import Mathlib.Data.Nat.Digits.Lemmas
import AgentManifest.Decimal.Notation

/-!
# Integers in decimal

An integer is written in its decimal digits, without leading zeros, and behind a minus sign if it is
negative.
-/

namespace AgentManifest.Decimal

/-! ## Digits -/

lemma natDigits_go {fuel n : Nat} (h : n < 2 ^ fuel) (acc : List Nat) :
    natDigits.go fuel n acc = (Nat.digits 10 n).reverse ++ acc := by
  induction fuel generalizing n acc with
  | zero =>
    obtain rfl : n = 0 := by omega
    rfl
  | succ fuel ih =>
    rw [natDigits.go]
    split
    case isTrue hn => simp [hn]
    case isFalse hn =>
      rw [ih (by omega), Nat.digits_def' (by decide) (Nat.pos_of_ne_zero hn), List.reverse_cons,
        List.append_assoc, List.singleton_append]

/-- The digits of a number in decimal, the most significant one first. -/
lemma natDigits_eq (n : Nat) : natDigits n = (Nat.digits 10 n).reverse := by
  rw [natDigits, natDigits_go Nat.lt_log2_self, List.append_nil]

lemma digit_lt_ten {n d : Nat} (h : d ∈ natDigits n) : d < 10 := by
  rw [natDigits_eq, List.mem_reverse] at h
  exact Nat.digits_lt_base (by decide) h

lemma ofDigits_natDigits (n : Nat) : ofDigits (natDigits n) = n := by
  rw [ofDigits, natDigits_eq, List.foldl_reverse]
  have hvalue := Nat.ofDigits_digits 10 n
  rw [Nat.ofDigits_eq_foldr] at hvalue
  simpa [Nat.add_comm] using hvalue

/-- The first digit of a number is not zero. -/
lemma head_natDigits_ne_zero {n d : Nat} {ds : List Nat} (h : natDigits n = d :: ds) : d ≠ 0 := by
  have hn : n ≠ 0 := by
    rintro rfl
    simp [natDigits_eq] at h
  rw [natDigits_eq, List.reverse_eq_cons_iff] at h
  have hlast := Nat.getLast_digit_ne_zero 10 hn
  simpa [h] using hlast

/-! ## Characters -/

lemma isDigit_digitChar {d : Nat} (h : d < 10) : (digitChar d).isDigit = true := by
  revert d
  decide

lemma toNat_digitChar {d : Nat} (h : d < 10) : (digitChar d).toNat - '0'.toNat = d := by
  revert d
  decide

lemma digitChar_eq_zero_iff {d : Nat} (h : d < 10) : digitChar d = '0' ↔ d = 0 := by
  revert d
  decide

/-- Zero is written as one digit. -/
lemma natText_zero : natText 0 = ['0'] := rfl

/-- Any other number is written in its digits, the first of which is not zero. -/
lemma natText_of_ne_zero {n : Nat} (h : n ≠ 0) :
    ∃ d ds, natDigits n = d :: ds ∧ d ≠ 0 ∧ natText n = digitChar d :: ds.map digitChar := by
  cases hds : natDigits n with
  | nil =>
    have hn := ofDigits_natDigits n
    rw [hds] at hn
    exact absurd hn.symm h
  | cons d ds => exact ⟨d, ds, rfl, head_natDigits_ne_zero hds, by simp [natText, hds]⟩

lemma isDigit_of_mem_natText {n : Nat} {c : Char} (h : c ∈ natText n) : c.isDigit = true := by
  by_cases hn : n = 0
  · subst hn
    rw [natText_zero, List.mem_singleton] at h
    subst h
    rfl
  · obtain ⟨d, ds, hds, -, htext⟩ := natText_of_ne_zero hn
    rw [htext, ← List.map_cons, List.mem_map, ← hds] at h
    obtain ⟨e, he, rfl⟩ := h
    exact isDigit_digitChar (digit_lt_ten he)

/-- A natural number starts with a digit. -/
lemma exists_natText_eq_cons (n : Nat) :
    ∃ c cs, natText n = c :: cs ∧ c.isDigit = true := by
  cases htext : natText n with
  | nil =>
    rw [natText] at htext
    split at htext <;> simp_all
  | cons c cs => exact ⟨c, cs, rfl, isDigit_of_mem_natText (htext ▸ List.mem_cons_self)⟩

end AgentManifest.Decimal
