import Mathlib.Algebra.Ring.Parity
import Mathlib.Data.List.TakeWhile
import Mathlib.Tactic.Linarith
import AgentManifest.Proofs.Decimal.Digits
import AgentManifest.Proofs.Decimal.Value

/-!
# One decimal place

A fraction is shown with one decimal by its nearest number of tenths, a tie going to the even one.
What is shown determines the number of tenths, is within half a tenth of the fraction, and does not
decrease where the fraction grows.
-/

namespace AgentManifest.Decimal

/-! ## The nearest natural number -/

/-- A natural number is nearest to a rational number, and even where another is as near. -/
structure IsNearest (x : ℚ) (k : Nat) : Prop where
  within : |x - k| ≤ 1 / 2
  even_of_tie : |x - k| = 1 / 2 → Even k

variable {x y : ℚ} {a b k : Nat}

/-- The nearest natural number does not decrease where the number grows. -/
lemma IsNearest.mono (ha : IsNearest x a) (hb : IsNearest y b) (h : x ≤ y) : a ≤ b := by
  by_contra hlt
  have step : (b : ℚ) + 1 ≤ a := by exact_mod_cast Nat.lt_of_not_le hlt
  have above : a - 1 / 2 ≤ x := by linarith [(abs_le.mp ha.within).1]
  have below : y ≤ b + 1 / 2 := by linarith [(abs_le.mp hb.within).2]
  -- There is no room left: both numbers lie half way between neighbours, which would both be even.
  have hx : x - a = -(1 / 2) := by linarith
  have hy : y - b = 1 / 2 := by linarith
  have even_a : Even a := ha.even_of_tie (by rw [hx, abs_neg]; norm_num)
  have even_b : Even b := hb.even_of_tie (by rw [hy]; norm_num)
  have succ : a = b + 1 := by
    have : (a : ℚ) = b + 1 := by linarith
    exact_mod_cast this
  rw [succ] at even_a
  exact absurd even_b (Nat.even_add_one.mp even_a)

lemma IsNearest.unique (ha : IsNearest x a) (hb : IsNearest x b) : a = b :=
  Nat.le_antisymm (ha.mono hb le_rfl) (hb.mono ha le_rfl)

/-- What division leaves over, as a part of the divisor. -/
lemma div_sub_quotient (num : Nat) {den : Nat} (h : 0 < den) :
    (num : ℚ) / den - (num / den : Nat) = (num % den : Nat) / den := by
  have split : (num : ℚ) = den * (num / den : Nat) + (num % den : Nat) := by
    exact_mod_cast (Nat.div_add_mod num den).symm
  have positive : (den : ℚ) ≠ 0 := by exact_mod_cast h.ne'
  rw [sub_eq_iff_eq_add, div_eq_iff positive, add_mul, div_mul_cancel₀ _ positive]
  linarith

/-- Rounded division gives the nearest natural number. -/
lemma isNearest_roundDiv (num : Nat) {den : Nat} (h : 0 < den) :
    IsNearest ((num : ℚ) / den) (roundDiv num den) := by
  have positive : (0 : ℚ) < den := by exact_mod_cast h
  have rest := div_sub_quotient num h
  have nonneg : (0 : ℚ) ≤ (num % den : Nat) / den := by positivity
  have lt_one : ((num % den : Nat) : ℚ) / den < 1 := by
    rw [div_lt_one positive]
    exact_mod_cast Nat.mod_lt num h
  rw [roundDiv]
  split
  case isTrue hlow =>
    -- Less than half is left over, so there is no tie.
    have below : ((num % den : Nat) : ℚ) / den < 1 / 2 := by
      rw [div_lt_div_iff₀ positive two_pos]
      exact_mod_cast (by omega : num % den * 2 < 1 * den)
    rw [← rest] at nonneg below
    exact ⟨by rw [abs_of_nonneg nonneg]; exact below.le,
      fun tie => by rw [abs_of_nonneg nonneg] at tie; exact absurd tie below.ne⟩
  case isFalse hlow =>
  split
  case isTrue hhigh =>
    have above : 1 / 2 < ((num % den : Nat) : ℚ) / den := by
      rw [div_lt_div_iff₀ two_pos positive]
      exact_mod_cast (by omega : 1 * den < num % den * 2)
    have next : (num : ℚ) / den - (num / den + 1 : Nat) = (num % den : Nat) / den - 1 := by
      rw [← rest]
      push_cast
      ring
    have negative : ((num % den : Nat) : ℚ) / den - 1 < 0 := by linarith
    refine ⟨?_, fun tie => ?_⟩
    · rw [next, abs_of_neg negative]
      linarith
    · rw [next, abs_of_neg negative] at tie
      exact absurd tie (by linarith)
  case isFalse hhigh =>
    have half : ((num % den : Nat) : ℚ) / den = 1 / 2 := by
      rw [div_eq_div_iff positive.ne' two_ne_zero]
      exact_mod_cast (by omega : num % den * 2 = 1 * den)
    rw [half] at rest
    split
    case isTrue heven =>
      exact ⟨by rw [rest, abs_of_pos one_half_pos], fun _ => Nat.even_iff.mpr heven⟩
    case isFalse hodd =>
      have next : (num : ℚ) / den - (num / den + 1 : Nat) = -(1 / 2) := by
        push_cast
        linarith
      exact ⟨by rw [next, abs_neg, abs_of_pos one_half_pos],
        fun _ => Nat.even_add_one.mpr (by rwa [Nat.even_iff])⟩

/-! ## Integers as doubles -/

lemma scaleByTwo_of_nonneg (num den k : Nat) : scaleByTwo num den k = (num * 2 ^ k, den) := by
  rw [scaleByTwo, if_pos (Int.natCast_nonneg k), Int.toNat_natCast, Nat.pow_eq]

/-- Scaling multiplies the fraction by a power of two. -/
lemma scaleByTwo_value (num den : Nat) (k : Int) :
    ((scaleByTwo num den k).1 : ℚ) / (scaleByTwo num den k).2 = num * 2 ^ k / den := by
  rw [scaleByTwo, Nat.pow_eq, Nat.pow_eq]
  split
  case isTrue h =>
    push_cast
    rw [← zpow_natCast, Int.toNat_of_nonneg h]
  case isFalse h =>
    push_cast
    rw [← zpow_natCast, Int.toNat_of_nonneg (by omega), zpow_neg]
    field_simp

lemma scaleByTwo_snd_pos (num : Nat) {den : Nat} (h : 0 < den) (k : Int) :
    0 < (scaleByTwo num den k).2 := by
  rw [scaleByTwo, Nat.pow_eq, Nat.pow_eq]
  split
  case isTrue => exact h
  case isFalse => exact Nat.mul_pos h (Nat.two_pow_pos _)

lemma roundDiv_one (n : Nat) : roundDiv n 1 = n := by
  rw [roundDiv, Nat.mod_one, Nat.mul_zero, if_pos Nat.one_pos, Nat.div_one]

namespace Binary64

/-- A positive integer below `2^53` has a unit that leaves it whole. -/
lemma unitExponent_nat {n : Nat} (h : n ≠ 0) (hn : n < 2 ^ 53) :
    unitExponent n 1 = -((52 - n.log2 : Nat) : Int) := by
  have small : n.log2 < 53 := (Nat.log2_lt h).mpr hn
  have low : 2 ^ n.log2 ≤ n := Nat.log2_self_le h
  have exponent : max ((n.log2 : Int) - (Nat.log2 1 : Nat) - 53) minExponent =
      -((53 - n.log2 : Nat) : Int) := by
    rw [minExponent, show Nat.log2 1 = 0 from rfl]
    omega
  -- The first try has one bit too many.
  have long : ¬ n * 2 ^ (53 - n.log2) / 1 < Nat.pow 2 53 := by
    rw [Nat.div_one, not_lt, Nat.pow_eq]
    calc 2 ^ 53 = 2 ^ n.log2 * 2 ^ (53 - n.log2) := by rw [← pow_add]; congr 1; omega
      _ ≤ n * 2 ^ (53 - n.log2) := Nat.mul_le_mul_right _ low
  simp only [unitExponent, exponent, neg_neg, scaleByTwo_of_nonneg, if_neg long]
  omega

/-- An integer below `2^53` is a double. -/
lemma ofInt_nat {n : Nat} (hn : n < 2 ^ 53) :
    ∃ m q, ofInt n = .finite false m q ∧ (m : ℚ) * 2 ^ q = n := by
  have sign : decide ((n : Int) < 0) = false := decide_eq_false (by omega)
  rw [ofInt, sign, Int.natAbs_natCast, round]
  by_cases h : n = 0
  · subst h
    exact ⟨0, minExponent, rfl, by simp⟩
  · have small : n.log2 < 53 := (Nat.log2_lt h).mpr hn
    have fits : n * 2 ^ (52 - n.log2) < Nat.pow 2 53 := by
      rw [Nat.pow_eq]
      calc n * 2 ^ (52 - n.log2) < 2 ^ (n.log2 + 1) * 2 ^ (52 - n.log2) :=
            Nat.mul_lt_mul_of_pos_right Nat.lt_log2_self (Nat.two_pow_pos _)
        _ = 2 ^ 53 := by rw [← pow_add]; congr 1; omega
    have finite : ¬ maxExponent < -((52 - n.log2 : Nat) : Int) := by
      rw [maxExponent]
      omega
    refine ⟨n * 2 ^ (52 - n.log2), -((52 - n.log2 : Nat) : Int), ?_, ?_⟩
    · rw [if_neg h, unitExponent_nat h hn]
      simp only [neg_neg, scaleByTwo_of_nonneg, roundDiv_one, if_pos fits, if_neg finite]
    · push_cast
      rw [zpow_neg, zpow_natCast, mul_assoc, mul_inv_cancel₀ (by positivity), mul_one]

end Binary64

/-! ## Tenths -/

/-- A number of tenths as a decimal. -/
def tenthsText (tenths : Nat) : String :=
  String.ofList (natText (tenths / 10) ++ ['.', digitChar (tenths % 10)])

/-- A text shows a number rounded to one decimal, a tie going to the even digit. -/
def IsRounded (x : ℚ) (text : String) : Prop :=
  ∃ tenths, IsNearest (10 * x) tenths ∧ text = tenthsText tenths

/-- There is one text that shows a number rounded to one decimal. -/
lemma IsRounded.unique {s t : String} (hs : IsRounded x s) (ht : IsRounded x t) : s = t := by
  obtain ⟨a, ha, rfl⟩ := hs
  obtain ⟨b, hb, rfl⟩ := ht
  rw [ha.unique hb]

/-- A fraction is written rounded to one decimal. -/
lemma isRounded_oneDecimal (num : Nat) {den : Nat} (h : 0 < den) :
    IsRounded ((num : ℚ) / den) (String.ofList (oneDecimal num den)) := by
  refine ⟨roundDiv (10 * num) den, ?_, rfl⟩
  have nearest := isNearest_roundDiv (10 * num) h
  rwa [Nat.cast_mul, Nat.cast_ofNat, mul_div_assoc] at nearest

/-! ## Reading what is shown -/

/-- The natural number that the digits of a text spell. -/
def digitsValue (cs : List Char) : Nat := ofDigits (cs.map fun c => c.toNat - '0'.toNat)

/-- The number that a text of digits stands for, with or without a decimal point. -/
def decimalValue (text : String) : ℚ :=
  let whole := text.toList.takeWhile (· ≠ '.')
  let decimals := (text.toList.dropWhile (· ≠ '.')).drop 1
  digitsValue (whole ++ decimals) / 10 ^ decimals.length

lemma digitsValue_natText (n : Nat) : digitsValue (natText n) = n := by
  by_cases hn : n = 0
  · subst hn
    rfl
  · obtain ⟨d, ds, hds, -, htext⟩ := natText_of_ne_zero hn
    have digits : (natDigits n).map ((fun c => c.toNat - '0'.toNat) ∘ digitChar) = natDigits n :=
      (List.map_congr_left fun e he => toNat_digitChar (digit_lt_ten he)).trans (List.map_id _)
    rw [htext, ← List.map_cons, ← hds, digitsValue, List.map_map, digits, ofDigits_natDigits]

lemma digitsValue_concat (cs : List Char) (c : Char) :
    digitsValue (cs ++ [c]) = 10 * digitsValue cs + (c.toNat - '0'.toNat) := by
  rw [digitsValue, ofDigits, List.map_append, List.foldl_append]
  rfl

/-- There is no point in a natural number. -/
lemma ne_point_of_mem_natText {n : Nat} : ∀ c ∈ natText n, decide (c ≠ '.') = true := by
  rintro c hc
  rw [decide_eq_true_eq]
  rintro rfl
  exact absurd (isDigit_of_mem_natText hc) (by decide)

/-- An integer without a point stands for itself. -/
lemma decimalValue_natString (n : Nat) : decimalValue (natString n) = n := by
  rw [decimalValue, natString, String.toList_ofList,
    List.takeWhile_eq_self_iff.mpr ne_point_of_mem_natText,
    List.dropWhile_eq_nil_iff.mpr ne_point_of_mem_natText, List.drop_nil, List.append_nil,
    digitsValue_natText, List.length_nil, pow_zero, div_one]

/-- A number of tenths stands for these. -/
lemma decimalValue_tenthsText (tenths : Nat) : decimalValue (tenthsText tenths) = tenths / 10 := by
  have parts : 10 * (tenths / 10) + tenths % 10 = tenths := Nat.div_add_mod tenths 10
  rw [decimalValue, tenthsText, String.toList_ofList,
    List.takeWhile_append_of_pos ne_point_of_mem_natText,
    List.dropWhile_append_of_pos ne_point_of_mem_natText,
    List.takeWhile_cons_of_neg (by decide), List.dropWhile_cons_of_neg (by decide),
    List.drop_one, List.tail_cons, List.append_nil, digitsValue_concat, digitsValue_natText,
    toNat_digitChar (Nat.mod_lt _ (by decide)), parts, List.length_singleton, pow_one]

/-- What is shown is within half a tenth. -/
lemma IsRounded.near {text : String} (h : IsRounded x text) :
    |decimalValue text - x| ≤ 1 / 20 := by
  obtain ⟨tenths, nearest, rfl⟩ := h
  have within := abs_le.mp nearest.within
  rw [decimalValue_tenthsText, abs_le]
  constructor <;> linarith [within.1, within.2]

/-- What is shown does not decrease where the number grows. -/
lemma IsRounded.mono {s t : String} (hs : IsRounded x s) (ht : IsRounded y t) (h : x ≤ y) :
    decimalValue s ≤ decimalValue t := by
  obtain ⟨a, ha, rfl⟩ := hs
  obtain ⟨b, hb, rfl⟩ := ht
  have le : (a : ℚ) ≤ b := by exact_mod_cast ha.mono hb (by linarith)
  rw [decimalValue_tenthsText, decimalValue_tenthsText]
  linarith

/-- A whole number is shown rounded as itself, so nothing above it is shown smaller. -/
lemma IsRounded.natCast_le {k : Nat} {text : String} (h : IsRounded x text) (hk : (k : ℚ) ≤ x) :
    (k : ℚ) ≤ decimalValue text := by
  obtain ⟨tenths, nearest, rfl⟩ := h
  have whole : IsNearest (10 * (k : ℚ)) (10 * k) := by
    refine ⟨by push_cast; norm_num, fun tie => ?_⟩
    rw [Nat.cast_mul, Nat.cast_ofNat, sub_self, abs_zero] at tie
    exact absurd tie (by norm_num)
  have le : ((10 * k : Nat) : ℚ) ≤ tenths := by
    exact_mod_cast whole.mono nearest (by linarith)
  push_cast at le
  rw [decimalValue_tenthsText]
  linarith

end AgentManifest.Decimal
