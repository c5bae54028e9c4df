import AgentManifest.Proofs.Decimal.Digits
import AgentManifest.Proofs.Json.Contents
import AgentManifest.Yaml.Scalar

/-!
# Plain integers

An integer in decimal digits, as JSON has it, means the same integer as a plain scalar.
-/

namespace AgentManifest.Yaml

open Decimal (digitChar natText intText ofDigits)

lemma digitIn?_digitChar {d : Nat} (h : d < 10) : digitIn? 10 (digitChar d) = some d := by
  revert d
  decide

lemma foldlM_digitChar {ds : List Nat} (hds : ∀ d ∈ ds, d < 10) (n : Nat) :
    (ds.map digitChar).foldlM (fun n c => (digitIn? 10 c).map (n * 10 + ·)) n =
      some (ds.foldl (fun n d => 10 * n + d) n) := by
  induction ds generalizing n with
  | nil => rfl
  | cons d ds ih =>
    rw [List.forall_mem_cons] at hds
    rw [List.map_cons, List.foldlM_cons, digitIn?_digitChar hds.1, List.foldl_cons,
      Nat.mul_comm 10 n]
    exact ih hds.2 (n * 10 + d)

/-- A natural number is spelt by its digits. -/
lemma digitsIn?_natText (n : Nat) : digitsIn? 10 (natText n) = some n := by
  by_cases hn : n = 0
  · subst hn
    rfl
  · obtain ⟨d, ds, hds, -, htext⟩ := Decimal.natText_of_ne_zero hn
    have hlt : ∀ e ∈ d :: ds, e < 10 := fun e he => Decimal.digit_lt_ten (hds ▸ he)
    have hvalue : ofDigits (d :: ds) = n := hds ▸ Decimal.ofDigits_natDigits n
    rw [htext, ← List.map_cons, digitsIn?, if_neg (by simp), foldlM_digitChar hlt, ← ofDigits, hvalue]

lemma marked?_digits {s : List Char} (h : ∀ c ∈ s, c.isDigit = true) : marked? s = none := by
  unfold marked?
  split
  case h_1 => exact absurd (h 'x' (by simp)) (by decide)
  case h_2 => exact absurd (h 'o' (by simp)) (by decide)
  case h_3 => exact absurd (h 'b' (by simp)) (by decide)
  case h_4 => rfl

/-- There are no zeros in front of a number. -/
lemma isPaddedDigits_of_unsigned {s : List Char} {n : Nat} (h : unsigned s = natText n) :
    isPaddedDigits s = false := by
  rw [isPaddedDigits, h]
  by_cases hn : n = 0
  · subst hn
    rfl
  · obtain ⟨d, ds, hds, hd, htext⟩ := Decimal.natText_of_ne_zero hn
    rw [htext]
    split
    case h_1 heq =>
      have hzero := (Decimal.digitChar_eq_zero_iff
        (Decimal.digit_lt_ten (hds ▸ List.mem_cons_self))).mp (List.cons.inj heq).1
      exact absurd hzero hd
    case h_2 => rfl

/-- The digits of a number are not signs. -/
lemma natText_unsigned (n : Nat) : unsigned (natText n) = natText n := by
  obtain ⟨c, cs, htext, hc⟩ := Decimal.exists_natText_eq_cons n
  rw [htext]
  unfold unsigned
  split
  case h_1 heq =>
    cases heq
    cases hc
  case h_2 heq =>
    cases heq
    cases hc
  case h_3 => rfl

lemma natural?_natText (n : Nat) : natural? (natText n) = some n := by
  have hdigits : ∀ c ∈ natText n, c.isDigit = true := fun c hc => Decimal.isDigit_of_mem_natText hc
  have hpadded := isPaddedDigits_of_unsigned (natText_unsigned n)
  have hplus : ∀ rest, natText n ≠ '+' :: rest := by
    intro rest heq
    exact absurd (hdigits '+' (heq ▸ List.mem_cons_self)) (by decide)
  unfold natural?
  split
  case h_1 rest heq => exact absurd heq (hplus rest)
  case h_2 =>
    simp only [marked?_digits hdigits, hpadded, Bool.false_eq_true, if_false]
    exact digitsIn?_natText n

lemma negative?_natText (n : Nat) : negative? ('-' :: natText n) = some n := by
  have hdigits : ∀ c ∈ natText n, c.isDigit = true := fun c hc => Decimal.isDigit_of_mem_natText hc
  rw [negative?, marked?_digits hdigits, isPaddedDigits_of_unsigned (natText_unsigned n)]
  exact digitsIn?_natText n

lemma natural?_minus (n : Nat) : natural? ('-' :: natText n) = none := by
  have hpadded : isPaddedDigits ('-' :: natText n) = false := isPaddedDigits_of_unsigned rfl
  have hmarked : marked? ('-' :: natText n) = none := rfl
  have hdigits : digitsIn? 10 ('-' :: natText n) = none := rfl
  simp [natural?, hmarked, hpadded, hdigits]

/-- An integer of one of the 64-bit types is what its digits stand for. -/
lemma integer?_intText {n : Int} (h : (Json.Number.int n).IsWord) :
    integer? (intText n) = some (.int n) := by
  obtain ⟨hlow, hhigh⟩ := h
  have h63 : Nat.pow 2 63 = 2 ^ 63 := rfl
  have h64 : Nat.pow 2 64 = 2 ^ 64 := rfl
  rw [intText]
  split
  case isTrue hneg =>
    rw [integer?, natural?_minus, negative?_natText]
    dsimp only
    rw [if_pos (by omega), Option.some.injEq, Meaning.int.injEq]
    omega
  case isFalse hneg =>
    rw [integer?, natural?_natText]
    dsimp only
    rw [if_pos (by omega), Option.some.injEq, Meaning.int.injEq]
    omega

/-- A plain scalar in the digits of an integer is that integer. -/
theorem plainMeaning_intText {n : Int} (h : (Json.Number.int n).IsWord) :
    plainMeaning (intText n) = .int n := by
  obtain ⟨c, cs, htext, hc⟩ : ∃ c cs, intText n = c :: cs ∧ (c.isDigit = true ∨ c = '-') := by
    rw [intText]
    split
    case isTrue => exact ⟨'-', _, rfl, .inr rfl⟩
    case isFalse =>
      obtain ⟨c, cs, htext, hc⟩ := Decimal.exists_natText_eq_cons n.natAbs
      exact ⟨c, cs, htext, .inl hc⟩
  have hne (d : Char) (hd : ¬(d.isDigit = true ∨ d = '-')) : c ≠ d := fun heq => hd (heq ▸ hc)
  have hnull : isNullWord (c :: cs) = false := by
    simp [isNullWord, hne '~' (by decide), hne 'n' (by decide), hne 'N' (by decide)]
  have hbool : boolWord? (c :: cs) = none := by
    simp [boolWord?, hne 't' (by decide), hne 'T' (by decide), hne 'f' (by decide),
      hne 'F' (by decide)]
  have hinteger := integer?_intText h
  rw [htext] at hinteger ⊢
  simp [plainMeaning, hnull, hbool, hinteger]

end AgentManifest.Yaml
