import Mathlib.Data.Nat.Cast.Field
import Mathlib.Tactic.NormNum
import AgentManifest.Lint.Checks
import AgentManifest.Proofs.Decimal.Rounding

/-!
# What is said of a large file

A file is warned of if it has more bytes than the limit. The message names its size in kilobytes
with one decimal and the limit, which has no decimal if it is a whole number of kilobytes. Although
the two are written in different ways, the size is never shown smaller than the limit.
-/

namespace AgentManifest.Lint

open Decimal (IsRounded decimalValue natString oneDecimal scaleByTwo)

variable {bytes limit : Nat}

/-- A size that a double can hold is shown rounded to one decimal. -/
lemma isRounded_kilobytes (h : bytes < 2 ^ 53) : IsRounded (bytes / 1024) (kilobytes bytes) := by
  obtain ⟨m, q, hdouble, hvalue⟩ := Decimal.Binary64.ofInt_nat h
  have text : kilobytes bytes =
      String.ofList (oneDecimal (scaleByTwo m 1024 q).1 (scaleByTwo m 1024 q).2) := by
    rw [kilobytes, hdouble]
  have quotient : ((scaleByTwo m 1024 q).1 : ℚ) / (scaleByTwo m 1024 q).2 = bytes / 1024 := by
    rw [Decimal.scaleByTwo_value, hvalue, Nat.cast_ofNat]
  rw [text, ← quotient]
  exact Decimal.isRounded_oneDecimal _ (Decimal.scaleByTwo_snd_pos m (by decide) q)

/-- A limit that is a whole number of kilobytes is shown without a decimal. -/
lemma limitKilobytes_of_dvd (h : 1024 ∣ limit) : limitKilobytes limit = natString (limit / 1024) :=
  if_pos (Nat.mod_eq_zero_of_dvd h)

/-- Any other limit is shown as a size is. -/
lemma limitKilobytes_of_not_dvd (h : ¬ 1024 ∣ limit) : limitKilobytes limit = kilobytes limit :=
  if_neg fun hmod => h (Nat.dvd_of_mod_eq_zero hmod)

/-- The texts for a size and for a limit in the message of a file that is too large. -/
structure Compares (bytes limit : Nat) (size bound : String) : Prop where
  size_rounded : IsRounded (bytes / 1024) size
  bound_whole : 1024 ∣ limit → bound = natString (limit / 1024)
  bound_rounded : ¬ 1024 ∣ limit → IsRounded (limit / 1024) bound
  size_near : |decimalValue size - bytes / 1024| ≤ 1 / 20
  bound_le_size : decimalValue bound ≤ decimalValue size

/-- The size of a file above the limit is not shown below what is shown of the limit. -/
lemma limitKilobytes_le_kilobytes (h : bytes < 2 ^ 53) (hlimit : limit < bytes) :
    decimalValue (limitKilobytes limit) ≤ decimalValue (kilobytes bytes) := by
  have rounded := isRounded_kilobytes h
  have less : (limit : ℚ) / 1024 ≤ bytes / 1024 := by
    have cast : (limit : ℚ) ≤ bytes := by exact_mod_cast hlimit.le
    linarith
  by_cases hdvd : 1024 ∣ limit
  · have whole : ((limit / 1024 : Nat) : ℚ) = limit / 1024 := by
      rw [Nat.cast_div hdvd (by norm_num), Nat.cast_ofNat]
    rw [limitKilobytes_of_dvd hdvd, Decimal.decimalValue_natString]
    exact rounded.natCast_le (whole.trans_le less)
  · rw [limitKilobytes_of_not_dvd hdvd]
    exact (isRounded_kilobytes (hlimit.trans h)).mono rounded less

/-- The texts that the message is made of. -/
lemma compares_kilobytes (h : bytes < 2 ^ 53) (hlimit : limit < bytes) :
    Compares bytes limit (kilobytes bytes) (limitKilobytes limit) where
  size_rounded := isRounded_kilobytes h
  bound_whole := limitKilobytes_of_dvd
  bound_rounded hdvd := by
    rw [limitKilobytes_of_not_dvd hdvd]
    exact isRounded_kilobytes (hlimit.trans h)
  size_near := (isRounded_kilobytes h).near
  bound_le_size := limitKilobytes_le_kilobytes h hlimit

/-- A file is warned of exactly if it is larger than the limit, and then the message shows its size
to the nearest tenth of a kilobyte, next to a limit that is not shown larger. -/
theorem checkFileSize_compares (c : Config) {bytes : Nat} (h : bytes < 2 ^ 53) :
    ((checkFileSize c bytes).isSome ↔ c.maxFileSize < bytes) ∧
      ∀ w, checkFileSize c bytes = some w →
        ∃ size bound,
          w.message = "File size " ++ size ++ "KB exceeds recommended " ++ bound ++ "KB" ∧
            Compares bytes c.maxFileSize size bound := by
  by_cases hlimit : bytes ≤ c.maxFileSize
  · have none : checkFileSize c bytes = none := if_pos hlimit
    rw [none]
    exact ⟨iff_of_false Bool.false_ne_true hlimit.not_gt, nofun⟩
  · have some := if_neg (c := bytes ≤ c.maxFileSize) hlimit ▸ checkFileSize.eq_1 c bytes
    rw [some]
    refine ⟨iff_of_true rfl (Nat.lt_of_not_le hlimit), ?_⟩
    rintro w ⟨⟩
    exact ⟨_, _, rfl, compares_kilobytes h (Nat.lt_of_not_le hlimit)⟩

/-- A file of 1792 bytes, half way between two tenths of a kilobyte, over a limit of 1536. -/
theorem checkFileSize_compares_tie :
    (checkFileSize { maxFileSize := 1536 } 1792).isSome ∧
      ∀ w, checkFileSize { maxFileSize := 1536 } 1792 = some w →
        ∃ size bound,
          w.message = "File size " ++ size ++ "KB exceeds recommended " ++ bound ++ "KB" ∧
            Compares 1792 1536 size bound :=
  have compares := checkFileSize_compares { maxFileSize := 1536 } (show 1792 < 2 ^ 53 by decide)
  ⟨compares.1.mpr (by decide), compares.2⟩

example : kilobytes 1792 = "1.8" := by decide +kernel

example : kilobytes 256 = "0.2" := by decide +kernel

end AgentManifest.Lint
