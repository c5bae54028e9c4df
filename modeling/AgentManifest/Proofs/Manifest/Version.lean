import Mathlib.Tactic.Tauto
import AgentManifest.Proofs.Pattern.Words
import AgentManifest.Schema.Builtin

/-!
# Versions and names of further sections

The two patterns of the schema of manifests as properties of texts: a text is a version if it is
made of two or three numbers with points between them and perhaps a label (`IsVersion`), and it is
the name of a further section if it begins with `x-` (`IsExtension`). The patterns admit exactly
these texts.
-/

namespace AgentManifest.Manifest

open Pattern (Simple CharSet Matcher)
open Schema

/-- One or more decimal digits. -/
def IsNumber (w : List Char) : Prop := w ≠ [] ∧ ∀ c ∈ w, c.isDigit = true

/-- A character of the label of a version: a letter or digit of ASCII, a point or a minus sign. -/
def IsLabelChar (c : Char) : Prop := c.isAlphanum = true ∨ c = '.' ∨ c = '-'

/-- A point and a number, or nothing. -/
def IsPatch (w : List Char) : Prop := w = [] ∨ ∃ n, IsNumber n ∧ w = '.' :: n

/-- A minus or a plus sign and a label behind it, or nothing. -/
def IsSuffix (w : List Char) : Prop :=
  w = [] ∨ ∃ sign label, (sign = '-' ∨ sign = '+') ∧ label ≠ [] ∧
    (∀ c ∈ label, IsLabelChar c) ∧ w = sign :: label

/-- Two or three numbers with points between them, and perhaps a label behind a sign. -/
def IsVersion (w : List Char) : Prop :=
  ∃ major minor patch suffix, IsNumber major ∧ IsNumber minor ∧ IsPatch patch ∧ IsSuffix suffix ∧
    w = major ++ '.' :: minor ++ patch ++ suffix

/-- The name of a section beyond those of the schema. -/
def IsExtension (name : List Char) : Prop := ['x', '-'] <+: name

/-! ## Sets of characters -/

lemma has_digit (c : Char) : CharSet.digit.has c = c.isDigit := by
  simp only [CharSet.digit, CharSet.range, Char.isDigit, Char.le_def]

lemma has_letter (c : Char) : CharSet.letter.has c = c.isAlpha := by
  have halpha : c.isAlpha = (c.isUpper || c.isLower) := rfl
  have hupper : c.isUpper = decide ('A' ≤ c ∧ c ≤ 'Z') := rfl
  have hlower : c.isLower = (decide ('a' ≤ c) && decide (c ≤ 'z')) := rfl
  simp only [CharSet.letter, CharSet.union, CharSet.range, halpha, hupper, hlower,
    Bool.decide_and, Bool.or_comm]

lemma has_labelSet (c : Char) : Builtin.labelSet.has c = true ↔ IsLabelChar c := by
  simp only [Builtin.labelSet, CharSet.union, has_digit, has_letter, CharSet.single, IsLabelChar,
    Char.isAlphanum, Bool.or_eq_true, beq_iff_eq]
  tauto

/-! ## Words of the parts -/

lemma takes_digits : Builtin.digits.Takes IsNumber := by
  have h := Simple.takes_some CharSet.digit true
  simp only [has_digit] at h
  exact h

/-- The part of the pattern for what stands behind the second number. -/
lemma takes_patch :
    Simple.Takes (.repeated (.group none (.seq Builtin.point Builtin.digits)) 0 (some 1) true)
      IsPatch := by
  apply ((Simple.takes_char '.').seq takes_digits).group.optional.congr
  intro w
  apply or_congr_right
  constructor
  · rintro ⟨u, v, rfl, hv, rfl⟩
    exact ⟨v, hv, rfl⟩
  · rintro ⟨v, hv, rfl⟩
    exact ⟨['.'], v, rfl, hv, rfl⟩

/-- The part of the pattern for the sign and the label. -/
lemma takes_suffix :
    Simple.Takes (.repeated (.group none (.seq
      (.set (CharSet.union (CharSet.single '-') (CharSet.single '+')))
      (.repeated (.set Builtin.labelSet) 1 none true))) 0 (some 1) true) IsSuffix := by
  have sign := Simple.takes_set (CharSet.union (CharSet.single '-') (CharSet.single '+'))
  have label := Simple.takes_some Builtin.labelSet true
  apply (sign.seq label).group.optional.congr
  intro w
  apply or_congr_right
  simp only [CharSet.union, CharSet.single, Bool.or_eq_true, beq_iff_eq, has_labelSet]
  constructor
  · rintro ⟨u, v, ⟨c, hc, rfl⟩, ⟨ne, all⟩, rfl⟩
    exact ⟨c, v, hc, ne, all, rfl⟩
  · rintro ⟨c, v, hc, ne, all, rfl⟩
    exact ⟨[c], v, ⟨c, hc, rfl⟩, ⟨ne, all⟩, rfl⟩

/-! ## Texts -/

/-- The pattern of versions occurs in versions alone. -/
theorem version_occursIn_iff (text : List Char) :
    Builtin.version.occursIn text = true ↔ IsVersion text := by
  have parts := takes_digits.seqAll ((Simple.takes_char '.').seqAll (takes_digits.seqAll
    (takes_patch.seqAll (takes_suffix.seqAll Simple.takesAll_finish))))
  refine (Simple.occursIn_whole_iff parts text).trans ?_
  constructor
  · rintro ⟨major, _, hmajor, ⟨_, _, rfl, ⟨minor, _, hminor, ⟨patch, _, hpatch,
      ⟨suffix, _, hsuffix, rfl, rfl⟩, rfl⟩, rfl⟩, rfl⟩, rfl⟩
    exact ⟨major, minor, patch, suffix, hmajor, hminor, hpatch, hsuffix, by simp⟩
  · rintro ⟨major, minor, patch, suffix, hmajor, hminor, hpatch, hsuffix, rfl⟩
    exact ⟨major, _, hmajor, ⟨['.'], _, rfl, ⟨minor, _, hminor, ⟨patch, _, hpatch,
      ⟨suffix, [], hsuffix, rfl, rfl⟩, rfl⟩, rfl⟩, rfl⟩, by simp⟩

/-- A text matches a simple pattern that occurs in it. -/
lemma simple_occursIn (r : Simple) (text : String) :
    Matcher.occursIn (.simple r) text = r.occursIn text.toList := by
  rw [Matcher.occursIn, Matcher.search]
  cases r.occursIn text.toList <;> rfl

/-- The pattern of further sections occurs in their names alone. -/
theorem extensionName_occursIn_iff (name : String) :
    Builtin.extensionName.matcher.occursIn name = true ↔ IsExtension name.toList := by
  have parts := (Simple.takes_char 'x').seq (Simple.takes_char '-')
  rw [Builtin.extensionName, simple_occursIn]
  refine (Simple.occursIn_begins_iff parts name.toList).trans ?_
  constructor
  · rintro ⟨_, ⟨_, _, rfl, rfl, rfl⟩, begins⟩
    exact begins
  · intro begins
    exact ⟨_, ⟨_, _, rfl, rfl, rfl⟩, begins⟩

end AgentManifest.Manifest
