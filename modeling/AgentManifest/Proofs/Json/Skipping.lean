import Mathlib.Data.List.DropRight
import AgentManifest.Json.Skip
import AgentManifest.Proofs.Json.RoundTrip

/-!
# Texts that are skipped

The texts of JSON values, as the grammar has them: `IsText`. A value that nobody asked for is skipped,
however deep it is nested, up to the blanks behind it (`skipValue_of_isText`).
-/

namespace AgentManifest.Json

/-! ## Grammar -/

/-- Blanks between tokens. -/
def IsGap (s : List Char) : Prop := ∀ c ∈ s, isBlank c = true

/-- One digit or more. -/
def IsDigits (s : List Char) : Prop := s ≠ [] ∧ ∀ c ∈ s, c.isDigit = true

/-- The digits of a natural number: zero, or digits the first of which is not zero. -/
def IsWhole (s : List Char) : Prop := s = ['0'] ∨ IsDigits s ∧ s.head? ≠ some '0'

/-- A fraction, or nothing. -/
def IsFraction (s : List Char) : Prop := s = [] ∨ ∃ ds, s = '.' :: ds ∧ IsDigits ds

/-- An exponent, or nothing. -/
def IsExponent (s : List Char) : Prop :=
  s = [] ∨ ∃ mark sign ds, s = mark :: (sign ++ ds) ∧ mark ∈ ['e', 'E'] ∧
    sign ∈ [[], ['+'], ['-']] ∧ IsDigits ds

/-- The text of a number without its sign. -/
def IsNumeral (s : List Char) : Prop :=
  ∃ whole fraction exponent, s = whole ++ (fraction ++ exponent) ∧ IsWhole whole ∧
    IsFraction fraction ∧ IsExponent exponent

/-- What may stand between the quotes of a string for one unit of it. -/
inductive IsUnit : List Char → Prop where
  | plain {c : Char} (hlow : 0x20 ≤ c.toNat) (hquote : c ≠ '"') (hslash : c ≠ '\\') : IsUnit [c]
  | escape {c : Char} (h : (simpleEscape c).isSome = true) : IsUnit ['\\', c]
  | code {a b c d : Char} (h : ∀ x ∈ [a, b, c, d], (Text.hexDigit? x).isSome = true) :
      IsUnit ['\\', 'u', a, b, c, d]

/-- The text of a string. -/
def IsQuoted (s : List Char) : Prop :=
  ∃ units : List (List Char), (∀ u ∈ units, IsUnit u) ∧ s = '"' :: (units.flatten ++ ['"'])

/-- What a text is: a value, or the items or members of a container with its end. -/
inductive Piece where
  | value
  | items
  | members

/-- The texts of values, and of what stands behind the opening bracket of a container that is not
empty. -/
inductive IsPiece : Piece → List Char → Prop where
  | nullWord : IsPiece .value ['n', 'u', 'l', 'l']
  | trueWord : IsPiece .value ['t', 'r', 'u', 'e']
  | falseWord : IsPiece .value ['f', 'a', 'l', 's', 'e']
  | positive {s : List Char} (h : IsNumeral s) : IsPiece .value s
  | negative {s : List Char} (h : IsNumeral s) : IsPiece .value ('-' :: s)
  | string {s : List Char} (h : IsQuoted s) : IsPiece .value s
  | emptyArray {ws : List Char} (h : IsGap ws) : IsPiece .value ('[' :: (ws ++ [']']))
  | array {ts : List Char} (h : IsPiece .items ts) : IsPiece .value ('[' :: ts)
  | emptyObject {ws : List Char} (h : IsGap ws) : IsPiece .value ('{' :: (ws ++ ['}']))
  | object {ms : List Char} (h : IsPiece .members ms) : IsPiece .value ('{' :: ms)
  | padded {ws t ws' : List Char} (hws : IsGap ws) (h : IsPiece .value t) (hws' : IsGap ws') :
      IsPiece .value (ws ++ (t ++ ws'))
  | lastItem {t : List Char} (h : IsPiece .value t) : IsPiece .items (t ++ [']'])
  | item {t ts : List Char} (h : IsPiece .value t) (hs : IsPiece .items ts) :
      IsPiece .items (t ++ ',' :: ts)
  | lastMember {ws name ws' t : List Char} (hws : IsGap ws) (hname : IsQuoted name)
      (hws' : IsGap ws') (h : IsPiece .value t) :
      IsPiece .members (ws ++ (name ++ (ws' ++ ':' :: (t ++ ['}']))))
  | member {ws name ws' t ms : List Char} (hws : IsGap ws) (hname : IsQuoted name)
      (hws' : IsGap ws') (h : IsPiece .value t) (hs : IsPiece .members ms) :
      IsPiece .members (ws ++ (name ++ (ws' ++ ':' :: (t ++ ',' :: ms))))

/-- The texts of JSON values. -/
def IsText (t : List Char) : Prop := IsPiece .value t

variable {fuel : Nat} {s t rest ws : List Char}

/-! ## Blanks -/

lemma skipBlanks_gap (h : IsGap ws) (s : List Char) : skipBlanks (ws ++ s) = skipBlanks s :=
  List.dropWhile_append_of_pos h

/-- A text that does not go on with the value in front of it. -/
def Ends (s : List Char) : Prop := ∀ c ∈ s.head?, isBlank c = true ∨ c ∈ [',', ']', '}']

lemma Ends.endsNumber (h : Ends s) : EndsNumber s := by
  intro c hc
  have hends := h c hc
  simp only [isBlank, Bool.or_eq_true, beq_iff_eq, List.mem_cons, List.not_mem_nil, or_false]
    at hends
  rcases hends with (((rfl | rfl) | rfl) | rfl) | rfl | rfl | rfl <;> decide

lemma Ends.gap (h : IsGap ws) (hs : Ends s) : Ends (ws ++ s) := by
  cases ws with
  | nil => exact hs
  | cons c ws =>
    intro c' hc'
    cases hc'
    exact .inl (h c List.mem_cons_self)

/-! ## Numbers -/

/-- Digits are dropped up to what does not start with a digit. -/
lemma dropWhile_digits {ds : List Char} (hds : ∀ c ∈ ds, c.isDigit = true)
    (hs : ∀ c ∈ s.head?, c.isDigit = false) : (ds ++ s).dropWhile Char.isDigit = s := by
  rw [List.dropWhile_append_of_pos hds]
  cases s with
  | nil => rfl
  | cons c s => rw [List.dropWhile_cons_of_neg (by simp [hs c rfl])]

lemma EndsNumber.head_not_digit (h : EndsNumber s) : ∀ c ∈ s.head?, c.isDigit = false :=
  fun c hc => (h c hc).1

lemma skipExponent_append {sign ds : List Char} (hsign : sign ∈ [[], ['+'], ['-']])
    (hds : IsDigits ds) (hrest : Ends rest) : skipExponent (sign ++ ds ++ rest) = .ok rest := by
  obtain ⟨hne, hdigits⟩ := hds
  obtain ⟨d, ds, rfl⟩ := List.exists_cons_of_ne_nil hne
  rw [List.forall_mem_cons] at hdigits
  have hdrop := dropWhile_digits hdigits.2 hrest.endsNumber.head_not_digit
  have hplus : d ≠ '+' := by
    rintro rfl
    exact absurd hdigits.1 (by decide)
  have hminus : d ≠ '-' := by
    rintro rfl
    exact absurd hdigits.1 (by decide)
  simp only [List.mem_cons, List.not_mem_nil, or_false] at hsign
  rcases hsign with rfl | rfl | rfl
  · simp [skipExponent, hplus, hminus, hdigits.1, hdrop]
  · simp [skipExponent, hdigits.1, hdrop]
  · simp [skipExponent, hdigits.1, hdrop]

/-- An exponent does not go on with the digits in front of it. -/
lemma IsExponent.head_not_digit {exponent : List Char} (h : IsExponent exponent)
    (hrest : Ends rest) : ∀ c ∈ (exponent ++ rest).head?, c.isDigit = false := by
  rcases h with rfl | ⟨mark, sign, ds, rfl, hmark, -, -⟩
  · exact hrest.endsNumber.head_not_digit
  · intro c hc
    cases hc
    simp only [List.mem_cons, List.not_mem_nil, or_false] at hmark
    rcases hmark with rfl | rfl <;> rfl

/-- Digits that an exponent follows. -/
lemma skipAfterInteger_exponent {exponent : List Char} (h : IsExponent exponent)
    (hrest : Ends rest) : skipAfterInteger (exponent ++ rest) = .ok rest := by
  rcases h with rfl | ⟨mark, sign, ds, rfl, hmark, hsign, hds⟩
  · cases rest with
    | nil => rfl
    | cons c rest =>
      obtain ⟨-, hpoint, he, hE⟩ := hrest.endsNumber c rfl
      rw [List.nil_append]
      unfold skipAfterInteger
      split <;> simp_all
  · have hskip := skipExponent_append hsign hds hrest
    simp only [List.mem_cons, List.not_mem_nil, or_false] at hmark
    rcases hmark with rfl | rfl
    · exact hskip
    · exact hskip

/-- Digits that a fraction and an exponent follow. -/
lemma skipAfterInteger_append {fraction exponent : List Char} (hfraction : IsFraction fraction)
    (hexponent : IsExponent exponent) (hrest : Ends rest) :
    skipAfterInteger (fraction ++ (exponent ++ rest)) = .ok rest := by
  rcases hfraction with rfl | ⟨ds, rfl, hne, hdigits⟩
  · exact skipAfterInteger_exponent hexponent hrest
  · have hdrop := dropWhile_digits hdigits (hexponent.head_not_digit hrest)
    obtain ⟨d, ds, rfl⟩ := List.exists_cons_of_ne_nil hne
    have hany : (d :: ds ++ (exponent ++ rest)).head?.any Char.isDigit = true :=
      hdigits d List.mem_cons_self
    simp only [List.cons_append] at hdrop hany ⊢
    simp only [skipAfterInteger, hany, hdrop, if_pos]
    rcases hexponent with rfl | ⟨mark, sign, es, rfl, hmark, hsign, hes⟩
    · rw [List.nil_append]
      split
      case h_1 => exact absurd rfl (hrest.endsNumber 'e' rfl).2.2.1
      case h_2 => exact absurd rfl (hrest.endsNumber 'E' rfl).2.2.2
      case h_3 => rfl
    · have hskip := skipExponent_append hsign hes hrest
      simp only [List.mem_cons, List.not_mem_nil, or_false] at hmark
      rcases hmark with rfl | rfl
      · exact hskip
      · exact hskip

/-- A number is read over to its end. -/
lemma skipNumber_append (h : IsNumeral s) (hrest : Ends rest) :
    skipNumber (s ++ rest) = .ok rest := by
  obtain ⟨whole, fraction, exponent, rfl, hwhole, hfraction, hexponent⟩ := h
  have hskip := skipAfterInteger_append hfraction hexponent hrest
  have hhead : ∀ c ∈ (fraction ++ (exponent ++ rest)).head?, c.isDigit = false := by
    rcases hfraction with rfl | ⟨ds, rfl, -⟩
    · exact hexponent.head_not_digit hrest
    · intro c hc
      cases hc
      rfl
  rw [List.append_assoc, List.append_assoc]
  rcases hwhole with rfl | ⟨⟨hne, hdigits⟩, hzero⟩
  · have hany : ¬(fraction ++ (exponent ++ rest)).head?.any Char.isDigit = true := by
      rw [Option.any_eq_true]
      rintro ⟨c, hc, hdigit⟩
      exact absurd hdigit (by simp [hhead c hc])
    rw [List.singleton_append, skipNumber, if_neg hany, hskip]
  · obtain ⟨d, ds, rfl⟩ := List.exists_cons_of_ne_nil hne
    rw [List.forall_mem_cons] at hdigits
    rw [List.cons_append, skipNumber]
    · rw [if_pos hdigits.1, dropWhile_digits hdigits.2 hhead, hskip]
    · rintro rfl
      exact hzero rfl

/-! ## Strings -/

/-- Four hexadecimal digits are one unit. -/
lemma hexUnit_digits {a b c d : Char}
    (h : ∀ x ∈ [a, b, c, d], (Text.hexDigit? x).isSome = true) (rest : List Char) :
    ∃ n, hexUnit (a :: b :: c :: d :: rest) = .ok (n, rest) := by
  have hlength : ¬Text.byteLength [a, b, c, d] < 4 := by
    have ha := Char.utf8Size_pos a
    have hb := Char.utf8Size_pos b
    have hc := Char.utf8Size_pos c
    have hd := Char.utf8Size_pos d
    simp only [Text.byteLength, List.foldl_cons, List.foldl_nil]
    omega
  simp only [List.forall_mem_cons, Option.isSome_iff_exists] at h
  obtain ⟨⟨na, ha⟩, ⟨nb, hb⟩, ⟨nc, hc⟩, ⟨nd, hd⟩, -⟩ := h
  refine ⟨((na * 16 + nb) * 16 + nc) * 16 + nd, ?_⟩
  rw [hexUnit, List.take, List.take, List.take, List.take, List.take, if_neg hlength]
  simp only [ha, hb, hc, hd]

lemma skipString_unit {u : List Char} (h : IsUnit u) (fuel : Nat) (s : List Char) :
    skipString (fuel + 1) (u ++ s) = skipString fuel s := by
  cases h with
  | plain hlow hquote hslash =>
    rw [List.singleton_append, skipString]
    · rw [if_neg (Nat.not_lt.mpr hlow)]
    all_goals simp_all
  | escape h =>
    rw [List.cons_append, List.singleton_append, skipString]
    · rw [if_pos h]
    · rintro rfl
      cases h
  | code h =>
    obtain ⟨n, hunit⟩ := hexUnit_digits h s
    simp only [List.cons_append, List.nil_append, skipString, hunit]
    rfl

lemma IsUnit.length_pos {u : List Char} (h : IsUnit u) : 1 ≤ u.length := by
  cases h <;> simp

/-- A string is read over behind its opening quote. -/
lemma skipString_units {units : List (List Char)} (h : ∀ u ∈ units, IsUnit u) :
    ∀ {fuel : Nat}, units.flatten.length < fuel →
      skipString fuel (units.flatten ++ '"' :: rest) = .ok rest := by
  induction units with
  | nil =>
    intro fuel hfuel
    obtain ⟨fuel, rfl⟩ := Nat.exists_eq_succ_of_ne_zero (Nat.ne_of_gt hfuel)
    rfl
  | cons u units ih =>
    intro fuel hfuel
    rw [List.forall_mem_cons] at h
    have hu := h.1.length_pos
    rw [List.flatten_cons, List.length_append] at hfuel
    obtain ⟨fuel, rfl⟩ := Nat.exists_eq_succ_of_ne_zero (Nat.ne_of_gt (Nat.zero_lt_of_lt hfuel))
    rw [List.flatten_cons, List.append_assoc, skipString_unit h.1]
    exact ih h.2 (by omega)

lemma IsQuoted.ne_nil (h : IsQuoted s) : s ≠ [] := by
  obtain ⟨units, -, rfl⟩ := h
  exact List.cons_ne_nil _ _

lemma IsQuoted.skip (h : IsQuoted s) (hfuel : s.length ≤ fuel + 1) (rest : List Char) :
    ∃ s', s ++ rest = '"' :: s' ∧ skipString fuel s' = .ok rest := by
  obtain ⟨units, hunits, rfl⟩ := h
  rw [List.length_cons, List.length_append, List.length_singleton] at hfuel
  refine ⟨units.flatten ++ '"' :: rest, by simp, skipString_units hunits (by omega)⟩

/-! ## Values -/

lemma skipBlanks_skipBlanks (s : List Char) : skipBlanks (skipBlanks s) = skipBlanks s :=
  List.dropWhile_idempotent isBlank s

/-- Blanks in front of a value have no part in it. -/
lemma skipValue_blanks (s : List Char) :
    skipValue (fuel + 1) (skipBlanks s) = skipValue (fuel + 1) s := by
  rw [skipValue, skipValue, skipBlanks_skipBlanks]

lemma skipItems_blanks (s : List Char) :
    skipItems (fuel + 2) (skipBlanks s) = skipItems (fuel + 2) s := by
  rw [skipItems, skipItems, skipValue_blanks]

lemma skipMembers_blanks (s : List Char) :
    skipMembers (fuel + 1) (skipBlanks s) = skipMembers (fuel + 1) s := by
  rw [skipMembers, skipMembers, skipBlanks_skipBlanks]

lemma skipValue_gap (h : IsGap ws) (s : List Char) :
    skipValue (fuel + 1) (ws ++ s) = skipValue (fuel + 1) s := by
  rw [← skipValue_blanks, skipBlanks_gap h, skipValue_blanks]

lemma IsNumeral.exists_digit (h : IsNumeral s) : ∃ c s', s = c :: s' ∧ c.isDigit = true := by
  obtain ⟨whole, fraction, exponent, rfl, rfl | ⟨⟨hne, hdigits⟩, -⟩, -, -⟩ := h
  · exact ⟨'0', _, rfl, rfl⟩
  · obtain ⟨d, ds, rfl⟩ := List.exists_cons_of_ne_nil hne
    exact ⟨d, _, rfl, hdigits d List.mem_cons_self⟩

/-- Behind blanks every text starts with something that ends no container. -/
lemma IsPiece.exists_head {p : Piece} (h : IsPiece p t) :
    ∀ rest, ∃ c s, skipBlanks (t ++ rest) = c :: s ∧ c ≠ ']' ∧ c ≠ '}' := by
  have hquoted {s : List Char} (hs : IsQuoted s) (rest : List Char) :
      ∃ c s', skipBlanks (s ++ rest) = c :: s' ∧ c ≠ ']' ∧ c ≠ '}' := by
    obtain ⟨units, -, rfl⟩ := hs
    exact ⟨'"', _, skipBlanks_cons rfl _, by decide, by decide⟩
  induction h with
  | nullWord => exact fun rest => ⟨'n', _, skipBlanks_cons rfl _, by decide, by decide⟩
  | trueWord => exact fun rest => ⟨'t', _, skipBlanks_cons rfl _, by decide, by decide⟩
  | falseWord => exact fun rest => ⟨'f', _, skipBlanks_cons rfl _, by decide, by decide⟩
  | positive h =>
    intro rest
    obtain ⟨c, s, rfl, hc⟩ := h.exists_digit
    refine ⟨c, _, skipBlanks_cons (not_blank_of_isDigit hc) _, ?_, ?_⟩
    · rintro rfl
      cases hc
    · rintro rfl
      cases hc
  | negative => exact fun rest => ⟨'-', _, skipBlanks_cons rfl _, by decide, by decide⟩
  | string h => exact hquoted h
  | emptyArray => exact fun rest => ⟨'[', _, skipBlanks_cons rfl _, by decide, by decide⟩
  | array => exact fun rest => ⟨'[', _, skipBlanks_cons rfl _, by decide, by decide⟩
  | emptyObject => exact fun rest => ⟨'{', _, skipBlanks_cons rfl _, by decide, by decide⟩
  | object => exact fun rest => ⟨'{', _, skipBlanks_cons rfl _, by decide, by decide⟩
  | padded hws _ _ ih =>
    intro rest
    rw [List.append_assoc, List.append_assoc, skipBlanks_gap hws]
    exact ih _
  | lastItem _ ih =>
    intro rest
    rw [List.append_assoc]
    exact ih _
  | item _ _ ih =>
    intro rest
    rw [List.append_assoc]
    exact ih _
  | lastMember hws hname =>
    intro rest
    rw [List.append_assoc, List.append_assoc, skipBlanks_gap hws]
    exact hquoted hname _
  | member hws hname =>
    intro rest
    rw [List.append_assoc, List.append_assoc, skipBlanks_gap hws]
    exact hquoted hname _

lemma IsPiece.length_pos {p : Piece} (h : IsPiece p t) : 1 ≤ t.length := by
  obtain ⟨c, s, hhead, -⟩ := h.exists_head []
  refine List.length_pos_iff.mpr ?_
  rintro rfl
  cases hhead

lemma IsPiece.two_le_length (h : IsPiece .items t) : 2 ≤ t.length := by
  cases h with
  | lastItem h =>
    have hpos := h.length_pos
    simp only [List.length_append, List.length_singleton]
    omega
  | item h hs =>
    have hpos := h.length_pos
    simp only [List.length_append, List.length_cons]
    omega

/-- What reading over a text comes to: the blanks behind a value, or the end of a container. -/
def Skips (t : List Char) : Piece → Prop
  | .value => ∀ {fuel : Nat} {rest : List Char}, t.length ≤ fuel → Ends rest →
      ∃ ws, IsGap ws ∧ skipValue fuel (t ++ rest) = .ok (ws ++ rest)
  | .items => ∀ {fuel : Nat} {rest : List Char}, t.length ≤ fuel →
      skipItems fuel (t ++ rest) = .ok rest
  | .members => ∀ {fuel : Nat} {rest : List Char}, t.length ≤ fuel →
      skipMembers fuel (t ++ rest) = .ok rest

/-- A value that is read over at once, with no blank behind it. -/
lemma Skips.of_eq (hpos : t ≠ [])
    (h : ∀ {fuel : Nat} {rest : List Char}, t.length ≤ fuel + 1 → Ends rest →
      skipValue (fuel + 1) (t ++ rest) = .ok rest) : Skips t .value := by
  intro fuel rest hfuel hrest
  have hlength := List.length_pos_iff.mpr hpos
  obtain ⟨fuel, rfl⟩ := Nat.exists_eq_add_of_le' (Nat.le_trans hlength hfuel)
  exact ⟨[], nofun, h hfuel hrest⟩

/-- An item is read over up to what ends it. -/
lemma skipItems_item {c : Char} (ih : Skips t .value) (hfuel : t.length ≤ fuel)
    (hc : isBlank c = false) (hends : Ends (c :: rest)) :
    skipItems (fuel + 1) (t ++ c :: rest) =
      match c :: rest with
      | ']' :: rest => .ok rest
      | ',' :: rest => skipItems fuel rest
      | [] => stopAt .eofArray []
      | rest => stopAfter .expectedArrayCommaOrEnd rest := by
  obtain ⟨gap, hgap, hskip⟩ := ih hfuel hends
  simp only [skipItems, hskip, bind, Except.bind, skipBlanks_gap hgap, skipBlanks_cons hc]
  all_goals rfl

/-- A member is read over up to what ends it. -/
lemma skipMembers_member {c : Char} {ws' name : List Char} (hws : IsGap ws)
    (hname : IsQuoted name) (hws' : IsGap ws') (ih : Skips t .value)
    (hfuel : name.length + t.length ≤ fuel) (hc : isBlank c = false) (hends : Ends (c :: rest)) :
    skipMembers (fuel + 1) (ws ++ (name ++ (ws' ++ ':' :: (t ++ c :: rest)))) =
      match c :: rest with
      | '}' :: rest => .ok rest
      | ',' :: rest => skipMembers fuel rest
      | [] => stopAt .eofObject []
      | rest => stopAfter .expectedObjectCommaOrEnd rest := by
  obtain ⟨s, hquote, hstring⟩ :=
    hname.skip (show name.length ≤ fuel + 1 by omega) (ws' ++ ':' :: (t ++ c :: rest))
  obtain ⟨gap, hgap, hskip⟩ := ih (show t.length ≤ fuel by omega) hends
  have hcolon : colon (ws' ++ ':' :: (t ++ c :: rest)) = .ok (t ++ c :: rest) := by
    rw [colon, skipBlanks_gap hws', skipBlanks_cons rfl]
    rfl
  have hhead : skipBlanks (ws ++ '"' :: s) = '"' :: s := by
    rw [skipBlanks_gap hws, skipBlanks_cons rfl]
  rw [hquote]
  simp only [skipMembers, hhead, hstring, hcolon, hskip, bind, Except.bind, skipBlanks_gap hgap,
    skipBlanks_cons hc]
  all_goals rfl

lemma ends_cons {c : Char} (h : c ∈ [',', ']', '}']) (s : List Char) : Ends (c :: s) := by
  intro c' hc'
  cases hc'
  exact .inr h

/-- Every text is read over to its end. -/
lemma IsPiece.skips {p : Piece} (h : IsPiece p t) : Skips t p := by
  induction h with
  | nullWord | trueWord | falseWord =>
    refine Skips.of_eq (List.cons_ne_nil _ _) fun _ _ => ?_
    rw [List.cons_append, skipValue, skipBlanks_cons rfl]
    exact word_append _ _
  | positive h =>
    obtain ⟨c, s, rfl, hc⟩ := h.exists_digit
    refine Skips.of_eq (List.cons_ne_nil _ _) fun _ hrest => ?_
    have hskip := skipNumber_append h hrest
    rw [List.cons_append] at hskip ⊢
    rw [skipValue, skipBlanks_cons (not_blank_of_isDigit hc)]
    split
    case h_9 heq =>
      cases heq
      rw [if_pos hc, hskip]
    -- no word, sign, quote or bracket is a digit
    all_goals
      rename_i heq
      cases heq
      try cases hc
  | negative h =>
    refine Skips.of_eq (List.cons_ne_nil _ _) fun _ hrest => ?_
    rw [List.cons_append, skipValue, skipBlanks_cons rfl]
    exact skipNumber_append h hrest
  | string h =>
    refine Skips.of_eq (h.ne_nil) fun {fuel rest} hfuel _ => ?_
    obtain ⟨s, hquote, hskip⟩ := h.skip hfuel rest
    rw [hquote, skipValue, skipBlanks_cons rfl]
    exact hskip
  | emptyArray h =>
    refine Skips.of_eq (List.cons_ne_nil _ _) fun {_ rest} _ _ => ?_
    have hend : skipBlanks (']' :: rest) = ']' :: rest := skipBlanks_cons rfl rest
    rw [List.cons_append, List.append_assoc, List.singleton_append, skipValue, skipBlanks_cons rfl]
    simp only [skipBlanks_gap h, hend]
  | array h ih =>
    refine Skips.of_eq (List.cons_ne_nil _ _) fun {fuel rest} hfuel _ => ?_
    have hfuel' := Nat.le_of_succ_le_succ hfuel
    obtain ⟨fuel, rfl⟩ := Nat.exists_eq_add_of_le' (Nat.le_trans h.two_le_length hfuel')
    have hitems : skipItems (fuel + 2) (_ ++ rest) = .ok rest := ih hfuel'
    rw [← skipItems_blanks] at hitems
    obtain ⟨c, s, hhead, hend, -⟩ := h.exists_head rest
    rw [List.cons_append, skipValue, skipBlanks_cons rfl]
    rw [hhead] at hitems
    simp only [hhead]
    split
    case h_1 heq => exact absurd (List.cons.inj heq).1 hend
    case h_2 heq => cases heq
    case h_3 => exact hitems
  | emptyObject h =>
    refine Skips.of_eq (List.cons_ne_nil _ _) fun {_ rest} _ _ => ?_
    have hend : skipBlanks ('}' :: rest) = '}' :: rest := skipBlanks_cons rfl rest
    rw [List.cons_append, List.append_assoc, List.singleton_append, skipValue, skipBlanks_cons rfl]
    simp only [skipBlanks_gap h, hend]
  | object h ih =>
    refine Skips.of_eq (List.cons_ne_nil _ _) fun {fuel rest} hfuel _ => ?_
    have hfuel' := Nat.le_of_succ_le_succ hfuel
    obtain ⟨fuel, rfl⟩ := Nat.exists_eq_add_of_le' (Nat.le_trans h.length_pos hfuel')
    have hmembers : skipMembers (fuel + 1) (_ ++ rest) = .ok rest := ih hfuel'
    rw [← skipMembers_blanks] at hmembers
    obtain ⟨c, s, hhead, -, hend⟩ := h.exists_head rest
    rw [List.cons_append, skipValue, skipBlanks_cons rfl]
    rw [hhead] at hmembers
    simp only [hhead]
    split
    case h_1 heq => exact absurd (List.cons.inj heq).1 hend
    case h_2 heq => cases heq
    case h_3 => exact hmembers
  | @padded ws t ws' hws h hws' ih =>
    intro fuel rest hfuel hrest
    rw [List.length_append, List.length_append] at hfuel
    have hpos := h.length_pos
    obtain ⟨fuel, rfl⟩ := Nat.exists_eq_add_of_le' (show 1 ≤ fuel by omega)
    obtain ⟨gap, hgap, hskip⟩ := ih (show t.length ≤ fuel + 1 by omega) (hrest.gap hws')
    refine ⟨gap ++ ws', ?_, ?_⟩
    · exact List.forall_mem_append.mpr ⟨hgap, hws'⟩
    · rw [List.append_assoc, List.append_assoc, skipValue_gap hws, hskip, List.append_assoc]
  | lastItem h ih =>
    intro fuel rest hfuel
    rw [List.length_append, List.length_singleton] at hfuel
    obtain ⟨fuel, rfl⟩ := Nat.exists_eq_add_of_le' (show 1 ≤ fuel by omega)
    rw [List.append_assoc, List.singleton_append]
    exact skipItems_item ih (by omega) rfl (ends_cons (by decide) rest)
  | item h hs ih ihs =>
    intro fuel rest hfuel
    rw [List.length_append, List.length_cons] at hfuel
    obtain ⟨fuel, rfl⟩ := Nat.exists_eq_add_of_le' (show 1 ≤ fuel by omega)
    rw [List.append_assoc, List.cons_append]
    rw [skipItems_item ih (by omega) rfl (ends_cons (by decide) _)]
    exact ihs (by omega)
  | lastMember hws hname hws' h ih =>
    intro fuel rest hfuel
    simp only [List.length_append, List.length_cons, List.length_nil] at hfuel
    obtain ⟨fuel, rfl⟩ := Nat.exists_eq_add_of_le' (show 1 ≤ fuel by omega)
    simp only [List.append_assoc, List.cons_append, List.nil_append]
    exact skipMembers_member hws hname hws' ih (by omega) rfl (ends_cons (by decide) rest)
  | member hws hname hws' h hs ih ihs =>
    intro fuel rest hfuel
    simp only [List.length_append, List.length_cons] at hfuel
    obtain ⟨fuel, rfl⟩ := Nat.exists_eq_add_of_le' (show 1 ≤ fuel by omega)
    simp only [List.append_assoc, List.cons_append]
    rw [skipMembers_member hws hname hws' ih (by omega) rfl (ends_cons (by decide) _)]
    exact ihs (by omega)

/-- A value that nobody asked for is read over up to the blanks behind it. -/
theorem skipValue_of_isText (h : IsText t) (hfuel : t.length ≤ fuel) (hrest : Ends rest) :
    ∃ ws, IsGap ws ∧ skipValue fuel (t ++ rest) = .ok (ws ++ rest) :=
  h.skips hfuel hrest

end AgentManifest.Json
