import AgentManifest.Json.Reader
import AgentManifest.Proofs.Decimal.Digits
import AgentManifest.Proofs.Json.Contents
import AgentManifest.Proofs.Json.Layout

/-!
# Reading what was written

A tree whose numbers are 64-bit integers, and which is not nested too deeply, is read back from
either of its written forms, with the members of its objects in order.
-/

namespace AgentManifest.Json

open Decimal (digitChar natText intText natDigits ofDigits)

/-! ## Blanks -/

/-- A text that may follow a value: none, or one that starts with a blank or with the end of an item
or of a container. -/
def Follows (s : List Char) : Prop := ∀ c ∈ s.head?, c ∈ [' ', '\n', ',', ']', '}']

lemma skipBlanks_append {ws : List Char} (h : IsBlankText ws) (s : List Char) :
    skipBlanks (ws ++ s) = skipBlanks s := by
  induction ws with
  | nil => rfl
  | cons c ws ih =>
    have hc : isBlank c = true := by
      rcases h c List.mem_cons_self with rfl | rfl <;> rfl
    rw [List.cons_append, skipBlanks, List.dropWhile_cons_of_pos hc]
    exact ih fun c' hc' => h c' (List.mem_cons_of_mem c hc')

lemma skipBlanks_cons {c : Char} (h : isBlank c = false) (s : List Char) :
    skipBlanks (c :: s) = c :: s := by
  rw [skipBlanks, List.dropWhile_cons_of_neg (by simp [h])]

lemma Follows.blank {ws s : List Char} (h : IsBlankText ws) (hs : Follows s) :
    Follows (ws ++ s) := by
  cases ws with
  | nil => exact hs
  | cons c ws =>
    intro c' hc'
    obtain rfl : c = c' := by simpa using hc'
    rcases h c List.mem_cons_self with rfl | rfl <;> simp

/-! ## Words -/

lemma word_append (ws s : List Char) : word ws (ws ++ s) = .ok s := by
  induction ws with
  | nil => rfl
  | cons w ws ih => rw [List.cons_append, word, if_pos rfl, ih]

/-! ## Numbers -/

lemma digitValue_digitChar {d : Nat} (h : d < 10) : digitValue (digitChar d) = d :=
  Decimal.toNat_digitChar h

/-- Digits are taken up as long as the number that they spell is small enough. -/
lemma absorb_digits {ds : List Nat} (hds : ∀ d ∈ ds, d < 10) {n : Nat}
    (h : ds.foldl (fun n d => 10 * n + d) n ≤ maxInteger) :
    absorb n (ds.map digitChar) = (ds.foldl (fun n d => 10 * n + d) n, 0) := by
  induction ds generalizing n with
  | nil => rfl
  | cons d ds ih =>
    rw [List.forall_mem_cons] at hds
    have hle (m : Nat) : m ≤ ds.foldl (fun n d => 10 * n + d) m := by
      clear ih h hds
      induction ds generalizing m with
      | nil => exact Nat.le_refl m
      | cons e ds ih => exact Nat.le_trans (by omega) (ih (10 * m + e))
    rw [List.foldl_cons] at h ⊢
    rw [List.map_cons, absorb, digitValue_digitChar hds.1, if_pos (Nat.le_trans (hle _) h),
      ih hds.2 h]

/-- A text with which no number in front of it goes on. -/
def EndsNumber (s : List Char) : Prop :=
  ∀ c ∈ s.head?, c.isDigit = false ∧ c ≠ '.' ∧ c ≠ 'e' ∧ c ≠ 'E'

lemma Follows.endsNumber {s : List Char} (h : Follows s) : EndsNumber s := by
  intro c hc
  have hmem := h c hc
  simp only [List.mem_cons, List.not_mem_nil, or_false] at hmem
  rcases hmem with rfl | rfl | rfl | rfl | rfl <;> decide

lemma afterInteger_of_endsNumber {s : List Char} (h : EndsNumber s) (negative : Bool) (n : Nat) :
    afterInteger negative n 0 s = .ok (wholeNumber negative n, s) := by
  cases s with
  | nil => rfl
  | cons c s =>
    obtain ⟨-, hpoint, he, hE⟩ := h c rfl
    unfold afterInteger
    split
    case h_1 heq =>
      cases heq
      exact absurd rfl hpoint
    case h_2 heq =>
      cases heq
      rw [if_neg (by simp [he, hE]), if_pos rfl]
    case h_3 heq => cases heq

/-- A small natural number is taken up as a whole. -/
lemma absorb_natText {n : Nat} (hn : n ≤ maxInteger) : absorb 0 (natText n) = (n, 0) := by
  by_cases hzero : n = 0
  · subst hzero
    rfl
  · obtain ⟨d, ds, hds, -, htext⟩ := Decimal.natText_of_ne_zero hzero
    have hlt : ∀ e ∈ d :: ds, e < 10 := fun e he => Decimal.digit_lt_ten (hds ▸ he)
    have hvalue : (d :: ds).foldl (fun n d => 10 * n + d) 0 = n :=
      hds ▸ Decimal.ofDigits_natDigits n
    rw [htext, ← List.map_cons, absorb_digits hlt (hvalue.symm ▸ hn), hvalue]

/-- The digits of a natural number are read up to what is no digit. -/
lemma number_digits (n : Nat) {s : List Char} (h : ∀ c ∈ s.head?, c.isDigit = false)
    (negative : Bool) :
    number negative (natText n ++ s) =
      afterInteger negative (absorb 0 (natText n)).1 (absorb 0 (natText n)).2 s := by
  by_cases hzero : n = 0
  · subst hzero
    rw [Decimal.natText_zero, List.singleton_append]
    cases s with
    | nil => rfl
    | cons c s =>
      rw [number, h c rfl]
      rfl
  · obtain ⟨d, ds, hds, hd, htext⟩ := Decimal.natText_of_ne_zero hzero
    have hlt : ∀ e ∈ d :: ds, e < 10 := fun e he => Decimal.digit_lt_ten (hds ▸ he)
    have hdigits : ∀ c ∈ ds.map digitChar, c.isDigit = true := by
      intro c hc
      obtain ⟨e, he, rfl⟩ := List.mem_map.mp hc
      exact Decimal.isDigit_digitChar (hlt e (List.mem_cons_of_mem d he))
    have hstop : s.takeWhile Char.isDigit = [] ∧ s.dropWhile Char.isDigit = s := by
      cases s with
      | nil => exact ⟨rfl, rfl⟩
      | cons c s => simp [h c rfl]
    have htake : (ds.map digitChar ++ s).takeWhile Char.isDigit = ds.map digitChar := by
      rw [List.takeWhile_append_of_pos hdigits, hstop.1, List.append_nil]
    have hdrop : (ds.map digitChar ++ s).dropWhile Char.isDigit = s := by
      rw [List.dropWhile_append_of_pos hdigits, hstop.2]
    have hd' := hlt d List.mem_cons_self
    rw [htext, List.cons_append, number]
    · rw [if_pos (Decimal.isDigit_digitChar hd'), htake, hdrop]
    · intro hchar
      exact hd ((Decimal.digitChar_eq_zero_iff hd').mp hchar)

/-- A natural number is read back. -/
lemma number_natText {n : Nat} (hn : n ≤ maxInteger) {s : List Char} (h : EndsNumber s)
    (negative : Bool) : number negative (natText n ++ s) = .ok (wholeNumber negative n, s) := by
  rw [number_digits n (fun c hc => (h c hc).1), absorb_natText hn,
    afterInteger_of_endsNumber h negative n]

/-- An integer of one of the 64-bit types is read back. -/
lemma wholeNumber_eq {n : Int} (h : Number.IsWord (.int n)) :
    n.natAbs ≤ maxInteger ∧ wholeNumber (decide (n < 0)) n.natAbs = .int n := by
  obtain ⟨hlow, hhigh⟩ := h
  have hmax : maxInteger = 2 ^ 64 - 1 := rfl
  have hpow : Nat.pow 2 63 = 2 ^ 63 := rfl
  refine ⟨by omega, ?_⟩
  unfold wholeNumber
  by_cases hneg : n < 0
  · rw [decide_eq_true hneg, if_pos rfl, if_neg (by omega), Number.int.injEq]
    omega
  · rw [decide_eq_false hneg, if_neg Bool.false_ne_true, Number.int.injEq]
    omega

/-! ## Strings -/

lemma hexDigit?_hexDigit {n : Nat} (h : n < 16) : Text.hexDigit? (hexDigit n) = some n := by
  revert n
  decide

/-- The escape of a control character that has no letter of its own is read back. -/
lemma unicodeEscape_control {c : Char} (h : c.toNat < 0x20) (s : List Char) :
    unicodeEscape ('0' :: '0' :: hexDigit (c.toNat / 16) :: hexDigit (c.toNat % 16) :: s) =
      .ok (c, s) := by
  have hhigh : c.toNat / 16 < 16 := by omega
  have hlow : c.toNat % 16 < 16 := by omega
  have hvalue : ((0 * 16 + 0) * 16 + c.toNat / 16) * 16 + c.toNat % 16 = c.toNat := by omega
  have hlength : ¬Text.byteLength ['0', '0', hexDigit (c.toNat / 16), hexDigit (c.toNat % 16)] < 4 := by
    have hhigh := Char.utf8Size_pos (hexDigit (c.toNat / 16))
    have hlow := Char.utf8Size_pos (hexDigit (c.toNat % 16))
    have hzero : Char.utf8Size '0' = 1 := rfl
    simp only [Text.byteLength, List.foldl_cons, List.foldl_nil, hzero]
    omega
  have hunit : hexUnit ('0' :: '0' :: hexDigit (c.toNat / 16) :: hexDigit (c.toNat % 16) :: s) =
      .ok (c.toNat, s) := by
    have hzero : Text.hexDigit? '0' = some 0 := rfl
    rw [hexUnit, List.take, List.take, List.take, List.take, List.take, if_neg hlength]
    simp only [hzero, hexDigit?_hexDigit hhigh, hexDigit?_hexDigit hlow, hvalue]
  simp only [unicodeEscape, hunit]
  change (if _ then _ else if _ then _ else _) = _
  rw [if_neg (by omega), if_pos (by omega), Char.ofNat_toNat]

/-- The written form of a character is read back. -/
lemma stringBody_escape (fuel : Nat) (seen : List Char) (c : Char) (s : List Char) :
    stringBody (fuel + 1) seen (escape c ++ s) = stringBody fuel (c :: seen) s := by
  unfold escape
  split_ifs with hquote hslash hback htab hline hfeed hreturn hcontrol
  · subst hquote; rfl
  · subst hslash; rfl
  · subst hback; rfl
  · subst htab; rfl
  · subst hline; rfl
  · subst hfeed; rfl
  · subst hreturn; rfl
  · simp only [List.cons_append, List.nil_append, stringBody, unicodeEscape_control hcontrol]
  · rw [List.singleton_append, stringBody]
    · rw [if_neg hcontrol]
    all_goals simp_all

lemma stringBody_quote {fuel : Nat} {text : List Char} (h : text.length < fuel)
    (seen s : List Char) :
    stringBody fuel seen (text.flatMap escape ++ '"' :: s) = .ok (seen.reverse ++ text, s) := by
  induction text generalizing fuel seen with
  | nil =>
    obtain ⟨fuel, rfl⟩ := Nat.exists_eq_succ_of_ne_zero (Nat.ne_of_gt h)
    rw [List.flatMap_nil, List.nil_append, List.append_nil]
    rfl
  | cons c text ih =>
    obtain ⟨fuel, rfl⟩ := Nat.exists_eq_succ_of_ne_zero (Nat.ne_of_gt (Nat.zero_lt_of_lt h))
    rw [List.flatMap_cons, List.append_assoc, stringBody_escape,
      ih (Nat.lt_of_succ_lt_succ h), List.reverse_cons, List.append_assoc, List.singleton_append]

lemma length_le_escaped (text : List Char) : text.length ≤ (text.flatMap escape).length := by
  induction text with
  | nil => exact Nat.le_refl 0
  | cons c text ih =>
    have hc : 1 ≤ (escape c).length := by
      unfold escape
      split_ifs <;> simp
    rw [List.flatMap_cons, List.length_append, List.length_cons]
    omega

lemma quote_append (text : String) (s : List Char) :
    quote text ++ s = '"' :: (text.toList.flatMap escape ++ '"' :: s) := by
  rw [quote, List.cons_append, List.append_assoc, List.singleton_append]

/-- A quoted string is read back, behind its opening quote. -/
lemma stringRest_quote {fuel : Nat} {text : String} (h : (quote text).length ≤ fuel + 1)
    (s : List Char) :
    stringRest fuel (text.toList.flatMap escape ++ '"' :: s) = .ok (text, s) := by
  have hlength := length_le_escaped text.toList
  have hfuel : text.toList.length < fuel := by
    simp only [quote, List.length_cons, List.length_append, List.length_nil] at h
    omega
  rw [stringRest, stringBody_quote hfuel, List.reverse_nil, List.nil_append]
  change Except.ok (String.ofList text.toList, s) = _
  rw [String.ofList_toList]

/-! ## Containers -/

variable {l : Layout} {fuel depth k : Nat} {v : Value} {vs : List Value}
variable {ms : List (String × Value)} {rest ws : List Char}

lemma not_blank_of_isDigit {c : Char} (h : c.isDigit = true) : isBlank c = false := by
  by_contra hblank
  simp only [isBlank, Bool.not_eq_false, Bool.or_eq_true, beq_iff_eq] at hblank
  rcases hblank with ((rfl | rfl) | rfl) | rfl <;> cases h

/-- The written form of a value starts with neither a blank nor the end of an array. -/
lemma exists_write_eq_cons (l : Layout) (k : Nat) (hv : ∀ n ∈ v.numbers, n.IsWord) :
    ∃ c s, l.write k v = c :: s ∧ isBlank c = false ∧ c ≠ ']' := by
  cases v with
  | null => exact ⟨'n', _, rfl, rfl, by decide⟩
  | bool b =>
    cases b with
    | false => exact ⟨'f', _, rfl, rfl, by decide⟩
    | true => exact ⟨'t', _, rfl, rfl, by decide⟩
  | number n =>
    cases n with
    | float x => exact absurd (hv _ (List.mem_singleton_self _)) id
    | int n =>
      have hwrite : l.write k (.number (.int n)) = intText n := rfl
      rw [hwrite, intText]
      split
      case isTrue => exact ⟨'-', _, rfl, rfl, by decide⟩
      case isFalse =>
        obtain ⟨c, s, htext, hc⟩ := Decimal.exists_natText_eq_cons n.natAbs
        refine ⟨c, s, htext, not_blank_of_isDigit hc, ?_⟩
        rintro rfl
        cases hc
  | string s => exact ⟨'"', _, rfl, rfl, by decide⟩
  | array vs => cases vs <;> exact ⟨'[', _, rfl, rfl, by decide⟩
  | object ms => cases ms <;> exact ⟨'{', _, rfl, rfl, by decide⟩

/-- A value is read behind blanks as without them. -/
lemma value_blank (hws : IsBlankText ws) {s : List Char}
    (h : value fuel depth s = .ok (v, rest)) : value fuel depth (ws ++ s) = .ok (v, rest) := by
  cases fuel with
  | zero => cases h
  | succ fuel =>
    rw [value, skipBlanks_append hws]
    rwa [value] at h

lemma beforeItem_first (hws : IsBlankText ws) {c : Char} (hc : isBlank c = false) (hend : c ≠ ']')
    (s : List Char) : beforeItem true (ws ++ c :: s) = .ok (true, c :: s) := by
  rw [beforeItem, skipBlanks_append hws, skipBlanks_cons hc]
  split
  case h_1 heq => cases heq
  case h_2 heq => exact absurd (List.cons.inj heq).1 hend
  case h_3 heq =>
    cases heq
    rw [if_pos rfl]

lemma beforeItem_comma (hws : IsBlankText ws) {c : Char} (hc : isBlank c = false) (hend : c ≠ ']')
    (s : List Char) : beforeItem false (',' :: (ws ++ c :: s)) = .ok (true, c :: s) := by
  rw [beforeItem, skipBlanks_cons rfl]
  split
  case h_1 heq => cases heq
  case h_2 heq => exact absurd (List.cons.inj heq).1 (by decide)
  case h_3 heq =>
    cases heq
    rw [if_neg Bool.false_ne_true, if_pos rfl, skipBlanks_append hws, skipBlanks_cons hc]
    split
    case h_1 heq => cases heq
    case h_2 heq => exact absurd (List.cons.inj heq).1 hend
    case h_3 => rfl

lemma beforeItem_end (first : Bool) (hws : IsBlankText ws) (s : List Char) :
    beforeItem first (ws ++ ']' :: s) = .ok (false, s) := by
  rw [beforeItem, skipBlanks_append hws, skipBlanks_cons rfl]
  rfl

lemma beforeName_first (hws : IsBlankText ws) (s : List Char) :
    beforeName true (ws ++ '"' :: s) = .ok (true, s) := by
  rw [beforeName, skipBlanks_append hws, skipBlanks_cons rfl]
  rfl

lemma beforeName_comma (hws : IsBlankText ws) (s : List Char) :
    beforeName false (',' :: (ws ++ '"' :: s)) = .ok (true, s) := by
  rw [beforeName, skipBlanks_cons rfl]
  split
  case h_1 heq => cases heq
  case h_2 heq => exact absurd (List.cons.inj heq).1 (by decide)
  case h_3 heq =>
    cases heq
    rw [if_neg Bool.false_ne_true, if_pos rfl, skipBlanks_append hws, skipBlanks_cons rfl]
    rfl

lemma beforeName_end (first : Bool) (hws : IsBlankText ws) (s : List Char) :
    beforeName first (ws ++ '}' :: s) = .ok (false, s) := by
  rw [beforeName, skipBlanks_append hws, skipBlanks_cons rfl]
  rfl

/-- An integer is read back as a value. -/
lemma value_intText {n : Int} (hn : Number.IsWord (.int n)) (hrest : Follows rest) :
    value (fuel + 1) depth (intText n ++ rest) = .ok (.number (.int n), rest) := by
  obtain ⟨hmax, hwhole⟩ := wholeNumber_eq hn
  have hnumber := number_natText hmax hrest.endsNumber (decide (n < 0))
  rw [hwhole] at hnumber
  rw [intText]
  split
  case isTrue hneg =>
    rw [decide_eq_true hneg] at hnumber
    rw [List.cons_append, value, skipBlanks_cons rfl]
    simp only [hnumber]
    rfl
  case isFalse hneg =>
    rw [decide_eq_false hneg] at hnumber
    obtain ⟨c, s, htext, hc⟩ := Decimal.exists_natText_eq_cons n.natAbs
    rw [htext, List.cons_append] at hnumber
    rw [htext, List.cons_append, value, skipBlanks_cons (not_blank_of_isDigit hc)]
    split
    case h_9 heq =>
      cases heq
      rw [if_pos hc, hnumber]
      rfl
    -- no word, sign, quote or bracket is a digit
    all_goals
      rename_i heq
      cases heq
      try cases hc

lemma value_quote {text : String} (h : (quote text).length ≤ fuel + 1) :
    value (fuel + 1) depth (quote text ++ rest) = .ok (.string text, rest) := by
  have htext := stringRest_quote h rest
  rw [quote_append, value, skipBlanks_cons rfl]
  simp only [htext]
  rfl

/-- Reading an array goes on with its items. -/
lemma value_bracket (hdepth : 1 < depth) {s : List Char}
    (h : items fuel (depth - 1) true s = .ok (vs, rest)) :
    value (fuel + 1) depth ('[' :: s) = .ok (.array vs, rest) := by
  rw [value, skipBlanks_cons rfl]
  simp only [if_neg (Nat.not_le.mpr hdepth), h]
  rfl

/-- Reading an object goes on with its members. -/
lemma value_brace (hdepth : 1 < depth) {s : List Char}
    (h : members fuel (depth - 1) true s = .ok (ms, rest)) :
    value (fuel + 1) depth ('{' :: s) = .ok (.object (Members.ofList ms), rest) := by
  rw [value, skipBlanks_cons rfl]
  simp only [if_neg (Nat.not_le.mpr hdepth), h]
  rfl

lemma items_end (first : Bool) (hws : IsBlankText ws) :
    items (fuel + 1) depth first (ws ++ ']' :: rest) = .ok ([], rest) := by
  rw [items, beforeItem_end first hws]
  rfl

lemma items_more {first : Bool} {s s' s'' : List Char} (hmore : beforeItem first s = .ok (true, s'))
    (hv : value fuel depth s' = .ok (v, s''))
    (hvs : items fuel depth false s'' = .ok (vs, rest)) :
    items (fuel + 1) depth first s = .ok (v :: vs, rest) := by
  simp only [items, hmore, hv, hvs, bind, Except.bind, if_pos]

lemma members_end (first : Bool) (hws : IsBlankText ws) :
    members (fuel + 1) depth first (ws ++ '}' :: rest) = .ok ([], rest) := by
  rw [members, beforeName_end first hws]
  rfl

/-- Reading members goes on behind the opening quote of a name that was written. -/
lemma members_more {first : Bool} {name : String} {s s' s'' : List Char}
    (hname : (quote name).length ≤ fuel + 1)
    (hmore : beforeName first s = .ok (true, name.toList.flatMap escape ++ '"' :: ':' :: s'))
    (hv : value fuel depth s' = .ok (v, s''))
    (hms : members fuel depth false s'' = .ok (ms, rest)) :
    members (fuel + 1) depth first s = .ok ((name, v) :: ms, rest) := by
  have hcolon : colon (':' :: s') = .ok s' := rfl
  simp only [members, hmore, stringRest_quote hname, hcolon, hv, hms, bind, Except.bind, if_pos]

lemma follows_writeItems (k : Nat) (vs : List Value) (rest : List Char) :
    Follows (l.writeItems k vs ++ rest) := by
  cases vs with
  | nil =>
    rw [Layout.writeItems, List.append_assoc]
    exact Follows.blank (l.lineBreak_blank k) (by simp [Follows])
  | cons => simp [Layout.writeItems, Follows]

lemma follows_writeMembers (k : Nat) (ms : List (String × Value)) (rest : List Char) :
    Follows (l.writeMembers k ms ++ rest) := by
  cases ms with
  | nil =>
    rw [Layout.writeMembers, List.append_assoc]
    exact Follows.blank (l.lineBreak_blank k) (by simp [Follows])
  | cons => simp [Layout.writeMembers, Follows]

lemma writeItems_pos (l : Layout) (k : Nat) (vs : List Value) :
    1 ≤ (l.writeItems k vs).length := by
  cases vs <;> simp [Layout.writeItems]

lemma writeMembers_pos (l : Layout) (k : Nat) (ms : List (String × Value)) :
    1 ≤ (l.writeMembers k ms).length := by
  cases ms <;> simp [Layout.writeMembers]

mutual

/-- What is read from the written form of a value is the value, with its members in order. -/
theorem value_write : ∀ {fuel depth k : Nat} {v : Value} {rest : List Char},
    (l.write k v).length ≤ fuel → v.nesting < depth → (∀ n ∈ v.numbers, n.IsWord) →
    Follows rest → value fuel depth (l.write k v ++ rest) = .ok (v.ordered, rest)
  | 0, _, k, v, _, hfuel, _, hn, _ => by
    obtain ⟨c, s, hwrite, -⟩ := exists_write_eq_cons l k hn
    rw [hwrite] at hfuel
    cases hfuel
  | fuel + 1, _, _, .null, rest, _, _, _, _ => by
    have hword : word ['u', 'l', 'l'] ('u' :: 'l' :: 'l' :: rest) = .ok rest := word_append _ _
    change value (fuel + 1) _ ('n' :: 'u' :: 'l' :: 'l' :: rest) = _
    rw [value, skipBlanks_cons rfl]
    simp only [hword]
    rfl
  | fuel + 1, _, _, .bool false, rest, _, _, _, _ => by
    have hword : word ['a', 'l', 's', 'e'] ('a' :: 'l' :: 's' :: 'e' :: rest) = .ok rest :=
      word_append _ _
    change value (fuel + 1) _ ('f' :: 'a' :: 'l' :: 's' :: 'e' :: rest) = _
    rw [value, skipBlanks_cons rfl]
    simp only [hword]
    rfl
  | fuel + 1, _, _, .bool true, rest, _, _, _, _ => by
    have hword : word ['r', 'u', 'e'] ('r' :: 'u' :: 'e' :: rest) = .ok rest := word_append _ _
    change value (fuel + 1) _ ('t' :: 'r' :: 'u' :: 'e' :: rest) = _
    rw [value, skipBlanks_cons rfl]
    simp only [hword]
    rfl
  | _ + 1, _, _, .number (.int n), _, _, _, hn, hrest =>
    value_intText (hn _ (List.mem_singleton_self _)) hrest
  | _ + 1, _, _, .number (.float x), _, _, _, hn, _ =>
    absurd (hn _ (List.mem_singleton_self _)) id
  | _ + 1, _, _, .string s, _, hfuel, _, _, _ => value_quote hfuel
  | fuel + 1, _, _, .array [], _, hfuel, hdepth, _, _ => by
    rw [Value.nesting] at hdepth
    obtain ⟨fuel, rfl⟩ := Nat.exists_eq_add_of_le' (Nat.le_of_succ_le_succ hfuel)
    exact value_bracket (by omega) (items_end true (show IsBlankText [] by simp [IsBlankText]))
  | fuel + 1, depth, k, .array (v :: vs), rest, hfuel, hdepth, hn, _ => by
    rw [Value.nesting, Value.nestingItems] at hdepth
    rw [Layout.write, List.length_cons, List.length_append, List.length_append] at hfuel
    rw [Value.numbers, Value.numbersOfItems, List.forall_mem_append] at hn
    obtain ⟨c, s, hwrite, hblank, hend⟩ := exists_write_eq_cons l (k + 1) hn.1
    have hpos : 0 < (l.write (k + 1) v).length := hwrite ▸ Nat.succ_pos _
    obtain ⟨fuel, rfl⟩ := Nat.exists_eq_add_of_le' (show 1 ≤ fuel by omega)
    have hmore : beforeItem true (l.lineBreak (k + 1) ++
        (l.write (k + 1) v ++ (l.writeItems k vs ++ rest))) =
          .ok (true, l.write (k + 1) v ++ (l.writeItems k vs ++ rest)) := by
      rw [hwrite]
      exact beforeItem_first (l.lineBreak_blank _) hblank hend _
    have hv : value fuel (depth - 1) (l.write (k + 1) v ++ (l.writeItems k vs ++ rest)) =
        .ok (v.ordered, l.writeItems k vs ++ rest) :=
      value_write (by have := writeItems_pos l k vs; omega) (by omega) hn.1
        (follows_writeItems k vs rest)
    have hvs : items fuel (depth - 1) false (l.writeItems k vs ++ rest) =
        .ok (Value.orderedItems vs, rest) := items_writeItems (by omega) (by omega) hn.2
    rw [Layout.write, List.cons_append, List.append_assoc, List.append_assoc]
    exact value_bracket (by omega) (items_more hmore hv hvs)
  | fuel + 1, _, _, .object [], _, hfuel, hdepth, _, _ => by
    rw [Value.nesting] at hdepth
    obtain ⟨fuel, rfl⟩ := Nat.exists_eq_add_of_le' (Nat.le_of_succ_le_succ hfuel)
    exact value_brace (by omega) (members_end true (show IsBlankText [] by simp [IsBlankText]))
  | fuel + 1, depth, k, .object ((name, v) :: ms), rest, hfuel, hdepth, hn, _ => by
    rw [Value.nesting, Value.nestingMembers] at hdepth
    rw [Layout.write, List.length_cons, List.length_append, List.length_append, List.length_cons,
      List.length_append, List.length_append] at hfuel
    rw [Value.numbers, Value.numbersOfMembers, List.forall_mem_append] at hn
    obtain ⟨fuel, rfl⟩ := Nat.exists_eq_add_of_le' (show 1 ≤ fuel by omega)
    have hmore : beforeName true (l.lineBreak (k + 1) ++ (quote name ++ ':' :: (l.gap ++
        (l.write (k + 1) v ++ (l.writeMembers k ms ++ rest))))) =
          .ok (true, name.toList.flatMap escape ++ '"' :: ':' :: (l.gap ++
            (l.write (k + 1) v ++ (l.writeMembers k ms ++ rest)))) := by
      rw [quote_append]
      exact beforeName_first (l.lineBreak_blank _) _
    have hpos := writeMembers_pos l k ms
    have hv : value fuel (depth - 1) (l.write (k + 1) v ++ (l.writeMembers k ms ++ rest)) =
        .ok (v.ordered, l.writeMembers k ms ++ rest) :=
      value_write (by omega) (by omega) hn.1 (follows_writeMembers k ms rest)
    have hms : members fuel (depth - 1) false (l.writeMembers k ms ++ rest) =
        .ok (Value.orderedMembers ms, rest) := members_writeMembers (by omega) (by omega) hn.2
    simp only [Layout.write, List.cons_append, List.append_assoc]
    exact value_brace (by omega) (members_more (by omega) hmore (value_blank l.gap_blank hv) hms)

/-- What is read behind an item is the items after it. -/
theorem items_writeItems : ∀ {fuel depth k : Nat} {vs : List Value} {rest : List Char},
    (l.writeItems k vs).length ≤ fuel → Value.nestingItems vs < depth →
    (∀ n ∈ Value.numbersOfItems vs, n.IsWord) →
    items fuel depth false (l.writeItems k vs ++ rest) = .ok (Value.orderedItems vs, rest)
  | fuel, _, k, [], rest, hfuel, _, _ => by
    obtain ⟨fuel, rfl⟩ := Nat.exists_eq_add_of_le' (Nat.le_trans (writeItems_pos l k []) hfuel)
    rw [Layout.writeItems, List.append_assoc]
    exact items_end false (l.lineBreak_blank k)
  | fuel, depth, k, v :: vs, rest, hfuel, hdepth, hn => by
    obtain ⟨fuel, rfl⟩ := Nat.exists_eq_add_of_le' (Nat.le_trans (writeItems_pos l k (v :: vs)) hfuel)
    rw [Layout.writeItems, List.length_cons, List.length_append, List.length_append] at hfuel
    rw [Value.nestingItems] at hdepth
    rw [Value.numbersOfItems, List.forall_mem_append] at hn
    obtain ⟨c, s, hwrite, hblank, hend⟩ := exists_write_eq_cons l (k + 1) hn.1
    have hmore : beforeItem false (',' :: (l.lineBreak (k + 1) ++
        (l.write (k + 1) v ++ (l.writeItems k vs ++ rest)))) =
          .ok (true, l.write (k + 1) v ++ (l.writeItems k vs ++ rest)) := by
      rw [hwrite]
      exact beforeItem_comma (l.lineBreak_blank _) hblank hend _
    have hv : value fuel depth (l.write (k + 1) v ++ (l.writeItems k vs ++ rest)) =
        .ok (v.ordered, l.writeItems k vs ++ rest) :=
      value_write (by omega) (by omega) hn.1 (follows_writeItems k vs rest)
    have hvs : items fuel depth false (l.writeItems k vs ++ rest) =
        .ok (Value.orderedItems vs, rest) := items_writeItems (by omega) (by omega) hn.2
    rw [Layout.writeItems, List.cons_append, List.append_assoc, List.append_assoc]
    exact items_more hmore hv hvs

/-- What is read behind a member is the members after it. -/
theorem members_writeMembers : ∀ {fuel depth k : Nat} {ms : List (String × Value)}
    {rest : List Char}, (l.writeMembers k ms).length ≤ fuel → Value.nestingMembers ms < depth →
    (∀ n ∈ Value.numbersOfMembers ms, n.IsWord) →
    members fuel depth false (l.writeMembers k ms ++ rest) = .ok (Value.orderedMembers ms, rest)
  | fuel, _, k, [], rest, hfuel, _, _ => by
    obtain ⟨fuel, rfl⟩ := Nat.exists_eq_add_of_le' (Nat.le_trans (writeMembers_pos l k []) hfuel)
    rw [Layout.writeMembers, List.append_assoc]
    exact members_end false (l.lineBreak_blank k)
  | fuel, depth, k, (name, v) :: ms, rest, hfuel, hdepth, hn => by
    obtain ⟨fuel, rfl⟩ :=
      Nat.exists_eq_add_of_le' (Nat.le_trans (writeMembers_pos l k ((name, v) :: ms)) hfuel)
    rw [Layout.writeMembers, List.length_cons, List.length_append, List.length_append,
      List.length_cons, List.length_append, List.length_append] at hfuel
    rw [Value.nestingMembers] at hdepth
    rw [Value.numbersOfMembers, List.forall_mem_append] at hn
    have hmore : beforeName false (',' :: (l.lineBreak (k + 1) ++ (quote name ++ ':' :: (l.gap ++
        (l.write (k + 1) v ++ (l.writeMembers k ms ++ rest)))))) =
          .ok (true, name.toList.flatMap escape ++ '"' :: ':' :: (l.gap ++
            (l.write (k + 1) v ++ (l.writeMembers k ms ++ rest)))) := by
      rw [quote_append]
      exact beforeName_comma (l.lineBreak_blank _) _
    have hv : value fuel depth (l.write (k + 1) v ++ (l.writeMembers k ms ++ rest)) =
        .ok (v.ordered, l.writeMembers k ms ++ rest) :=
      value_write (by omega) (by omega) hn.1 (follows_writeMembers k ms rest)
    have hms : members fuel depth false (l.writeMembers k ms ++ rest) =
        .ok (Value.orderedMembers ms, rest) := members_writeMembers (by omega) (by omega) hn.2
    simp only [Layout.writeMembers, List.cons_append, List.append_assoc]
    exact members_more (by omega) hmore (value_blank l.gap_blank hv) hms

end

/-! ## Whole texts -/

/-- What is read from a text that is the written form of a value, up to blanks behind it. -/
lemma readChars_write (hws : IsBlankText ws) (hdepth : v.nesting ≤ 127)
    (hn : ∀ n ∈ v.numbers, n.IsWord) : readChars (l.write 0 v ++ ws) = .ok v.ordered := by
  have hvalue : value (2 * (l.write 0 v ++ ws).length + 2) maxNesting (l.write 0 v ++ ws) =
      .ok (v.ordered, ws) :=
    value_write (by rw [List.length_append]; omega) (Nat.lt_succ_of_le hdepth) hn
      (by simpa using Follows.blank hws (s := []) (by simp [Follows]))
  have hend : skipBlanks ws = [] := by
    rw [← List.append_nil ws, skipBlanks_append hws]
    rfl
  simp only [readChars, hvalue, bind, Except.bind, finish, hend]

/-- The compact text of a tree is read back. -/
theorem read_compact (hdepth : v.nesting ≤ 127) (hn : ∀ n ∈ v.numbers, n.IsWord) :
    read v.compact = .ok v.ordered := by
  have hread : readChars (Layout.compact.write 0 v ++ []) = .ok v.ordered :=
    readChars_write (by simp [IsBlankText]) hdepth hn
  rw [Layout.write_compact, List.append_nil] at hread
  rwa [read, Value.compact, String.toList_ofList]

/-- The indented text of a tree is read back. -/
theorem read_pretty (hdepth : v.nesting ≤ 127) (hn : ∀ n ∈ v.numbers, n.IsWord) :
    read v.pretty = .ok v.ordered := by
  have hread : readChars (Layout.indented.write 0 v ++ []) = .ok v.ordered :=
    readChars_write (by simp [IsBlankText]) hdepth hn
  rw [Layout.write_indented, List.append_nil] at hread
  rwa [read, Value.pretty, String.toList_ofList]

/-- The indented text of a tree is read back as a line, too. -/
theorem read_pretty_line (hdepth : v.nesting ≤ 127) (hn : ∀ n ∈ v.numbers, n.IsWord) :
    read (v.pretty ++ "\n") = .ok v.ordered := by
  have hread : readChars (Layout.indented.write 0 v ++ ['\n']) = .ok v.ordered :=
    readChars_write (by simp [IsBlankText]) hdepth hn
  rw [Layout.write_indented] at hread
  rwa [read, Value.pretty, String.toList_append, String.toList_ofList]

end AgentManifest.Json
