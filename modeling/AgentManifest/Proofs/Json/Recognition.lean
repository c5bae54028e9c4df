import AgentManifest.Proofs.Json.Decoders
import AgentManifest.Proofs.Json.Spelling

/-!
# What decoders accept

Which texts of JSON values a decoder accepts, and what it makes of them: the numbers written in their
digits alone, the strings that denote a text, and arrays of what another decoder accepts
(`Decoder.Recognizes`). All other texts are refused.
-/

namespace AgentManifest.Json

open Decimal (natText digitChar)

variable {α : Type} {fuel depth : Nat} {s t ts rest behind ws : List Char} {c : Char} {a : α}

/-! ## Values by their first character -/

/-- Blanks may stand around a text with some property. -/
def Padded (P : List Char → Prop) (t : List Char) : Prop :=
  ∃ ws core ws', t = ws ++ (core ++ ws') ∧ IsGap ws ∧ P core ∧ IsGap ws'

/-- What may stand behind a character for both to be the text of a value without blanks around it. -/
inductive Continues : Char → List Char → Prop where
  | word {c : Char} {s : List Char}
      (h : c :: s ∈ [['n', 'u', 'l', 'l'], ['t', 'r', 'u', 'e'], ['f', 'a', 'l', 's', 'e']]) :
      Continues c s
  | positive {c : Char} {s : List Char} (h : IsNumeral (c :: s)) : Continues c s
  | negative {s : List Char} (h : IsNumeral s) : Continues '-' s
  | string {s : List Char} (h : IsQuoted ('"' :: s)) : Continues '"' s
  | emptyArray {ws : List Char} (h : IsGap ws) : Continues '[' (ws ++ [']'])
  | array {ts : List Char} (h : IsPiece .items ts) : Continues '[' ts
  | emptyObject {ws : List Char} (h : IsGap ws) : Continues '{' (ws ++ ['}'])
  | object {ms : List Char} (h : IsPiece .members ms) : Continues '{' ms

lemma IsNumeral.isDigit (h : IsNumeral (c :: s)) : c.isDigit = true := by
  obtain ⟨d, s', heq, hd⟩ := h.exists_digit
  cases heq
  exact hd

lemma Continues.not_blank (h : Continues c s) : isBlank c = false := by
  cases h with
  | word h =>
    simp only [List.mem_cons, List.cons.injEq, List.not_mem_nil, or_false] at h
    rcases h with ⟨rfl, -⟩ | ⟨rfl, -⟩ | ⟨rfl, -⟩ <;> rfl
  | positive h => exact not_blank_of_isDigit h.isDigit
  | _ => rfl

lemma padded_self {P : List Char → Prop} (h : P t) : Padded P t :=
  ⟨[], t, [], by simp, nofun, h, nofun⟩

lemma IsPiece.exists_core {p : Piece} (h : IsPiece p t) :
    p = .value → Padded (fun core => ∃ c s, core = c :: s ∧ Continues c s) t := by
  induction h with
  | @padded ws _ ws' hws _ hws' ih =>
    intro hp
    obtain ⟨gap, core, gap', rfl, hgap, hcore, hgap'⟩ := ih hp
    exact ⟨ws ++ gap, core, gap' ++ ws', by simp, List.forall_mem_append.mpr ⟨hws, hgap⟩, hcore,
      List.forall_mem_append.mpr ⟨hgap', hws'⟩⟩
  | nullWord => exact fun _ => padded_self ⟨'n', _, rfl, .word (by decide)⟩
  | trueWord => exact fun _ => padded_self ⟨'t', _, rfl, .word (by decide)⟩
  | falseWord => exact fun _ => padded_self ⟨'f', _, rfl, .word (by decide)⟩
  | positive h =>
    obtain ⟨c, s, rfl, -⟩ := h.exists_digit
    exact fun _ => padded_self ⟨c, s, rfl, .positive h⟩
  | negative h => exact fun _ => padded_self ⟨'-', _, rfl, .negative h⟩
  | string h =>
    obtain ⟨units, hunits, rfl⟩ := h
    exact fun _ => padded_self ⟨'"', _, rfl, .string ⟨units, hunits, rfl⟩⟩
  | emptyArray h => exact fun _ => padded_self ⟨'[', _, rfl, .emptyArray h⟩
  | array h => exact fun _ => padded_self ⟨'[', _, rfl, .array h⟩
  | emptyObject h => exact fun _ => padded_self ⟨'{', _, rfl, .emptyObject h⟩
  | object h => exact fun _ => padded_self ⟨'{', _, rfl, .object h⟩
  | lastItem | item | lastMember | member => exact nofun

/-- Behind the blanks of the text of a value there is its first character. -/
lemma IsText.exists_continues (h : IsText t) (rest : List Char) :
    ∃ ws c s ws', t = ws ++ (c :: (s ++ ws')) ∧ IsGap ws ∧ IsGap ws' ∧ Continues c s ∧
      skipBlanks (t ++ rest) = c :: (s ++ (ws' ++ rest)) := by
  obtain ⟨ws, core, ws', rfl, hws, ⟨c, s, rfl, hcore⟩, hws'⟩ := IsPiece.exists_core h rfl
  refine ⟨ws, c, s, ws', rfl, hws, hws', hcore, ?_⟩
  rw [List.append_assoc, skipBlanks_gap hws, List.append_assoc, List.cons_append,
    skipBlanks_cons hcore.not_blank]

/-! ## Numbers -/

/-- The digits of a number are those that are written for a natural number. -/
lemma IsWhole.exists_natText (h : IsWhole s) : ∃ n, s = natText n := by
  rcases h with rfl | ⟨⟨hne, hdigits⟩, hzero⟩
  · exact ⟨0, rfl⟩
  have hrange : ∀ c ∈ s, 48 ≤ c.toNat ∧ c.toNat ≤ 57 := by
    intro c hc
    have hdigit := hdigits c hc
    simp only [Char.isDigit, Bool.and_eq_true, decide_eq_true_eq, UInt32.le_iff_toNat_le] at hdigit
    exact hdigit
  have hvalue : ∀ c ∈ s, digitChar (digitValue c) = c := by
    intro c hc
    have hsum : '0'.toNat + (c.toNat - '0'.toNat) = c.toNat :=
      Nat.add_sub_of_le (hrange c hc).1
    rw [digitChar, digitValue, hsum, Char.ofNat_toNat]
  have hlt : ∀ d ∈ (s.map digitValue).reverse, d < 10 := by
    intro d hd
    obtain ⟨c, hc, rfl⟩ := List.mem_map.mp (List.mem_reverse.mp hd)
    have hc' := hrange c hc
    have hzero : '0'.toNat = 48 := rfl
    rw [digitValue]
    omega
  have hlast : ∀ h : (s.map digitValue).reverse ≠ [], (s.map digitValue).reverse.getLast h ≠ 0 := by
    obtain ⟨c, s, rfl⟩ := List.exists_cons_of_ne_nil hne
    intro _ hlast
    simp only [List.map_cons, List.reverse_cons, List.getLast_append_singleton] at hlast
    have hc := hvalue c List.mem_cons_self
    rw [hlast] at hc
    exact hzero (congrArg some hc.symm)
  refine ⟨Nat.ofDigits 10 (s.map digitValue).reverse, ?_⟩
  have hdigits' := Decimal.natDigits_eq (Nat.ofDigits 10 (s.map digitValue).reverse)
  rw [Nat.digits_ofDigits 10 (by decide) _ hlt hlast, List.reverse_reverse] at hdigits'
  have hmap : (s.map digitValue).map digitChar = s := by
    rw [List.map_map]
    exact (List.map_congr_left hvalue).trans (List.map_id s)
  rw [natText, hdigits']
  cases s with
  | nil => exact absurd rfl hne
  | cons c s => exact hmap.symm

/-- An integer is read where its digits were all taken up and nothing goes on with them. -/
lemma afterInteger_eq_int {negative : Bool} {n left : Nat} {m : Int}
    (h : afterInteger negative n left s = .ok (.int m, behind)) :
    left = 0 ∧ wholeNumber negative n = .int m ∧ behind = s ∧
      ∀ c ∈ s.head?, c ≠ '.' ∧ c ≠ 'e' ∧ c ≠ 'E' := by
  unfold afterInteger at h
  simp only [bind, Except.bind] at h
  split at h
  · split at h <;> cases h
  · rename_i c s hpoint
    split_ifs at h with hexponent hleft
    · split at h <;> cases h
    · obtain ⟨hwhole, rfl⟩ := Prod.mk.inj (Except.ok.inj h)
      rw [not_or] at hexponent
      refine ⟨hleft, hwhole, rfl, ?_⟩
      rintro _ ⟨⟩
      exact ⟨hpoint, hexponent⟩
    · split at h <;> cases h
  · split_ifs at h with hleft
    · obtain ⟨hwhole, rfl⟩ := Prod.mk.inj (Except.ok.inj h)
      exact ⟨hleft, hwhole, rfl, nofun⟩
    · split at h <;> cases h

/-- Behind a minus sign there is no natural number. -/
lemma number_true_eq_int {m : Int} (h : number true s = .ok (.int m, behind)) : m < 0 := by
  have hwhole {n left : Nat} {s : List Char}
      (h : afterInteger true n left s = .ok (.int m, behind)) : m < 0 := by
    have hnumber := (afterInteger_eq_int h).2.1
    rw [wholeNumber, if_pos rfl] at hnumber
    split_ifs at hnumber with hn
    obtain rfl := Number.int.inj hnumber
    omega
  unfold number at h
  split at h
  · cases h
  · split at h
    · split_ifs at h
      · cases h
      · exact hwhole h
    · exact hwhole h
  · split_ifs at h
    · exact hwhole h
    · cases h

/-- Digits that are all taken up spell a small number. -/
lemma le_of_absorb {ds : List Nat} (hds : ∀ d ∈ ds, d < 10) {n : Nat} (hn : n ≤ maxInteger)
    (h : (absorb n (ds.map digitChar)).2 = 0) :
    ds.foldl (fun n d => 10 * n + d) n ≤ maxInteger := by
  induction ds generalizing n with
  | nil => exact hn
  | cons d ds ih =>
    rw [List.forall_mem_cons] at hds
    rw [List.map_cons, absorb, digitValue_digitChar hds.1] at h
    split_ifs at h with hsmall
    exact ih hds.2 hsmall h

lemma le_of_absorb_natText {n : Nat} (h : (absorb 0 (natText n)).2 = 0) : n ≤ maxInteger := by
  by_cases hzero : n = 0
  · subst hzero
    exact Nat.zero_le _
  · obtain ⟨d, ds, hds, -, htext⟩ := Decimal.natText_of_ne_zero hzero
    have hlt : ∀ e ∈ d :: ds, e < 10 := fun e he => Decimal.digit_lt_ten (hds ▸ he)
    have hvalue : (d :: ds).foldl (fun n d => 10 * n + d) 0 = n :=
      hds ▸ Decimal.ofDigits_natDigits n
    rw [htext, ← List.map_cons] at h
    exact hvalue ▸ le_of_absorb hlt (Nat.zero_le _) h

/-- A numeral that is read as an integer is a natural number below `2^64` in its digits. -/
lemma number_eq_int {m : Int} (hs : IsNumeral s) (hrest : Ends rest)
    (h : number false (s ++ rest) = .ok (.int m, behind)) :
    ∃ n : Nat, s = natText n ∧ n < 2 ^ 64 ∧ m = n ∧ behind = rest := by
  obtain ⟨whole, fraction, exponent, rfl, hwhole, hfraction, hexponent⟩ := hs
  obtain ⟨n, rfl⟩ := hwhole.exists_natText
  have hhead : ∀ c ∈ (fraction ++ (exponent ++ rest)).head?, c.isDigit = false := by
    rcases hfraction with rfl | ⟨ds, rfl, -⟩
    · exact hexponent.head_not_digit hrest
    · rintro _ ⟨⟩
      rfl
  rw [List.append_assoc, List.append_assoc, number_digits n hhead] at h
  obtain ⟨hleft, hnumber, rfl, hends⟩ := afterInteger_eq_int h
  have hsmall := le_of_absorb_natText hleft
  rw [absorb_natText hsmall] at hnumber
  have hfraction' : fraction = [] := by
    rcases hfraction with rfl | ⟨ds, rfl, -⟩
    · rfl
    · exact absurd rfl (hends '.' rfl).1
  subst hfraction'
  have hexponent' : exponent = [] := by
    rcases hexponent with rfl | ⟨mark, sign, ds, rfl, hmark, -⟩
    · rfl
    · have hmark' := (hends mark rfl).2
      simp_all
  subst hexponent'
  refine ⟨n, by simp, Nat.lt_succ_of_le hsmall, ?_, rfl⟩
  exact (Number.int.inj hnumber).symm

lemma isNumeral_natText (n : Nat) : IsNumeral (natText n) := by
  refine ⟨natText n, [], [], by simp, ?_, .inl rfl, .inl rfl⟩
  by_cases hzero : n = 0
  · subst hzero
    exact .inl rfl
  · obtain ⟨d, ds, hds, hd, htext⟩ := Decimal.natText_of_ne_zero hzero
    refine .inr ⟨⟨by simp [htext], fun c hc => Decimal.isDigit_of_mem_natText hc⟩, ?_⟩
    have hlt : d < 10 := Decimal.digit_lt_ten (hds ▸ List.mem_cons_self)
    rw [htext]
    exact fun heq => hd ((Decimal.digitChar_eq_zero_iff hlt).mp (Option.some.inj heq))

/-! ## Single values -/

lemma skipBlanks_cons_of_eq (h : skipBlanks s = c :: t) : skipBlanks (c :: t) = c :: t := by
  rw [← h, skipBlanks_skipBlanks]

lemma refuse_blanks (expected : String) (fuel : Nat) (s : List Char) :
    (refuse expected fuel (skipBlanks s) : Except Stop (Parsed α)) = refuse expected fuel s := by
  rw [refuse, refuse, skipBlanks_skipBlanks]

/-- A refusal gives nothing. -/
lemma refuse_ne_ok (expected : String) (fuel : Nat) (s : List Char) (p : Parsed α) :
    refuse expected fuel s ≠ .ok p := by
  intro h
  unfold refuse at h
  simp only [stopAt, stopAfter, bind, Except.bind] at h
  repeat' split at h
  all_goals cases h

/-- What a decoder accepts stands in a relation to what it makes of it. -/
structure Decoder.Recognizes (decoder : Decoder α) (depth : Nat) (R : α → List Char → Prop) :
    Prop where
  isText : ∀ {a t}, R a t → IsText t
  blanks : ∀ fuel s, decoder fuel depth (skipBlanks s) = decoder fuel depth s
  sound : ∀ {fuel t rest a behind}, IsText t → t.length ≤ fuel → Ends rest →
    decoder fuel depth (t ++ rest) = .ok (a, behind) →
      R a t ∧ ∃ ws, IsGap ws ∧ behind = ws ++ rest
  complete : ∀ {fuel t a}, R a t → t.length ≤ fuel → ∀ {rest}, Ends rest →
    ∃ ws, IsGap ws ∧ decoder fuel depth (t ++ rest) = .ok (a, ws ++ rest)

/-- A text is the literal of a string, with blanks around it. -/
def IsString (text : String) (t : List Char) : Prop := Padded (Denotes · text) t

/-- A text is a natural number in its digits, with blanks around it. -/
def IsNatural (n : Nat) (t : List Char) : Prop := Padded (· = natText n) t

lemma IsString.isText {text : String} (h : IsString text t) : IsText t := by
  obtain ⟨ws, q, ws', rfl, hws, hq, hws'⟩ := h
  exact .padded hws (.string hq.isQuoted) hws'

lemma IsNatural.isText {n : Nat} (h : IsNatural n t) : IsText t := by
  obtain ⟨ws, _, ws', rfl, hws, rfl, hws'⟩ := h
  exact .padded hws (.positive (isNumeral_natText n)) hws'

lemma decodeString_eq_ok {text : String}
    (h : decodeString fuel depth s = .ok (text, behind)) :
    ∃ s', skipBlanks s = '"' :: s' ∧ stringRest fuel s' = .ok (text, behind) := by
  unfold decodeString at h
  split at h
  · exact ⟨_, ‹_›, h⟩
  · exact absurd h (refuse_ne_ok _ _ _ _)

/-- A string is decoded from the literals that denote it. -/
theorem decodeString_recognizes (depth : Nat) : decodeString.Recognizes depth IsString where
  isText := IsString.isText
  blanks fuel s := by rw [decodeString, decodeString, skipBlanks_skipBlanks]
  sound := by
    intro fuel t rest text behind ht hfuel hrest h
    obtain ⟨ws, c, s, ws', rfl, hws, hws', hcore, hskip⟩ := ht.exists_continues rest
    obtain ⟨s', hskip', hread⟩ := decodeString_eq_ok h
    rw [hskip] at hskip'
    obtain ⟨rfl, rfl⟩ := List.cons.inj hskip'
    cases hcore with
    | string hq =>
      obtain ⟨hdenotes, rfl⟩ := hq.denotes rfl hread
      exact ⟨⟨ws, _, ws', rfl, hws, hdenotes, hws'⟩, ws', hws', rfl⟩
    | word h => simp at h
    | positive h => cases h.isDigit
  complete := by
    rintro fuel t text ⟨ws, q, ws', rfl, hws, hq, hws'⟩ hfuel rest hrest
    rw [List.length_append, List.length_append] at hfuel
    obtain ⟨s, hs, hread⟩ := hq.stringRest (show q.length ≤ fuel + 1 by omega) (ws' ++ rest)
    refine ⟨ws', hws', ?_⟩
    rw [List.append_assoc, List.append_assoc, hs, decodeString, skipBlanks_gap hws,
      skipBlanks_cons rfl]
    exact hread

lemma decodeNatural_eq_ok {kind : String} {n : Nat}
    (h : decodeNatural kind fuel depth s = .ok (n, behind)) :
    ∃ c s', skipBlanks s = c :: s' ∧ c.isDigit = true ∧
      number false (c :: s') = .ok (.int n, behind) := by
  unfold decodeNatural at h
  simp only [bind, Except.bind] at h
  split at h
  · split at h
    · cases h
    · rename_i s' _ p hnumber
      split at h
      · rename_i m behind'
        have hm := number_true_eq_int hnumber
        rw [if_pos hm] at h
        cases h
      · cases h
  · rename_i c s' _ hskip
    split_ifs at h with hdigit
    · refine ⟨c, s', hskip, hdigit, ?_⟩
      split at h
      · cases h
      · rename_i p hnumber
        split at h
        · rename_i m behind'
          split_ifs at h with hm
          · cases h
          · obtain ⟨rfl, rfl⟩ := Prod.mk.inj (Except.ok.inj h)
            rw [hnumber, Int.toNat_of_nonneg (Int.not_lt.mp hm)]
        · cases h
    · exact absurd h (refuse_ne_ok _ _ _ _)
  · exact absurd h (refuse_ne_ok _ _ _ _)

/-- A natural number is decoded from its digits, if it is below `2^64`. -/
theorem decodeNatural_recognizes (kind : String) (depth : Nat) :
    (decodeNatural kind).Recognizes depth fun n t => n < 2 ^ 64 ∧ IsNatural n t where
  isText h := h.2.isText
  blanks fuel s := by
    rw [decodeNatural, decodeNatural, skipBlanks_skipBlanks, refuse_blanks]
  sound := by
    intro fuel t rest n behind ht hfuel hrest h
    obtain ⟨ws, c, s, ws', rfl, hws, hws', hcore, hskip⟩ := ht.exists_continues rest
    obtain ⟨c', s', hskip', hdigit, hnumber⟩ := decodeNatural_eq_ok h
    rw [hskip] at hskip'
    obtain ⟨rfl, rfl⟩ := List.cons.inj hskip'
    cases hcore with
    | positive hs =>
      obtain ⟨m, hm, hlt, heq, rfl⟩ := number_eq_int hs (hrest.gap hws') hnumber
      obtain rfl : n = m := Int.ofNat.inj heq
      exact ⟨⟨hlt, ws, c :: s, ws', rfl, hws, hm, hws'⟩, ws', hws', rfl⟩
    | word h =>
      simp only [List.mem_cons, List.cons.injEq, List.not_mem_nil, or_false] at h
      rcases h with ⟨rfl, -⟩ | ⟨rfl, -⟩ | ⟨rfl, -⟩ <;> cases hdigit
    | _ => cases hdigit
  complete := by
    rintro fuel t n ⟨hlt, ws, _, ws', rfl, hws, rfl, hws'⟩ hfuel rest hrest
    have hnumber := number_natText (Nat.le_of_lt_succ hlt) (hrest.gap hws').endsNumber false
    obtain ⟨c, s, htext, hc⟩ := Decimal.exists_natText_eq_cons n
    refine ⟨ws', hws', ?_⟩
    rw [htext, List.cons_append] at hnumber
    rw [htext, List.append_assoc, List.cons_append, List.cons_append, List.append_assoc,
      decodeNatural, skipBlanks_gap hws, skipBlanks_cons (not_blank_of_isDigit hc)]
    split
    case h_1 heq =>
      cases heq
      cases hc
    case h_2 heq =>
      cases heq
      rw [if_pos hc, hnumber]
      rfl
    case h_3 heq => cases heq

/-! ## Arrays -/

/-- What stands in front of the first item or member, or of a further one. -/
def IsLead (first : Bool) (lead : List Char) : Prop :=
  ∃ ws, IsGap ws ∧ lead = ws ++ if first then [] else [',']

lemma IsLead.nil : IsLead true [] := ⟨[], List.forall_mem_nil _, rfl⟩

variable {inner : Decoder α} {R : α → List Char → Prop} {first : Bool} {lead : List Char}
variable {as : List α}

/-- The texts of items, and the closing bracket. -/
inductive IsItems (R : α → List Char → Prop) : List α → List Char → Prop where
  | last {a : α} {t : List Char} (h : R a t) : IsItems R [a] (t ++ [']'])
  | cons {a : α} {as : List α} {t ts : List Char} (h : R a t) (hs : IsItems R as ts) :
      IsItems R (a :: as) (t ++ ',' :: ts)

/-- A text is an array of what stands in a relation to some values, with blanks around it. -/
def IsArrayOf (R : α → List Char → Prop) (as : List α) (t : List Char) : Prop :=
  Padded (fun core => (∃ ws, IsGap ws ∧ as = [] ∧ core = '[' :: (ws ++ [']'])) ∨
    ∃ ts, IsItems R as ts ∧ core = '[' :: ts) t

/-- In front of an item the decoder of items goes on with that of the item. -/
lemma decodeItems_lead (hinner : inner.Recognizes depth R) (hlead : IsLead first lead)
    (ht : IsText t) :
    decodeItems inner depth (fuel + 1) first (lead ++ (t ++ rest)) =
      inner fuel depth (t ++ rest) >>= fun p =>
        decodeItems inner depth fuel false p.2 >>= fun q => .ok (p.1 :: q.1, q.2) := by
  obtain ⟨ws, hws, rfl⟩ := hlead
  obtain ⟨c, s, hskip, hend, -⟩ := IsPiece.exists_head ht rest
  have hblank := skipBlanks_cons_of_eq hskip
  have hmore : beforeItem first (ws ++ (if first then [] else [',']) ++ (t ++ rest)) =
      .ok (true, skipBlanks (t ++ rest)) := by
    cases first with
    | true =>
      rw [if_pos rfl, List.append_nil, beforeItem, skipBlanks_gap hws, hskip]
      split
      case h_1 heq => cases heq
      case h_2 heq => exact absurd (List.cons.inj heq).1 hend
      case h_3 heq =>
        cases heq
        rfl
    | false =>
      rw [if_neg Bool.false_ne_true, List.append_assoc, beforeItem, skipBlanks_gap hws,
        List.singleton_append, skipBlanks_cons rfl]
      simp only [hskip]
      split
      case h_1 heq => cases heq
      case h_2 heq => exact absurd (List.cons.inj heq).1 (by decide)
      case h_3 heq =>
        cases heq
        rw [if_neg Bool.false_ne_true, if_pos rfl, hskip]
        split
        case h_1 heq => cases heq
        case h_2 heq => exact absurd (List.cons.inj heq).1 hend
        case h_3 => rfl
  rw [decodeItems]
  simp only [hmore, bind, Except.bind, if_pos, hinner.blanks]

/-- The closing bracket ends the items. -/
lemma decodeItems_close (hws : IsGap ws) (hfuel : 1 ≤ fuel) :
    decodeItems inner depth fuel first (ws ++ ']' :: rest) = .ok ([], rest) := by
  obtain ⟨fuel, rfl⟩ := Nat.exists_eq_add_of_le' hfuel
  have hend : beforeItem first (ws ++ ']' :: rest) = .ok (false, rest) := by
    rw [beforeItem, skipBlanks_gap hws, skipBlanks_cons rfl]
    rfl
  rw [decodeItems, hend]
  rfl

/-- Items that are decoded stand in the relation to their texts. -/
lemma IsPiece.decodeItems_sound (hinner : inner.Recognizes depth R) {p : Piece}
    (h : IsPiece p ts) : p = .items → ∀ {fuel : Nat} {first : Bool} {lead : List Char}
      {as : List α}, ts.length ≤ fuel → IsLead first lead →
      decodeItems inner depth fuel first (lead ++ (ts ++ rest)) = .ok (as, behind) →
      IsItems R as ts ∧ behind = rest := by
  induction h with
  | @lastItem t ht =>
    intro _ fuel first lead as hfuel hlead h
    have hpos := IsPiece.length_pos ht
    rw [List.length_append, List.length_singleton] at hfuel
    obtain ⟨fuel, rfl⟩ := Nat.exists_eq_add_of_le' (show 2 ≤ fuel by omega)
    rw [List.append_assoc, List.singleton_append, decodeItems_lead hinner hlead ht] at h
    cases hread : inner (fuel + 1) depth (t ++ ']' :: rest) with
    | error stop =>
      rw [hread] at h
      cases h
    | ok p =>
      obtain ⟨hR, ws, hws, hp⟩ :=
        hinner.sound ht (by omega) (ends_cons (by decide) rest) hread
      simp only [hread, bind, Except.bind, hp, decodeItems_close hws (Nat.le_add_left 1 fuel)] at h
      cases h
      exact ⟨.last hR, rfl⟩
  | @item t ts ht _ _ ih =>
    intro hp fuel first lead as hfuel hlead h
    have hpos := IsPiece.length_pos ht
    rw [List.length_append, List.length_cons] at hfuel
    obtain ⟨fuel, rfl⟩ := Nat.exists_eq_add_of_le' (show 1 ≤ fuel by omega)
    rw [List.append_assoc, List.cons_append, decodeItems_lead hinner hlead ht] at h
    cases hread : inner fuel depth (t ++ ',' :: (ts ++ rest)) with
    | error stop =>
      rw [hread] at h
      cases h
    | ok p =>
      obtain ⟨hR, ws, hws, hp'⟩ :=
        hinner.sound ht (by omega) (ends_cons (by decide) (ts ++ rest)) hread
      simp only [hread, bind, Except.bind, hp'] at h
      cases hitems : decodeItems inner depth fuel false (ws ++ ',' :: (ts ++ rest)) with
      | error stop =>
        rw [hitems] at h
        cases h
      | ok q =>
        rw [hitems] at h
        cases h
        rw [List.append_cons] at hitems
        obtain ⟨hR', hq⟩ := ih hp (by omega) ⟨ws, hws, rfl⟩ hitems
        exact ⟨.cons hR hR', hq⟩
  | _ => exact nofun

/-- Items are decoded from their texts. -/
lemma IsItems.decodeItems (hinner : inner.Recognizes depth R) (h : IsItems R as ts) :
    ∀ {fuel : Nat} {first : Bool} {lead : List Char}, ts.length ≤ fuel → IsLead first lead →
      Json.decodeItems inner depth fuel first (lead ++ (ts ++ rest)) = .ok (as, rest) := by
  induction h with
  | @last a t hR =>
    intro fuel first lead hfuel hlead
    have ht := hinner.isText hR
    have hpos := IsPiece.length_pos ht
    rw [List.length_append, List.length_singleton] at hfuel
    obtain ⟨fuel, rfl⟩ := Nat.exists_eq_add_of_le' (show 2 ≤ fuel by omega)
    obtain ⟨ws, hws, hread⟩ := hinner.complete hR (show t.length ≤ fuel + 1 by omega)
      (ends_cons (show ']' ∈ _ by decide) rest)
    rw [List.append_assoc, List.singleton_append, decodeItems_lead hinner hlead ht]
    simp only [hread, bind, Except.bind, decodeItems_close hws (Nat.le_add_left 1 fuel)]
  | @cons a as t ts hR hs ih =>
    intro fuel first lead hfuel hlead
    have ht := hinner.isText hR
    have hpos := IsPiece.length_pos ht
    rw [List.length_append, List.length_cons] at hfuel
    obtain ⟨fuel, rfl⟩ := Nat.exists_eq_add_of_le' (show 1 ≤ fuel by omega)
    obtain ⟨ws, hws, hread⟩ := hinner.complete hR (show t.length ≤ fuel by omega)
      (ends_cons (show ',' ∈ _ by decide) (ts ++ rest))
    have hitems := ih (show ts.length ≤ fuel by omega)
      (show IsLead false (ws ++ [',']) from ⟨ws, hws, rfl⟩)
    rw [← List.append_cons] at hitems
    rw [List.append_assoc, List.cons_append, decodeItems_lead hinner hlead ht]
    simp only [hread, bind, Except.bind, hitems]

lemma IsItems.isPiece (hR : ∀ {a t}, R a t → IsText t) (h : IsItems R as ts) :
    IsPiece .items ts := by
  induction h with
  | last h => exact .lastItem (hR h)
  | cons h _ ih => exact .item (hR h) ih

lemma decodeList_eq_ok (h : decodeList inner fuel depth s = .ok (as, behind)) :
    ∃ s', skipBlanks s = '[' :: s' ∧
      decodeItems inner (depth - 1) fuel true s' = .ok (as, behind) := by
  unfold decodeList at h
  split at h
  · split_ifs at h
    · cases h
    · exact ⟨_, ‹_›, h⟩
  · exact absurd h (refuse_ne_ok _ _ _ _)

/-- A list is decoded from arrays of what its items are decoded from. -/
theorem decodeList_recognizes (hdepth : 1 < depth) (hinner : inner.Recognizes (depth - 1) R) :
    (decodeList inner).Recognizes depth (IsArrayOf R) where
  isText := by
    rintro as t ⟨ws, core, ws', rfl, hws, ⟨gap, hgap, -, rfl⟩ | ⟨ts, hts, rfl⟩, hws'⟩
    · exact IsPiece.padded hws (.emptyArray hgap) hws'
    · exact IsPiece.padded hws (.array (hts.isPiece hinner.isText)) hws'
  blanks fuel s := by
    rw [decodeList, decodeList, skipBlanks_skipBlanks]
  sound := by
    intro fuel t rest as behind ht hfuel hrest h
    obtain ⟨ws, c, s, ws', rfl, hws, hws', hcore, hskip⟩ := ht.exists_continues rest
    obtain ⟨s', hskip', hitems⟩ := decodeList_eq_ok h
    rw [hskip] at hskip'
    obtain ⟨rfl, rfl⟩ := List.cons.inj hskip'
    simp only [List.length_append, List.length_cons] at hfuel
    cases hcore with
    | @emptyArray gap hgap =>
      rw [List.append_assoc, List.singleton_append, decodeItems_close hgap (by omega)] at hitems
      cases hitems
      exact ⟨⟨ws, _, ws', rfl, hws, .inl ⟨gap, hgap, rfl, rfl⟩, hws'⟩, ws', hws', rfl⟩
    | array hts =>
      obtain ⟨hR, rfl⟩ := IsPiece.decodeItems_sound hinner hts rfl (by omega) IsLead.nil hitems
      exact ⟨⟨ws, _, ws', rfl, hws, .inr ⟨s, hR, rfl⟩, hws'⟩, ws', hws', rfl⟩
    | word h => simp at h
    | positive h => cases h.isDigit
  complete := by
    rintro fuel t as ⟨ws, core, ws', rfl, hws, hcore, hws'⟩ hfuel rest hrest
    refine ⟨ws', hws', ?_⟩
    rw [List.append_assoc, List.append_assoc]
    simp only [List.length_append] at hfuel
    rcases hcore with ⟨gap, hgap, rfl, rfl⟩ | ⟨ts, hts, rfl⟩
    · rw [List.length_cons] at hfuel
      rw [List.cons_append, List.append_assoc, List.singleton_append, decodeList,
        skipBlanks_gap hws, skipBlanks_cons rfl]
      simp only [if_neg (Nat.not_le.mpr hdepth)]
      exact decodeItems_close hgap (by omega)
    · rw [List.length_cons] at hfuel
      have hitems : decodeItems inner (depth - 1) fuel true ([] ++ (ts ++ (ws' ++ rest))) = _ :=
        hts.decodeItems hinner (by omega) IsLead.nil
      rw [List.cons_append, decodeList, skipBlanks_gap hws, skipBlanks_cons rfl]
      simp only [if_neg (Nat.not_le.mpr hdepth)]
      exact hitems

end AgentManifest.Json
