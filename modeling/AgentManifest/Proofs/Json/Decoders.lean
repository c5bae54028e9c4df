import AgentManifest.Json.Record
import AgentManifest.Proofs.Json.Skipping

/-!
# Decoders and written texts

What each decoder makes of the written form of a value (`Decoder.Reads`). The blanks in front of a
value have no part in it, and nor has what follows.
-/

namespace AgentManifest.Json

variable {α : Type} {l : Layout} {fuel depth k : Nat} {rest s t ws : List Char} {a : α}

/-! ## Blanks -/

lemma IsBlankText.gap (h : IsBlankText ws) : IsGap ws := by
  intro c hc
  rcases h c hc with rfl | rfl <;> rfl

lemma Follows.ends (h : Follows rest) : Ends rest := by
  intro c hc
  have hmem := h c hc
  simp only [List.mem_cons, List.not_mem_nil, or_false] at hmem
  rcases hmem with rfl | rfl | hmem
  · exact .inl rfl
  · exact .inl rfl
  · exact .inr (by simpa using hmem)

/-! ## What a decoder reads -/

/-- A decoder makes a value of a text, below at most `depth - 1` containers. -/
def Decoder.Reads (decoder : Decoder α) (depth : Nat) (t : List Char) (a : α) : Prop :=
  ∀ ⦃fuel : Nat⦄ ⦃ws rest : List Char⦄, t.length ≤ fuel → IsGap ws → Follows rest →
    decoder fuel depth (ws ++ (t ++ rest)) = .ok (a, rest)

/-- A string is decoded from its quoted form. -/
lemma decodeString_reads (text : String) : decodeString.Reads depth (quote text) text := by
  intro fuel ws rest hfuel hws _
  have hrest := stringRest_quote (Nat.le_succ_of_le hfuel) rest
  rw [quote_append, decodeString, skipBlanks_gap hws, skipBlanks_cons rfl]
  exact hrest

/-- One of some names is decoded from its quoted form. -/
lemma decodeVariant_reads {variants : List (String × α)} {name : String}
    (h : variants.lookup name = some a) : (decodeVariant variants).Reads depth (quote name) a := by
  intro fuel ws rest hfuel hws _
  have hrest := stringRest_quote (Nat.le_succ_of_le hfuel) rest
  rw [quote_append, decodeVariant, skipBlanks_gap hws, skipBlanks_cons rfl]
  simp only [hrest, bind, Except.bind, variant, h]

/-- A natural number of 64 bits is decoded from its digits. -/
lemma decodeNatural_reads {n : Nat} (h : n < 2 ^ 64) (kind : String) :
    (decodeNatural kind).Reads depth (l.write k (.nat n)) n := by
  intro fuel ws rest _ hws hrest
  have hmax : n ≤ maxInteger := Nat.le_of_lt_succ h
  have hwrite : l.write k (.nat n) = Decimal.natText n := rfl
  have hnumber := number_natText hmax hrest.endsNumber false
  obtain ⟨c, s, htext, hc⟩ := Decimal.exists_natText_eq_cons n
  rw [htext, List.cons_append] at hnumber
  rw [hwrite, htext, List.cons_append, decodeNatural, skipBlanks_gap hws,
    skipBlanks_cons (not_blank_of_isDigit hc)]
  split
  case h_1 heq =>
    cases heq
    cases hc
  case h_2 heq =>
    cases heq
    rw [if_pos hc, hnumber]
    rfl
  case h_3 heq => cases heq

/-! ## Containers -/

/-- A value that is there is decoded as without the option. -/
lemma decodeOption_reads {inner : Decoder α} {c : Char} (h : inner.Reads depth (c :: t) a)
    (hblank : isBlank c = false) (hc : c ≠ 'n') :
    (decodeOption inner).Reads depth (c :: t) (some a) := by
  intro fuel ws rest hfuel hws hrest
  have hinner := h hfuel (show IsGap [] from nofun) hrest
  rw [List.nil_append, List.cons_append] at hinner
  rw [List.cons_append, decodeOption, skipBlanks_gap hws, skipBlanks_cons hblank]
  split
  case h_1 heq => exact absurd (List.cons.inj heq).1 hc
  case h_2 => simp only [hinner, bind, Except.bind]

/-- Null is decoded as an absent value. -/
lemma decodeOption_null (inner : Decoder α) :
    (decodeOption inner).Reads depth (l.write k .null) none := by
  intro fuel ws rest _ hws _
  have hword : word ['u', 'l', 'l'] ('u' :: 'l' :: 'l' :: rest) = .ok rest := word_append _ _
  have hwrite : l.write k .null ++ rest = 'n' :: 'u' :: 'l' :: 'l' :: rest := rfl
  rw [hwrite, decodeOption, skipBlanks_gap hws, skipBlanks_cons rfl]
  simp only [hword, bind, Except.bind]

/-- What is read as an object is decoded as its members. -/
lemma decodeMembers_of_value {ms : Members}
    (h : value (fuel + 1) depth ('{' :: s) = .ok (.object ms, rest)) :
    decodeMembers fuel depth ('{' :: s) = .ok (ms, rest) := by
  rw [value, skipBlanks_cons rfl] at h
  rw [decodeMembers, skipBlanks_cons rfl]
  by_cases hdepth : depth ≤ 1
  · simp [hdepth, stopAfter] at h
  · simp only [if_neg hdepth] at h ⊢
    cases hmembers : members fuel (depth - 1) true s with
    | error stop =>
      rw [hmembers] at h
      cases h
    | ok p =>
      rw [hmembers] at h
      cases h
      rfl

lemma exists_write_object (l : Layout) (k : Nat) (ms : Members) :
    ∃ s, l.write k (.object ms) = '{' :: s := by
  cases ms with
  | nil => exact ⟨_, rfl⟩
  | cons => exact ⟨_, rfl⟩

/-- The members of an object are decoded from its written form. -/
lemma decodeMembers_reads {ms : Members} (h : (Value.object ms).WellFormed)
    (hdepth : (Value.object ms).nesting < depth)
    (hwords : ∀ n ∈ (Value.object ms).numbers, n.IsWord) :
    decodeMembers.Reads depth (l.write k (.object ms)) ms := by
  intro fuel ws rest hfuel hws hrest
  have hvalue := value_write (l := l) (k := k) (Nat.le_succ_of_le hfuel) hdepth hwords hrest
  rw [Value.ordered_of_wellFormed h] at hvalue
  obtain ⟨s, hwrite⟩ := exists_write_object l k ms
  rw [hwrite, List.cons_append] at hvalue ⊢
  have hdecode := decodeMembers_of_value hvalue
  rw [decodeMembers, skipBlanks_cons rfl] at hdecode
  rw [decodeMembers, skipBlanks_gap hws, skipBlanks_cons rfl]
  exact hdecode

/-- Items behind the first are decoded one after the other. -/
lemma decodeItems_writeItems {inner : Decoder α} {f : α → Value} {as : List α}
    (h : ∀ a ∈ as, inner.Reads depth (l.write (k + 1) (f a)) a)
    (hwords : ∀ a ∈ as, ∀ n ∈ (f a).numbers, n.IsWord) :
    ∀ {fuel : Nat}, (l.writeItems k (as.map f)).length ≤ fuel →
      decodeItems inner depth fuel false (l.writeItems k (as.map f) ++ rest) = .ok (as, rest) := by
  induction as with
  | nil =>
    intro fuel hfuel
    obtain ⟨fuel, rfl⟩ := Nat.exists_eq_add_of_le' (Nat.le_trans (writeItems_pos l k []) hfuel)
    have hend := beforeItem_end false (l.lineBreak_blank k) rest
    rw [List.map_nil, Layout.writeItems, List.append_assoc, List.singleton_append, decodeItems,
      hend]
    rfl
  | cons a as ih =>
    intro fuel hfuel
    rw [List.map_cons, Layout.writeItems, List.length_cons, List.length_append,
      List.length_append] at hfuel
    obtain ⟨fuel, rfl⟩ := Nat.exists_eq_add_of_le' (show 1 ≤ fuel by omega)
    rw [List.forall_mem_cons] at h hwords
    obtain ⟨c, s, hwrite, hblank, hend⟩ := exists_write_eq_cons l (k + 1) hwords.1
    have hmore : beforeItem false (',' :: (l.lineBreak (k + 1) ++
        (l.write (k + 1) (f a) ++ (l.writeItems k (as.map f) ++ rest)))) =
          .ok (true, l.write (k + 1) (f a) ++ (l.writeItems k (as.map f) ++ rest)) := by
      rw [hwrite]
      exact beforeItem_comma (l.lineBreak_blank _) hblank hend _
    have ha := h.1 (show _ ≤ fuel by omega) (show IsGap [] from nofun)
      (follows_writeItems (l := l) k (as.map f) rest)
    have has := ih h.2 hwords.2 (show _ ≤ fuel by omega)
    rw [List.nil_append] at ha
    simp only [List.map_cons, Layout.writeItems, List.cons_append, List.append_assoc, decodeItems,
      hmore, ha, has, bind, Except.bind, if_pos]

/-- An array is decoded from its written form, item by item. -/
lemma decodeList_reads {inner : Decoder α} {f : α → Value} {as : List α}
    (h : ∀ a ∈ as, inner.Reads (depth - 1) (l.write (k + 1) (f a)) a)
    (hwords : ∀ a ∈ as, ∀ n ∈ (f a).numbers, n.IsWord) (hdepth : 1 < depth) :
    (decodeList inner).Reads depth (l.write k (.array (as.map f))) as := by
  intro fuel ws rest hfuel hws hrest
  cases as with
  | nil =>
    obtain ⟨fuel, rfl⟩ := Nat.exists_eq_add_of_le' (Nat.le_trans (by decide : 1 ≤ 2) hfuel)
    have hwrite : l.write k (.array ([].map f)) ++ rest = '[' :: ([] ++ ']' :: rest) := rfl
    have hend := beforeItem_end true (show IsBlankText [] by simp [IsBlankText]) rest
    rw [hwrite, decodeList, skipBlanks_gap hws, skipBlanks_cons rfl]
    simp only [if_neg (Nat.not_le.mpr hdepth), decodeItems, hend]
    rfl
  | cons a as =>
    rw [List.map_cons, Layout.write, List.length_cons, List.length_append,
      List.length_append] at hfuel
    obtain ⟨fuel, rfl⟩ := Nat.exists_eq_add_of_le' (show 1 ≤ fuel by omega)
    rw [List.forall_mem_cons] at h hwords
    obtain ⟨c, s, hwrite, hblank, hend⟩ := exists_write_eq_cons l (k + 1) hwords.1
    have hmore : beforeItem true (l.lineBreak (k + 1) ++
        (l.write (k + 1) (f a) ++ (l.writeItems k (as.map f) ++ rest))) =
          .ok (true, l.write (k + 1) (f a) ++ (l.writeItems k (as.map f) ++ rest)) := by
      rw [hwrite]
      exact beforeItem_first (l.lineBreak_blank _) hblank hend _
    have ha := h.1 (show _ ≤ fuel by omega) (show IsGap [] from nofun)
      (follows_writeItems (l := l) k (as.map f) rest)
    have has : decodeItems inner (depth - 1) fuel false (l.writeItems k (as.map f) ++ rest) =
        .ok (as, rest) := decodeItems_writeItems h.2 hwords.2 (by omega)
    rw [List.nil_append] at ha
    rw [List.map_cons, Layout.write, List.cons_append, decodeList, skipBlanks_gap hws,
      skipBlanks_cons rfl]
    simp only [if_neg (Nat.not_le.mpr hdepth), List.append_assoc, decodeItems, hmore, ha, has, bind,
      Except.bind, if_pos]

end AgentManifest.Json
