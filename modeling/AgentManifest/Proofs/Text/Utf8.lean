import Mathlib.Tactic.Lemma
import Mathlib.Tactic.SplitIfs
import AgentManifest.Text.Utf8

/-!
# Decoding UTF-8

Decoding inverts encoding: a sequence of bytes is decoded as a text exactly if it is the encoding
of that text. For one character this is a case for each number of bytes (`decodeFirst_eq_some_iff`);
for a text it follows by induction on the text and on the fuel (`decode?_eq_some_iff`).
-/

namespace AgentManifest.Text

/-! ## Characters of one to four bytes -/

lemma toNat_toUInt8 {n : Nat} (h : n < 256) : n.toUInt8.toNat = n := by
  simp only [Nat.toUInt8_eq, UInt8.toNat_ofNat']
  omega

lemma toUInt8_eq {n : Nat} {b : UInt8} (h : n = b.toNat) : n.toUInt8 = b := by
  subst h
  simp

lemma toNat_ofNat {n : Nat} (h : n.isValidChar) : (Char.ofNat n).toNat = n := by
  rw [Char.ofNat, dif_pos h]
  rfl

lemma encodeChar_one {a : UInt8} (ha : a.toNat < 0x80) : encodeChar (Char.ofNat a.toNat) = [a] := by
  have hn := toNat_ofNat (n := a.toNat) (.inl (by omega))
  simp only [encodeChar, hn, ha, if_true]
  rw [toUInt8_eq rfl]

lemma encodeChar_two {a b : UInt8} {n : Nat} (hn : n = (a.toNat - 0xC0) * 0x40 + (b.toNat - 0x80))
    (ha : 0xC2 ≤ a.toNat ∧ a.toNat < 0xE0) (hb : 0x80 ≤ b.toNat ∧ b.toNat ≤ 0xBF) :
    encodeChar (Char.ofNat n) = [a, b] := by
  have hc := toNat_ofNat (n := n) (.inl (by omega))
  have h1 : ¬n < 0x80 := by omega
  have h2 : n < 0x800 := by omega
  simp only [encodeChar, hc, h1, h2, if_true, if_false]
  rw [toUInt8_eq (b := a) (by omega), toUInt8_eq (b := b) (by omega)]

lemma encodeChar_three {a b c : UInt8} {n : Nat}
    (hn : n = ((a.toNat - 0xE0) * 0x40 + (b.toNat - 0x80)) * 0x40 + (c.toNat - 0x80))
    (ha : 0xE0 ≤ a.toNat ∧ a.toNat < 0xF0) (hb : 0x80 ≤ b.toNat ∧ b.toNat ≤ 0xBF)
    (hc : 0x80 ≤ c.toNat ∧ c.toNat ≤ 0xBF) (low : 0x800 ≤ n) (valid : n.isValidChar) :
    encodeChar (Char.ofNat n) = [a, b, c] := by
  have h1 : ¬n < 0x80 := by omega
  have h2 : ¬n < 0x800 := by omega
  have h3 : n < 0x10000 := by omega
  simp only [encodeChar, toNat_ofNat valid, h1, h2, h3, if_true, if_false]
  rw [toUInt8_eq (b := a) (by omega), toUInt8_eq (b := b) (by omega),
    toUInt8_eq (b := c) (by omega)]

lemma encodeChar_four {a b c d : UInt8} {n : Nat}
    (hn : n = (((a.toNat - 0xF0) * 0x40 + (b.toNat - 0x80)) * 0x40 + (c.toNat - 0x80)) * 0x40 +
      (d.toNat - 0x80))
    (ha : 0xF0 ≤ a.toNat ∧ a.toNat < 0xF5) (hb : 0x80 ≤ b.toNat ∧ b.toNat ≤ 0xBF)
    (hc : 0x80 ≤ c.toNat ∧ c.toNat ≤ 0xBF) (hd : 0x80 ≤ d.toNat ∧ d.toNat ≤ 0xBF)
    (low : 0x10000 ≤ n) (high : n < 0x110000) : encodeChar (Char.ofNat n) = [a, b, c, d] := by
  have h1 : ¬n < 0x80 := by omega
  have h2 : ¬n < 0x800 := by omega
  have h3 : ¬n < 0x10000 := by omega
  have hv := toNat_ofNat (n := n) (.inr ⟨by omega, high⟩)
  simp only [encodeChar, hv, h1, h2, h3, if_false]
  rw [toUInt8_eq (b := a) (by omega), toUInt8_eq (b := b) (by omega),
    toUInt8_eq (b := c) (by omega), toUInt8_eq (b := d) (by omega)]

/-! ## The first character -/

lemma leading?_one {b : UInt8} (h : b.toNat < 0x80) : leading? b = some (b.toNat, []) := by
  simp [leading?, h]

lemma leading?_two {b : UInt8} (h : 0xC2 ≤ b.toNat ∧ b.toNat < 0xE0) :
    leading? b = some (b.toNat - 0xC0, [(0x80, 0xBF)]) := by
  have h1 : ¬b.toNat < 0x80 := by omega
  have h2 : ¬b.toNat < 0xC2 := by omega
  have hv : b.toNat % 0x20 = b.toNat - 0xC0 := by omega
  simp [leading?, h1, h2, h.2, hv]

/-- The byte behind a leading byte of three excludes longer forms of shorter characters, and
surrogates. -/
lemma leading?_three {b : UInt8} (h : 0xE0 ≤ b.toNat ∧ b.toNat < 0xF0) :
    leading? b = some (b.toNat - 0xE0,
      [(if b.toNat = 0xE0 then 0xA0 else 0x80, if b.toNat = 0xED then 0x9F else 0xBF),
        (0x80, 0xBF)]) := by
  have h1 : ¬b.toNat < 0x80 := by omega
  have h2 : ¬b.toNat < 0xC2 := by omega
  have h3 : ¬b.toNat < 0xE0 := by omega
  have hv : b.toNat % 0x10 = b.toNat - 0xE0 := by omega
  by_cases hE0 : b.toNat = 0xE0
  · simp [leading?, hE0]
  · by_cases hED : b.toNat = 0xED
    · simp [leading?, hED]
    · simp [leading?, h1, h2, h3, hE0, hED, h.2, hv]

/-- The byte behind a leading byte of four excludes longer forms of shorter characters, and what
lies behind the last character. -/
lemma leading?_four {b : UInt8} (h : 0xF0 ≤ b.toNat ∧ b.toNat < 0xF5) :
    leading? b = some (b.toNat - 0xF0,
      [(if b.toNat = 0xF0 then 0x90 else 0x80, if b.toNat = 0xF4 then 0x8F else 0xBF),
        (0x80, 0xBF), (0x80, 0xBF)]) := by
  have cases : b.toNat = 0xF0 ∨ b.toNat = 0xF1 ∨ b.toNat = 0xF2 ∨ b.toNat = 0xF3 ∨
      b.toNat = 0xF4 := by omega
  rcases cases with h | h | h | h | h <;> simp [leading?, h]

lemma leading?_none {b : UInt8} (h : 0x80 ≤ b.toNat) (h' : b.toNat < 0xC2 ∨ 0xF5 ≤ b.toNat) :
    leading? b = none := by
  have h1 : ¬b.toNat < 0x80 := by omega
  by_cases h2 : b.toNat < 0xC2
  · simp [leading?, h1, h2]
  · have h3 : ¬b.toNat < 0xE0 := by omega
    have h4 : b.toNat ≠ 0xE0 := by omega
    have h5 : b.toNat ≠ 0xED := by omega
    have h6 : ¬b.toNat < 0xF0 := by omega
    have h7 : b.toNat ≠ 0xF0 := by omega
    have h8 : ¬b.toNat < 0xF4 := by omega
    have h9 : b.toNat ≠ 0xF4 := by omega
    simp [leading?, h1, h2, h3, h4, h5, h6, h7, h8, h9]

lemma continuations_nil_eq_some {value n : Nat} {bytes rest : Bytes} :
    continuations [] value bytes = (some n, rest) ↔ n = value ∧ bytes = rest := by
  simp [continuations, eq_comm]

lemma continuations_cons_eq_some {low high value n : Nat} {ranges : List (Nat × Nat)}
    {bytes rest : Bytes} :
    continuations ((low, high) :: ranges) value bytes = (some n, rest) ↔
      ∃ b bs, bytes = b :: bs ∧ (low ≤ b.toNat ∧ b.toNat ≤ high) ∧
        continuations ranges (value * 0x40 + b.toNat % 0x40) bs = (some n, rest) := by
  cases bytes with
  | nil => simp [continuations]
  | cons b bs =>
    have hiff : continuations ((low, high) :: ranges) value (b :: bs) = (some n, rest) ↔
        (low ≤ b.toNat ∧ b.toNat ≤ high) ∧
          continuations ranges (value * 0x40 + b.toNat % 0x40) bs = (some n, rest) := by
      by_cases h : low ≤ b.toNat ∧ b.toNat ≤ high
      · simp [continuations, continuation?, h]
      · simp [continuations, continuation?, h]
    rw [hiff]
    constructor
    · intro h
      exact ⟨b, bs, rfl, h⟩
    · rintro ⟨b', bs', hb, h⟩
      obtain ⟨rfl, rfl⟩ := List.cons.inj hb
      exact h

lemma decodeFirst_eq_some {b : UInt8} {bytes rest : Bytes} {c : Char} :
    decodeFirst b bytes = (some c, rest) ↔
      ∃ value ranges n, leading? b = some (value, ranges) ∧
        continuations ranges value bytes = (some n, rest) ∧ c = Char.ofNat n := by
  cases hb : leading? b with
  | none => simp [decodeFirst, hb]
  | some l =>
    obtain ⟨value, ranges⟩ := l
    rcases hc : continuations ranges value bytes with ⟨_ | n, rest'⟩
    · simp [decodeFirst, hb, hc]
    · have hd : decodeFirst b bytes = (some (Char.ofNat n), rest') := by
        simp [decodeFirst, hb, hc]
      rw [hd]
      constructor
      · intro h
        obtain ⟨hch, rfl⟩ := Prod.mk.inj h
        exact ⟨value, ranges, n, rfl, hc, (Option.some.inj hch).symm⟩
      · rintro ⟨value', ranges', n', hl, hc', rfl⟩
        obtain ⟨rfl, rfl⟩ := Prod.mk.inj (Option.some.inj hl)
        obtain ⟨hn, rfl⟩ := Prod.mk.inj (hc.symm.trans hc')
        obtain rfl := Option.some.inj hn
        rfl

lemma decodeFirst_of_leading {b : UInt8} {bytes rest : Bytes} {c : Char} {value : Nat}
    {ranges : List (Nat × Nat)} (hl : leading? b = some (value, ranges))
    (hc : continuations ranges value bytes = (some c.toNat, rest)) :
    decodeFirst b bytes = (some c, rest) :=
  decodeFirst_eq_some.mpr ⟨value, ranges, c.toNat, hl, hc, (Char.ofNat_toNat c).symm⟩

/-- A character that was decoded is encoded as the bytes it was decoded from. -/
lemma decodeFirst_sound {b : UInt8} {bytes rest : Bytes} {c : Char}
    (h : decodeFirst b bytes = (some c, rest)) : b :: bytes = encodeChar c ++ rest := by
  obtain ⟨value, ranges, n, hl, hc, rfl⟩ := decodeFirst_eq_some.mp h
  have cases : b.toNat < 0x80 ∨ (0xC2 ≤ b.toNat ∧ b.toNat < 0xE0) ∨
      (0xE0 ≤ b.toNat ∧ b.toNat < 0xF0) ∨ (0xF0 ≤ b.toNat ∧ b.toNat < 0xF5) ∨
      (0x80 ≤ b.toNat ∧ (b.toNat < 0xC2 ∨ 0xF5 ≤ b.toNat)) := by omega
  -- by the number of bytes; a leading byte of the last kind begins no character
  rcases cases with hb | hb | hb | hb | hb
  · obtain ⟨rfl, rfl⟩ := Prod.mk.inj (Option.some.inj ((leading?_one hb).symm.trans hl))
    simp only [continuations_nil_eq_some] at hc
    obtain ⟨rfl, rfl⟩ := hc
    rw [encodeChar_one hb]
    rfl
  · obtain ⟨rfl, rfl⟩ := Prod.mk.inj (Option.some.inj ((leading?_two hb).symm.trans hl))
    simp only [continuations_cons_eq_some, continuations_nil_eq_some] at hc
    obtain ⟨b1, _, rfl, h1, rfl, rfl⟩ := hc
    rw [encodeChar_two (a := b) (b := b1) (by omega) hb h1]
    rfl
  · obtain ⟨rfl, rfl⟩ := Prod.mk.inj (Option.some.inj ((leading?_three hb).symm.trans hl))
    simp only [continuations_cons_eq_some, continuations_nil_eq_some] at hc
    obtain ⟨b1, _, rfl, h1, b2, _, rfl, h2, rfl, rfl⟩ := hc
    -- the range of the second byte leaves no room for surrogates
    have hv : ((b.toNat - 0xE0) * 64 + b1.toNat % 64) * 64 + b2.toNat % 64 < 0xD800 ∨
        0xDFFF < ((b.toNat - 0xE0) * 64 + b1.toNat % 64) * 64 + b2.toNat % 64 := by
      split_ifs at h1 <;> omega
    rw [encodeChar_three (a := b) (b := b1) (c := b2)]
    · rfl
    all_goals (try unfold Nat.isValidChar); split_ifs at h1 <;> omega
  · obtain ⟨rfl, rfl⟩ := Prod.mk.inj (Option.some.inj ((leading?_four hb).symm.trans hl))
    simp only [continuations_cons_eq_some, continuations_nil_eq_some] at hc
    obtain ⟨b1, _, rfl, h1, b2, _, rfl, h2, b3, _, rfl, h3, rfl, rfl⟩ := hc
    rw [encodeChar_four (a := b) (b := b1) (c := b2) (d := b3)]
    · rfl
    all_goals split_ifs at h1 <;> omega
  · rw [leading?_none hb.1 hb.2] at hl
    cases hl

/-- The encoding of a character is decoded as that character. -/
lemma decodeFirst_complete (c : Char) (rest : Bytes) :
    ∃ b bytes, encodeChar c ++ rest = b :: bytes ∧ decodeFirst b bytes = (some c, rest) := by
  have hv : c.toNat < 0xD800 ∨ 0xDFFF < c.toNat ∧ c.toNat < 0x110000 := c.valid
  unfold encodeChar
  dsimp only
  split_ifs with h1 h2 h3
  · refine ⟨_, _, rfl, decodeFirst_of_leading (leading?_one ?_) ?_⟩
    · rwa [toNat_toUInt8 (by omega)]
    · rw [continuations_nil_eq_some, toNat_toUInt8 (by omega)]
      exact ⟨rfl, rfl⟩
  · have ha := toNat_toUInt8 (n := 0xC0 + c.toNat / 0x40) (by omega)
    have hb := toNat_toUInt8 (n := 0x80 + c.toNat % 0x40) (by omega)
    refine ⟨_, _, rfl, decodeFirst_of_leading (leading?_two ?_) ?_⟩
    · rw [ha]
      omega
    · simp only [continuations_cons_eq_some, continuations_nil_eq_some]
      exact ⟨_, _, rfl, by omega, by omega, rfl⟩
  · have ha := toNat_toUInt8 (n := 0xE0 + c.toNat / 0x1000) (by omega)
    have hb := toNat_toUInt8 (n := 0x80 + c.toNat / 0x40 % 0x40) (by omega)
    have hc := toNat_toUInt8 (n := 0x80 + c.toNat % 0x40) (by omega)
    refine ⟨_, _, rfl, decodeFirst_of_leading (leading?_three ?_) ?_⟩
    · rw [ha]
      omega
    · simp only [continuations_cons_eq_some, continuations_nil_eq_some]
      refine ⟨_, _, rfl, ?_, _, _, rfl, by omega, by omega, rfl⟩
      split_ifs <;> omega
  · have ha := toNat_toUInt8 (n := 0xF0 + c.toNat / 0x40000) (by omega)
    have hb := toNat_toUInt8 (n := 0x80 + c.toNat / 0x1000 % 0x40) (by omega)
    have hc := toNat_toUInt8 (n := 0x80 + c.toNat / 0x40 % 0x40) (by omega)
    have hd := toNat_toUInt8 (n := 0x80 + c.toNat % 0x40) (by omega)
    refine ⟨_, _, rfl, decodeFirst_of_leading (leading?_four ?_) ?_⟩
    · rw [ha]
      omega
    · simp only [continuations_cons_eq_some, continuations_nil_eq_some]
      refine ⟨_, _, rfl, ?_, _, _, rfl, by omega, _, _, rfl, by omega, by omega, rfl⟩
      split_ifs <;> omega

/-- Decoding the first character of some bytes inverts its encoding. -/
theorem decodeFirst_eq_some_iff {b : UInt8} {bytes rest : Bytes} {c : Char} :
    decodeFirst b bytes = (some c, rest) ↔ b :: bytes = encodeChar c ++ rest := by
  constructor
  · exact decodeFirst_sound
  · intro h
    obtain ⟨b', bytes', he, hd⟩ := decodeFirst_complete c rest
    obtain ⟨rfl, rfl⟩ := List.cons.inj (h.trans he)
    exact hd

/-! ## Texts -/

/-- What is left behind the continuation bytes of a character is the end of the bytes. -/
lemma continuations_suffix (ranges : List (Nat × Nat)) (value : Nat) (bytes : Bytes) :
    (continuations ranges value bytes).2 <:+ bytes := by
  induction ranges generalizing value bytes with
  | nil => exact List.suffix_rfl
  | cons range ranges ih =>
    cases bytes with
    | nil => exact List.suffix_rfl
    | cons b bs =>
      rw [continuations]
      cases continuation? range.1 range.2 b with
      | none => exact List.suffix_rfl
      | some digit => exact (ih _ bs).trans (List.suffix_cons b bs)

lemma decodeFirst_suffix (b : UInt8) (bytes : Bytes) : (decodeFirst b bytes).2 <:+ bytes := by
  unfold decodeFirst
  cases leading? b with
  | none => exact List.suffix_rfl
  | some l =>
    obtain ⟨value, ranges⟩ := l
    have hsuffix := continuations_suffix ranges value bytes
    rcases hc : continuations ranges value bytes with ⟨_ | n, rest⟩
    · simpa [hc] using hsuffix
    · simpa [hc] using hsuffix

lemma decodeFirst_length (b : UInt8) (bytes : Bytes) :
    (decodeFirst b bytes).2.length ≤ bytes.length := (decodeFirst_suffix b bytes).length_le

/-- The pieces found before stay behind those that follow. -/
lemma decodeOnto_append (fuel : Nat) (seen : List (Option Char)) (bytes : Bytes) :
    decodeOnto fuel seen bytes = decodeOnto fuel [] bytes ++ seen := by
  induction fuel generalizing seen bytes with
  | zero => rfl
  | succ fuel ih =>
    cases bytes with
    | nil => rfl
    | cons b bs =>
      simp only [decodeOnto]
      rw [ih ((decodeFirst b bs).1 :: seen), ih [(decodeFirst b bs).1], List.append_assoc]
      rfl

/-- Fuel for every byte is enough. -/
lemma decodeOnto_fuel {fuel fuel' : Nat} (seen : List (Option Char)) {bytes : Bytes}
    (hf : bytes.length ≤ fuel) (hf' : bytes.length ≤ fuel') :
    decodeOnto fuel seen bytes = decodeOnto fuel' seen bytes := by
  induction fuel generalizing fuel' seen bytes with
  | zero =>
    obtain rfl : bytes = [] := List.length_eq_zero_iff.mp (by omega)
    cases fuel' <;> rfl
  | succ fuel ih =>
    cases fuel' with
    | zero =>
      obtain rfl : bytes = [] := List.length_eq_zero_iff.mp (by omega)
      rfl
    | succ fuel' =>
      cases bytes with
      | nil => rfl
      | cons b bs =>
        simp only [List.length_cons] at hf hf'
        -- the piece takes at least one byte, so there is fuel for the rest
        have hlen := decodeFirst_length b bs
        simp only [decodeOnto]
        exact ih _ (by omega) (by omega)

@[simp] lemma pieces_nil : pieces [] = [] := rfl

lemma pieces_cons (b : UInt8) (bytes : Bytes) :
    pieces (b :: bytes) = (decodeFirst b bytes).1 :: pieces (decodeFirst b bytes).2 := by
  have hlen := decodeFirst_length b bytes
  simp only [pieces, List.length_cons, decodeOnto]
  rw [decodeOnto_append, decodeOnto_fuel [] hlen (Nat.le_refl _), List.reverse_append]
  rfl

/-- The pieces of some bytes are the characters of a text exactly if the bytes are its encoding. -/
lemma pieces_eq_map_some_iff {bytes : Bytes} {text : List Char} :
    pieces bytes = text.map some ↔ bytes = encode text := by
  induction text generalizing bytes with
  | nil =>
    cases bytes with
    | nil => simp [encode]
    | cons b bs => simp [encode, pieces_cons]
  | cons c text ih =>
    have hcons : encode (c :: text) = encodeChar c ++ encode text := rfl
    rw [hcons, List.map_cons]
    constructor
    · intro h
      cases bytes with
      | nil => cases h
      | cons b bs =>
        rw [pieces_cons] at h
        obtain ⟨hc, hrest⟩ := List.cons.inj h
        rw [← ih.mp hrest]
        exact decodeFirst_eq_some_iff.mp (Prod.ext hc rfl)
    · rintro rfl
      obtain ⟨b, bs, he, hd⟩ := decodeFirst_complete c (encode text)
      rw [he, pieces_cons, hd, ih.mpr rfl]

lemma filterMap_of_all_isSome {found : List (Option Char)} (h : found.all Option.isSome = true) :
    found = (found.filterMap id).map some := by
  induction found with
  | nil => rfl
  | cons piece found ih =>
    rw [List.all_cons, Bool.and_eq_true] at h
    obtain ⟨c, rfl⟩ := Option.isSome_iff_exists.mp h.1
    rw [List.filterMap_cons, id, List.map_cons, ← ih h.2]

/-- Bytes are decoded as a text exactly if they are its encoding. -/
theorem decode?_eq_some_iff {bytes : Bytes} {text : List Char} :
    decode? bytes = some text ↔ bytes = encode text := by
  rw [← pieces_eq_map_some_iff]
  unfold decode?
  dsimp only
  split_ifs with hall
  · have hpieces := filterMap_of_all_isSome hall
    constructor
    · intro h
      rw [← Option.some.inj h]
      exact hpieces
    · intro h
      rw [h, List.filterMap_map]
      simp
  · constructor
    · intro h
      cases h
    · intro h
      simp [h] at hall

lemma decodeLossy_encode (text : List Char) : decodeLossy (encode text) = text := by
  rw [decodeLossy, pieces_eq_map_some_iff.mpr rfl, List.map_map]
  exact List.map_id _

/-! ## Parts of texts -/

lemma encodeChar_of_ascii {c : Char} (h : c.toNat < 0x80) : encodeChar c = [c.toNat.toUInt8] := by
  simp only [encodeChar, h, if_true]

/-- Beyond ASCII no byte of a character is one of ASCII. -/
lemma le_of_mem_encodeChar {c : Char} {b : UInt8} (hc : 0x80 ≤ c.toNat) (h : b ∈ encodeChar c) :
    0x80 ≤ b.toNat := by
  have hv : c.toNat < 0xD800 ∨ 0xDFFF < c.toNat ∧ c.toNat < 0x110000 := c.valid
  have hbyte {n : Nat} (hlow : 0x80 ≤ n) (hhigh : n < 256) : 0x80 ≤ n.toUInt8.toNat := by
    rwa [toNat_toUInt8 hhigh]
  unfold encodeChar at h
  dsimp only at h
  split_ifs at h with h1 h2 h3
  · omega
  all_goals simp only [List.mem_cons, List.not_mem_nil, or_false] at h
  · rcases h with rfl | rfl <;> exact hbyte (by omega) (by omega)
  · rcases h with rfl | rfl | rfl <;> exact hbyte (by omega) (by omega)
  · rcases h with rfl | rfl | rfl | rfl <;> exact hbyte (by omega) (by omega)

/-- The byte of a character of ASCII comes from this character alone. -/
lemma eq_of_mem_encodeChar {c d : Char} (hc : c.toNat < 0x80)
    (h : c.toNat.toUInt8 ∈ encodeChar d) : c = d := by
  have hbyte := toNat_toUInt8 (n := c.toNat) (by omega)
  by_cases hd : d.toNat < 0x80
  · rw [encodeChar_of_ascii hd, List.mem_singleton] at h
    rw [← Char.toNat_inj, ← hbyte, h, toNat_toUInt8 (by omega)]
  · have hle := le_of_mem_encodeChar (Nat.not_lt.mp hd) h
    omega

lemma mem_of_mem_encode {c : Char} {text : List Char} (hc : c.toNat < 0x80)
    (h : c.toNat.toUInt8 ∈ encode text) : c ∈ text := by
  obtain ⟨d, hd, hmem⟩ := List.mem_flatMap.mp h
  rwa [eq_of_mem_encodeChar hc hmem]

/-- The last pieces of some bytes are the characters of a text only if the bytes end in its
encoding. -/
lemma exists_append_encode {bytes : Bytes} {ps : List (Option Char)} {text : List Char}
    (h : pieces bytes = ps ++ text.map some) :
    ∃ front, bytes = front ++ encode text ∧ (ps ≠ [] → front ≠ []) := by
  induction ps generalizing bytes with
  | nil => exact ⟨[], pieces_eq_map_some_iff.mp h, fun hne => absurd rfl hne⟩
  | cons p ps ih =>
    cases bytes with
    | nil => cases h
    | cons b bytes =>
      rw [pieces_cons, List.cons_append] at h
      obtain ⟨front, hfront, -⟩ := ih (List.cons.inj h).2
      obtain ⟨used, hused⟩ := decodeFirst_suffix b bytes
      refine ⟨b :: (used ++ front), ?_, fun _ => List.cons_ne_nil _ _⟩
      rw [List.cons_append, List.append_assoc, ← hfront, hused]

end AgentManifest.Text
