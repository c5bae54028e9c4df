import AgentManifest.Proofs.Json.Skipping

/-!
# Spelled strings

How the characters of a string are spelled between its quotes: as themselves, by a letter or by four
hexadecimal digits behind a backslash, or by the two halves of a surrogate pair. The reader takes up
a literal just if its characters are spelled so, and then gives the text that it denotes; a literal
with half a pair in it denotes nothing.
-/

namespace AgentManifest.Json

variable {fuel : Nat} {s q rest seen cs : List Char} {ch : Char} {u : List Char}

/-! ## Hexadecimal digits -/

/-- A code that is half of a surrogate pair, and no character. -/
def IsSurrogate (n : Nat) : Prop := 0xD800 ≤ n ∧ n ≤ 0xDFFF

instance (n : Nat) : Decidable (IsSurrogate n) := inferInstanceAs (Decidable (_ ∧ _))

lemma hexUnit_eq_ok {n : Nat} (h : hexUnit s = .ok (n, rest)) :
    ∃ a b c d, s = a :: b :: c :: d :: rest ∧ (∀ x ∈ [a, b, c, d], Text.isHex x = true) ∧
      n = Text.hexNumber [a, b, c, d] := by
  unfold hexUnit at h
  split_ifs at h
  · cases h
  split at h
  · split at h
    · rename_i a b c d behind _ _ _ _ _ na nb nc nd ha hb hc hd
      cases h
      refine ⟨a, b, c, d, rfl, by simp [Text.isHex, ha, hb, hc, hd], ?_⟩
      simp only [Text.hexNumber, List.foldl_cons, List.foldl_nil, ha, hb, hc, hd, Option.getD_some]
      omega
    · cases h
  · cases h

lemma hexUnit_of_isHex {a b c d : Char} (h : ∀ x ∈ [a, b, c, d], Text.isHex x = true)
    (rest : List Char) :
    hexUnit (a :: b :: c :: d :: rest) = .ok (Text.hexNumber [a, b, c, d], rest) := by
  obtain ⟨n, hunit⟩ := hexUnit_digits h rest
  obtain ⟨a', b', c', d', heq, -, rfl⟩ := hexUnit_eq_ok hunit
  cases heq
  exact hunit

/-! ## Spellings -/

/-- What may stand between the quotes for one character, apart from an escaped surrogate pair. -/
inductive Spells : Char → List Char → Prop where
  | plain {c : Char} (hlow : 0x20 ≤ c.toNat) (hquote : c ≠ '"') (hslash : c ≠ '\\') : Spells c [c]
  | escape {c d : Char} (h : simpleEscape c = some d) : Spells d ['\\', c]
  | code {a b c d : Char} (h : ∀ x ∈ [a, b, c, d], Text.isHex x = true)
      (hn : ¬IsSurrogate (Text.hexNumber [a, b, c, d])) :
      Spells (Char.ofNat (Text.hexNumber [a, b, c, d])) ['\\', 'u', a, b, c, d]

/-- An escaped surrogate pair stands for a character beyond the codes of four digits. -/
inductive SpellsPair : Char → List Char → Prop where
  | mk {a b c d a' b' c' d' : Char} {high low : Nat}
      (h : ∀ x ∈ [a, b, c, d], Text.isHex x = true)
      (h' : ∀ x ∈ [a', b', c', d'], Text.isHex x = true)
      (hhigh : Text.hexNumber [a, b, c, d] = 0xD800 + high) (hhigh' : high < 0x400)
      (hlow : Text.hexNumber [a', b', c', d'] = 0xDC00 + low) (hlow' : low < 0x400) :
      SpellsPair (Char.ofNat (high * 0x400 + low + 0x10000))
        ['\\', 'u', a, b, c, d, '\\', 'u', a', b', c', d']

/-- Characters with their spellings. -/
def Spelled (ps : List (Char × List Char)) : Prop :=
  ∀ p ∈ ps, Spells p.1 p.2 ∨ SpellsPair p.1 p.2

/-- A literal denotes a text. -/
def Denotes (q : List Char) (text : String) : Prop :=
  ∃ ps : List (Char × List Char), Spelled ps ∧ text.toList = ps.map Prod.fst ∧
    q = '"' :: (ps.flatMap Prod.snd ++ ['"'])

lemma Spells.isUnit (h : Spells ch u) : IsUnit u := by
  cases h with
  | plain hlow hquote hslash => exact .plain hlow hquote hslash
  | escape h => exact .escape (Option.isSome_of_eq_some h)
  | code h => exact .code h

/-- A character is spelled by units. -/
lemma exists_units (h : Spells ch u ∨ SpellsPair ch u) :
    ∃ units : List (List Char), (∀ u ∈ units, IsUnit u) ∧ u = units.flatten := by
  rcases h with h | h
  · exact ⟨[u], by simpa using h.isUnit, by simp⟩
  · cases h with
    | @mk a b c d a' b' c' d' _ _ h h' =>
      refine ⟨[['\\', 'u', a, b, c, d], ['\\', 'u', a', b', c', d']], ?_, rfl⟩
      simpa using ⟨IsUnit.code h, IsUnit.code h'⟩

variable {ps : List (Char × List Char)}

lemma Spelled.exists_units (h : Spelled ps) :
    ∃ units : List (List Char), (∀ u ∈ units, IsUnit u) ∧ ps.flatMap Prod.snd = units.flatten := by
  induction ps with
  | nil => exact ⟨[], nofun, rfl⟩
  | cons p ps ih =>
    rw [Spelled, List.forall_mem_cons] at h
    obtain ⟨units, hunits, hflat⟩ := Json.exists_units h.1
    obtain ⟨units', hunits', hflat'⟩ := ih h.2
    refine ⟨units ++ units', List.forall_mem_append.mpr ⟨hunits, hunits'⟩, ?_⟩
    rw [List.flatMap_cons, hflat, hflat', List.flatten_append]

lemma Denotes.isQuoted {text : String} (h : Denotes q text) : IsQuoted q := by
  obtain ⟨ps, hps, -, rfl⟩ := h
  obtain ⟨units, hunits, hflat⟩ := hps.exists_units
  exact ⟨units, hunits, by rw [hflat]⟩

/-! ## Reading -/

/-- The escape behind a backslash and a `u` spells the character that is read from it. -/
lemma unicodeEscape_eq_ok (h : unicodeEscape s = .ok (ch, rest)) :
    ∃ u, s = u ++ rest ∧
      (Spells ch ('\\' :: 'u' :: u) ∨ SpellsPair ch ('\\' :: 'u' :: u)) := by
  rw [unicodeEscape] at h
  cases hunit : hexUnit s with
  | error stop =>
    rw [hunit] at h
    cases h
  | ok p =>
    obtain ⟨n, behind⟩ := p
    obtain ⟨a, b, c, d, rfl, hhex, hn⟩ := hexUnit_eq_ok hunit
    simp only [hunit, bind, Except.bind] at h
    split_ifs at h with hsecond hsingle
    · cases h
    · cases h
      refine ⟨[a, b, c, d], rfl, .inl ?_⟩
      rw [hn] at hsingle ⊢
      refine .code hhex fun hsurrogate => ?_
      obtain ⟨hlow, hhigh⟩ := hsurrogate
      omega
    · split at h
      case h_1 behind' =>
        cases hunit' : hexUnit behind' with
        | error stop =>
          rw [hunit'] at h
          cases h
        | ok p' =>
          obtain ⟨m, behind⟩ := p'
          obtain ⟨a', b', c', d', rfl, hhex', hm⟩ := hexUnit_eq_ok hunit'
          simp only [hunit'] at h
          split_ifs at h with hrange
          · cases h
          · obtain ⟨rfl, rfl⟩ := Prod.mk.inj (Except.ok.inj h)
            refine ⟨[a, b, c, d, '\\', 'u', a', b', c', d'], rfl, .inr ?_⟩
            exact .mk hhex hhex' (by omega) (by omega) (by omega) (by omega)
      all_goals cases h

lemma unicodeEscape_code (h : Spells ch ('\\' :: 'u' :: u)) (rest : List Char) :
    unicodeEscape (u ++ rest) = .ok (ch, rest) := by
  cases h with
  | escape h => cases h
  | @code a b c d h hn =>
    have hunit := hexUnit_of_isHex h rest
    rw [IsSurrogate] at hn
    simp only [List.cons_append, List.nil_append, unicodeEscape, hunit, bind, Except.bind]
    rw [if_neg (by omega), if_pos (by omega)]

lemma unicodeEscape_pair (h : SpellsPair ch ('\\' :: 'u' :: u)) (rest : List Char) :
    unicodeEscape (u ++ rest) = .ok (ch, rest) := by
  cases h with
  | @mk a b c d a' b' c' d' high low h h' hhigh hhigh' hlow hlow' =>
    have hunit := hexUnit_of_isHex h ('\\' :: 'u' :: a' :: b' :: c' :: d' :: rest)
    have hunit' := hexUnit_of_isHex h' rest
    simp only [List.cons_append, List.nil_append, unicodeEscape, hunit, hunit', bind, Except.bind]
    rw [if_neg (by omega), if_neg (by omega), if_neg (by omega), hhigh, hlow,
      Nat.add_sub_cancel_left, Nat.add_sub_cancel_left]

/-- What is read up to the closing quote is spelled there. -/
lemma stringBody_eq_ok (h : stringBody fuel seen s = .ok (cs, rest)) :
    ∃ ps, Spelled ps ∧ s = ps.flatMap Prod.snd ++ '"' :: rest ∧
      cs = seen.reverse ++ ps.map Prod.fst := by
  induction fuel generalizing seen s with
  | zero => cases h
  | succ fuel ih =>
    -- a character and its spelling in front of what is read behind it
    have hnext {c : Char} {u s' : List Char} (hu : Spells c u ∨ SpellsPair c u)
        (hbody : stringBody fuel (c :: seen) s' = .ok (cs, rest)) :
        ∃ ps, Spelled ps ∧ u ++ s' = ps.flatMap Prod.snd ++ '"' :: rest ∧
          cs = seen.reverse ++ ps.map Prod.fst := by
      obtain ⟨ps, hps, rfl, rfl⟩ := ih hbody
      exact ⟨(c, u) :: ps, List.forall_mem_cons.mpr ⟨hu, hps⟩, by simp, by simp⟩
    unfold stringBody at h
    split at h
    · cases h
    · cases h
      exact ⟨[], nofun, rfl, by simp⟩
    · split at h
      · cases h
      · split at h
        · rename_i c behind hescape
          obtain ⟨u, rfl, hu⟩ := unicodeEscape_eq_ok hescape
          exact hnext hu h
        · cases h
      · split at h
        · rename_i c hescape
          exact hnext (.inl (.escape hescape)) h
        · cases h
    · rename_i c behind hquote hslash
      split_ifs at h with hlow
      · cases h
      · exact hnext (.inl (.plain (Nat.le_of_not_lt hlow) hquote hslash)) h

lemma stringBody_spells (h : Spells ch u ∨ SpellsPair ch u) (seen s : List Char) :
    stringBody (fuel + 1) seen (u ++ s) = stringBody fuel (ch :: seen) s := by
  rcases h with h | h
  · cases h with
    | plain hlow hquote hslash =>
      rw [List.singleton_append, stringBody]
      · rw [if_neg (Nat.not_lt.mpr hlow)]
      all_goals simp_all
    | @escape name _ h =>
      rw [List.cons_append, List.singleton_append, stringBody]
      · simp only [h]
      · rintro rfl
        cases h
    | code h hn =>
      have hescape := unicodeEscape_code (.code h hn) s
      simp only [List.cons_append, List.nil_append] at hescape ⊢
      simp only [stringBody, hescape]
  · cases h with
    | mk h h' hhigh hhigh' hlow hlow' =>
      have hescape := unicodeEscape_pair (.mk h h' hhigh hhigh' hlow hlow') s
      simp only [List.cons_append, List.nil_append] at hescape ⊢
      simp only [stringBody, hescape]

lemma stringBody_spelled (h : Spelled ps) (hfuel : ps.length < fuel) (seen rest : List Char) :
    stringBody fuel seen (ps.flatMap Prod.snd ++ '"' :: rest) =
      .ok (seen.reverse ++ ps.map Prod.fst, rest) := by
  induction ps generalizing fuel seen with
  | nil =>
    obtain ⟨fuel, rfl⟩ := Nat.exists_eq_add_of_le' hfuel
    rw [List.flatMap_nil, List.nil_append, List.map_nil, List.append_nil]
    rfl
  | cons p ps ih =>
    obtain ⟨fuel, rfl⟩ := Nat.exists_eq_add_of_le' (Nat.zero_lt_of_lt hfuel)
    rw [Spelled, List.forall_mem_cons] at h
    rw [List.flatMap_cons, List.append_assoc, stringBody_spells h.1,
      ih h.2 (Nat.lt_of_succ_lt_succ hfuel), List.reverse_cons, List.append_assoc,
      List.singleton_append, List.map_cons]

lemma spelling_pos (h : Spells ch u ∨ SpellsPair ch u) : 1 ≤ u.length := by
  rcases h with h | h <;> cases h <;> simp

lemma length_le_spelled (h : Spelled ps) : ps.length ≤ (ps.flatMap Prod.snd).length := by
  induction ps with
  | nil => exact Nat.le_refl 0
  | cons p ps ih =>
    rw [Spelled, List.forall_mem_cons] at h
    have hps := ih h.2
    have hp := spelling_pos h.1
    rw [List.flatMap_cons, List.length_append, List.length_cons]
    omega

/-- A literal is read as the text that it denotes. -/
lemma Denotes.stringRest {text : String} (h : Denotes q text) (hfuel : q.length ≤ fuel + 1)
    (rest : List Char) :
    ∃ s, q ++ rest = '"' :: s ∧ stringRest fuel s = .ok (text, rest) := by
  obtain ⟨ps, hps, htext, rfl⟩ := h
  have hlength := length_le_spelled hps
  rw [List.length_cons, List.length_append, List.length_singleton] at hfuel
  refine ⟨ps.flatMap Prod.snd ++ '"' :: rest, by simp, ?_⟩
  rw [Json.stringRest, stringBody_spelled hps (by omega), List.reverse_nil, List.nil_append, ← htext]
  change Except.ok (String.ofList text.toList, rest) = _
  rw [String.ofList_toList]

/-- A literal that is read denotes what is read, and is read to its end. -/
lemma IsQuoted.denotes {text : String} {behind : List Char} (h : IsQuoted q)
    (hquote : q ++ rest = '"' :: s) (hread : stringRest fuel s = .ok (text, behind)) :
    Denotes q text ∧ behind = rest := by
  obtain ⟨units, hunits, rfl⟩ := h
  obtain rfl : units.flatten ++ '"' :: rest = s := by simpa using hquote
  cases hbody : stringBody fuel [] (units.flatten ++ '"' :: rest) with
  | error stop =>
    rw [stringRest, hbody] at hread
    cases hread
  | ok p =>
    rw [stringRest, hbody] at hread
    cases hread
    obtain ⟨ps, hps, hs, htext⟩ := stringBody_eq_ok hbody
    obtain ⟨units', hunits', hflat⟩ := hps.exists_units
    -- both ways to take the literal apart are skipped alike, so that they end at the same quote
    have hskip : skipString (units.flatten.length + units'.flatten.length + 1)
        (units.flatten ++ '"' :: rest) = .ok rest := skipString_units hunits (by omega)
    have hskip' : skipString (units.flatten.length + units'.flatten.length + 1)
        (units'.flatten ++ '"' :: p.2) = .ok p.2 := skipString_units hunits' (by omega)
    rw [hs, hflat, hskip'] at hskip
    obtain rfl : p.2 = rest := Except.ok.inj hskip
    have hsame : units.flatten = ps.flatMap Prod.snd := List.append_cancel_right hs
    exact ⟨⟨ps, hps, by rw [String.toList_ofList, htext]; rfl, by rw [hsame]⟩, rfl⟩

/-- A literal denotes one text at most. -/
lemma Denotes.unique {text text' : String} (h : Denotes q text) (h' : Denotes q text') :
    text = text' := by
  obtain ⟨s, hs, hread⟩ := h.stringRest (Nat.le_succ _) []
  obtain ⟨s', hs', hread'⟩ := h'.stringRest (Nat.le_succ _) []
  rw [hs, List.cons.injEq] at hs'
  rw [hs'.2, hread'] at hread
  exact (Prod.mk.inj (Except.ok.inj hread)).1.symm

/-! ## Quoted texts -/

/-- The written form of a character spells it. -/
lemma spells_escape (ch : Char) : Spells ch (escape ch) := by
  unfold escape
  split_ifs with hquote hslash hback htab hline hfeed hreturn hcontrol
  iterate 7
    subst ch
    exact .escape rfl
  · have hhigh : ch.toNat / 16 < 16 := by omega
    have hlow : ch.toNat % 16 < 16 := by omega
    have hzero : Text.hexDigit? '0' = some 0 := rfl
    have hnumber : Text.hexNumber ['0', '0', hexDigit (ch.toNat / 16), hexDigit (ch.toNat % 16)] =
        ch.toNat := by
      simp only [Text.hexNumber, List.foldl_cons, List.foldl_nil, hzero, hexDigit?_hexDigit hhigh,
        hexDigit?_hexDigit hlow, Option.getD_some]
      omega
    have hcode := Spells.code
      (a := '0') (b := '0') (c := hexDigit (ch.toNat / 16)) (d := hexDigit (ch.toNat % 16))
      (by simp [Text.isHex, hzero, hexDigit?_hexDigit hhigh, hexDigit?_hexDigit hlow])
      (by rw [hnumber, IsSurrogate]; omega)
    rwa [hnumber, Char.ofNat_toNat] at hcode
  · exact .plain (Nat.le_of_not_lt hcontrol) hquote hslash

/-- The written form of a string denotes it. -/
lemma denotes_quote (text : String) : Denotes (quote text) text := by
  refine ⟨text.toList.map fun ch => (ch, escape ch), ?_, ?_, ?_⟩
  · intro p hp
    obtain ⟨ch, -, rfl⟩ := List.mem_map.mp hp
    exact .inl (spells_escape ch)
  · rw [List.map_map]
    exact (List.map_id _).symm
  · rw [quote, List.flatMap_map]

end AgentManifest.Json
