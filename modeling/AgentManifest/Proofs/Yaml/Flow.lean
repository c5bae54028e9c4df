import Mathlib.Tactic.Lemma
import Mathlib.Tactic.SplitIfs
import AgentManifest.Json.Printer
import AgentManifest.Proofs.Json.Spelling
import AgentManifest.Proofs.Text.Place
import AgentManifest.Yaml.Token.Flow

/-!
# Scalars in flow collections

A literal of JSON is read as a quoted scalar of the text that it denotes, if no character stands in
it that YAML takes for the end of a line, and no surrogate pair is escaped. A word of letters and
digits is read as a plain scalar up to the next indicator.
-/

namespace AgentManifest.Yaml

open Json (Spells quote)

/-! ## Cursors -/

namespace Cursor

variable {c : Cursor}

lemma skip_skip (c : Cursor) (m n : Nat) : (c.skip m).skip n = c.skip (m + n) := by
  have hbytes : Text.byteLength (c.rest.take (m + n)) =
      Text.byteLength (c.rest.take m) + Text.byteLength ((c.rest.drop m).take n) := by
    rw [List.take_add, Text.byteLength_append]
  simp only [skip, List.drop_drop, hbytes, Nat.add_assoc]

lemma skip_zero (c : Cursor) : c.skip 0 = c := rfl

lemma rest_skip (front : List Char) {back : List Char} (h : c.rest = front ++ back) :
    (c.skip front.length).rest = back := by
  simp only [skip, h, List.drop_left]

lemma rest_skip_replicate {n : Nat} {ch : Char} {back : List Char}
    (h : c.rest = List.replicate n ch ++ back) : (c.skip n).rest = back := by
  rw [← List.length_replicate (n := n) (a := ch), rest_skip _ h]

lemma index_skip {front back : List Char} (h : c.rest = front ++ back) :
    (c.skip front.length).mark.index = c.mark.index + Text.byteLength front := by
  simp only [skip, h, List.take_left]

@[simp] lemma column_skip (n : Nat) : (c.skip n).mark.column = c.mark.column + n := rfl

/-- Only at the start of a line there may be a document marker. -/
lemma atDocumentMarker_eq_false (h : 0 < c.mark.column) : c.atDocumentMarker = false := by
  have hcolumn : (c.mark.column == 0) = false := by
    rw [beq_eq_false_iff_ne]
    omega
  rw [atDocumentMarker, hcolumn, Bool.false_and, Bool.false_and]

/-- There is no comment to skip. -/
lemma skipComment_eq_self (h : c.rest.head? ≠ some '#') : c.skipComment = c := by
  have hat : c.isAt 0 '#' = false := by
    rw [isAt, ahead?, ← List.head?_eq_getElem?, beq_eq_false_iff_ne]
    exact h
  rw [skipComment, hat, if_neg Bool.false_ne_true]

lemma readBreak?_eq_none {ch : Char} {rest : List Char} (h : c.rest = ch :: rest)
    (hch : isBreak ch = false) : c.readBreak? = none := by
  unfold readBreak?
  rw [h]
  split
  case h_1 heq =>
    cases heq
    cases hch
  case h_2 heq =>
    cases heq
    cases hch
  case h_3 heq =>
    cases heq
    cases hch
  case h_4 heq =>
    cases heq
    rw [hch]
    rfl
  case h_5 heq => cases heq

end Cursor

/-! ## Quoted scalars -/

/-- A character that neither ends a line nor is missing from YAML. -/
def Legible (c : Char) : Prop :=
  ¬(0x7F ≤ c.toNat ∧ c.toNat ≤ 0x9F) ∧
    c.toNat ∉ [0x2028, 0x2029, 0xFEFF, 0xFFFE, 0xFFFF]

instance (c : Char) : Decidable (Legible c) := inferInstanceAs (Decidable (_ ∧ _))

variable {c : Cursor} {start : Mark} {ch : Char} {rest seen : List Char} {fuel : Nat}

lemma readEscape_named {name : Char} (h : c.rest = '\\' :: name :: rest)
    (hname : namedEscape name = some ch) : readEscape start c = .ok (ch, c.skip 2) := by
  have hrest : c.skip.rest = name :: rest := Cursor.rest_skip ['\\'] h
  simp only [readEscape, hrest, hname]

lemma hexDigit?_lt (ch : Char) : (Text.hexDigit? ch).getD 0 < 16 := by
  have h9 : '9'.val.toNat = 57 := rfl
  have hf : 'f'.val.toNat = 102 := rfl
  have hF : 'F'.val.toNat = 70 := rfl
  have h0 : '0'.toNat = 48 := rfl
  have ha : 'a'.toNat = 97 := rfl
  have hA : 'A'.toNat = 65 := rfl
  unfold Text.hexDigit?
  simp only [Char.le_def, UInt32.le_iff_toNat_le]
  split_ifs <;> simp only [Option.getD_some, Option.getD_none, Char.toNat] at * <;> omega

/-- The escape of a character by its code is read. -/
lemma readEscape_code {a b d e : Char} (hhex : ∀ x ∈ [a, b, d, e], Text.isHex x = true)
    (hn : ¬Json.IsSurrogate (Text.hexNumber [a, b, d, e]))
    (h : c.rest = '\\' :: 'u' :: a :: b :: d :: e :: rest) :
    readEscape start c = .ok (Char.ofNat (Text.hexNumber [a, b, d, e]), c.skip 6) := by
  have hskip : c.skip.rest = 'u' :: a :: b :: d :: e :: rest := Cursor.rest_skip ['\\'] h
  have hskip' : (c.skip 2).rest = a :: b :: d :: e :: rest := Cursor.rest_skip ['\\', 'u'] h
  have hnumber : hexNumber? 4 (c.skip 2).rest = some (Text.hexNumber [a, b, d, e]) := by
    rw [hexNumber?, hskip']
    exact if_pos ⟨rfl, List.all_eq_true.mpr hhex⟩
  have hlt : Text.hexNumber [a, b, d, e] < 0x10000 := by
    have ha := hexDigit?_lt a
    have hb := hexDigit?_lt b
    have hd := hexDigit?_lt d
    have he := hexDigit?_lt e
    simp only [Text.hexNumber, List.foldl_cons, List.foldl_nil]
    omega
  have hnamed : namedEscape 'u' = none := rfl
  have hlength : hexEscapeLength 'u' = some 4 := rfl
  rw [Json.IsSurrogate] at hn
  simp only [readEscape, hskip, hnamed, hlength, hnumber]
  rw [if_neg (by omega), Cursor.skip_skip]

/-- An escape in a word is taken as the character that is read from it. -/
lemma quotedWord_backslash {name : Char} {c' : Cursor} (h : c.rest = '\\' :: name :: rest)
    (hbreak : isBreak name = false) (hread : readEscape start c = .ok (ch, c')) :
    quotedWord '"' start (fuel + 1) seen c = quotedWord '"' start fuel (ch :: seen) c' := by
  have hblank : (isBlank '\\' || isBreak '\\') = false := rfl
  have hcheck : c.check 1 isBreak = false := by simp [Cursor.check, Cursor.ahead?, h, hbreak]
  simp [quotedWord, h, hblank, hcheck, hread]

/-- Any other character in a word stands for itself. -/
lemma quotedWord_plain (h : c.rest = ch :: rest) (hblank : isBlank ch = false)
    (hbreak : isBreak ch = false) (hquote : ch ≠ '"') (hslash : ch ≠ '\\') :
    quotedWord '"' start (fuel + 1) seen c = quotedWord '"' start fuel (ch :: seen) c.skip := by
  simp [quotedWord, h, hblank, hbreak, hquote, hslash]

lemma Legible.isBreak_eq_false (h : Legible ch) (hcontrol : ¬ch.toNat < 0x20) :
    isBreak ch = false := by
  obtain ⟨hrange, hnone⟩ := h
  simp only [List.mem_cons, List.not_mem_nil, or_false, not_or] at hnone
  by_contra hbreak
  simp only [isBreak, Bool.not_eq_false, Bool.or_eq_true, beq_iff_eq] at hbreak
  rcases hbreak with (((rfl | rfl) | rfl) | rfl) | rfl
  · exact hcontrol (by decide)
  · exact hcontrol (by decide)
  · exact hrange (by decide)
  · exact hnone.1 rfl
  · exact hnone.2.1 rfl

/-- Characters with their spellings, which have no part that YAML takes for the end of a line. -/
def WellSpelled (ps : List (Char × List Char)) : Prop :=
  ∀ p ∈ ps, Spells p.1 p.2 ∧ ∀ ch ∈ p.2, Legible ch

variable {u : List Char} {ps : List (Char × List Char)}

/-- The letters that stand for characters behind a backslash in JSON do so in YAML as well. -/
lemma namedEscape_of_simpleEscape {name : Char} (h : Json.simpleEscape name = some ch) :
    namedEscape name = some ch ∧ isBreak name = false := by
  unfold Json.simpleEscape at h
  split at h <;> cases h <;> exact ⟨rfl, rfl⟩

/-- The spelling of a character is read, unless it is a space that stands for itself. -/
lemma quotedWord_spells (hspace : (ch, u) ≠ (' ', [' '])) (hu : Spells ch u)
    (hlegible : ∀ x ∈ u, Legible x) (h : c.rest = u ++ rest) :
    quotedWord '"' start (fuel + 1) seen c =
      quotedWord '"' start fuel (ch :: seen) (c.skip u.length) := by
  cases hu with
  | plain hlow hquote hslash =>
    have htab : ch ≠ '\t' := by
      rintro rfl
      exact absurd hlow (by decide)
    have hne : ch ≠ ' ' := by
      rintro rfl
      exact hspace rfl
    have hblank : isBlank ch = false := by simp [isBlank, hne, htab]
    have hbreak := (hlegible ch List.mem_cons_self).isBreak_eq_false (Nat.not_lt.mpr hlow)
    exact quotedWord_plain h hblank hbreak hquote hslash
  | escape hescape =>
    obtain ⟨hnamed, hbreak⟩ := namedEscape_of_simpleEscape hescape
    exact quotedWord_backslash h hbreak (readEscape_named h hnamed)
  | code hhex hn => exact quotedWord_backslash h rfl (readEscape_code hhex hn h)

/-- A word is read up to a space or a quote. -/
lemma quotedWord_word {word : List (Char × List Char)}
    (hspaces : ∀ p ∈ word, p ≠ (' ', [' '])) (hword : WellSpelled word)
    (hfuel : word.length < fuel) {stop : Char} (hstop : stop = '"' ∨ stop = ' ')
    (h : c.rest = word.flatMap Prod.snd ++ stop :: rest) :
    quotedWord '"' start fuel seen c =
      .ok ((word.map Prod.fst).reverse ++ seen, if stop = '"' then .quote else .gap,
        c.skip (word.flatMap Prod.snd).length) := by
  induction word generalizing fuel seen c with
  | nil =>
    obtain ⟨fuel, rfl⟩ := Nat.exists_eq_add_of_le' hfuel
    rw [List.flatMap_nil, List.nil_append] at h
    rcases hstop with rfl | rfl
    · have hblank : (isBlank '"' || isBreak '"') = false := rfl
      simp [quotedWord, h, hblank, Cursor.skip_zero]
    · have hblank : (isBlank ' ' || isBreak ' ') = true := rfl
      simp [quotedWord, h, hblank, Cursor.skip_zero]
  | cons p word ih =>
    obtain ⟨fuel, rfl⟩ := Nat.exists_eq_add_of_le' (Nat.le_trans (Nat.le_add_left 1 _) hfuel)
    rw [List.forall_mem_cons] at hspaces
    rw [WellSpelled, List.forall_mem_cons] at hword
    rw [List.flatMap_cons, List.append_assoc] at h
    rw [List.flatMap_cons, quotedWord_spells hspaces.1 hword.1.1 hword.1.2 h,
      ih hspaces.2 hword.2 (Nat.lt_of_succ_lt_succ hfuel) (Cursor.rest_skip _ h), Cursor.skip_skip,
      List.length_append, List.map_cons, List.reverse_cons, List.append_assoc,
      List.singleton_append]

/-- Blanks on one line are kept. -/
lemma foldl_addBlank_inLine (blanks spaces : List Char) :
    spaces.foldl (fun gap ch => Gap.addBlank ch gap) (.inLine blanks) =
      .inLine (blanks ++ spaces) := by
  induction spaces generalizing blanks with
  | nil => rw [List.foldl_nil, List.append_nil]
  | cons ch spaces ih =>
    rw [List.foldl_cons, Gap.addBlank, ih, List.append_assoc, List.singleton_append]

/-- Past the end of a line blanks do not count. -/
lemma foldl_addBlank_lines (first : Option Char) (others spaces : List Char) :
    spaces.foldl (fun gap ch => Gap.addBlank ch gap) (.lines first others) =
      .lines first others := by
  induction spaces with
  | nil => rfl
  | cons ch spaces ih => exact ih

/-- Spaces are read up to anything else, if none of them is refused. -/
lemma readGap_spaces {refuses : Gap → Cursor → Option Fault}
    (hrefuses : ∀ gap c, c.rest.head? = some ' ' → refuses gap c = none) {n : Nat}
    (hfuel : n < fuel) {stop : Char} (hblank : isBlank stop = false) (hbreak : isBreak stop = false)
    (gap : Gap) (h : c.rest = List.replicate n ' ' ++ stop :: rest) :
    readGap refuses fuel gap c =
      .ok ((List.replicate n ' ').foldl (fun gap ch => Gap.addBlank ch gap) gap, c.skip n) := by
  induction n generalizing fuel gap c with
  | zero =>
    obtain ⟨fuel, rfl⟩ := Nat.exists_eq_add_of_le' hfuel
    rw [List.replicate_zero, List.nil_append] at h
    simp [readGap, h, hblank, Cursor.readBreak?_eq_none h hbreak, Cursor.skip_zero]
  | succ n ih =>
    obtain ⟨fuel, rfl⟩ := Nat.exists_eq_add_of_le' (Nat.le_trans (Nat.le_add_left 1 _) hfuel)
    rw [List.replicate_succ, List.cons_append] at h
    have hspace : isBlank ' ' = true := rfl
    have hskip : c.skip.rest = List.replicate n ' ' ++ stop :: rest :=
      Cursor.rest_skip [' '] h
    have hhead : refuses gap c = none := hrefuses gap c (by rw [h, List.head?_cons])
    simp only [readGap, h, hspace, hhead, if_true]
    rw [ih (Nat.lt_of_succ_lt_succ hfuel) _ hskip, Cursor.skip_skip, Nat.add_comm,
      List.replicate_succ, List.foldl_cons]

/-- What spelled characters start with, if the first one is no space that stands for itself, is
neither a blank nor the end of a line; nor is the quote behind an empty text. -/
lemma exists_spelled_eq_cons (hspace : ps.head? ≠ some (' ', [' '])) (hps : WellSpelled ps)
    (rest : List Char) :
    ∃ stop tail, ps.flatMap Prod.snd ++ '"' :: rest = stop :: tail ∧ isBlank stop = false ∧
      isBreak stop = false := by
  cases ps with
  | nil => exact ⟨'"', rest, rfl, rfl, rfl⟩
  | cons p ps =>
    obtain ⟨ch, u⟩ := p
    obtain ⟨hu, hlegible⟩ : Spells ch u ∧ ∀ x ∈ u, Legible x := hps (ch, u) List.mem_cons_self
    rw [List.flatMap_cons, List.append_assoc]
    cases hu with
    | plain hlow =>
      have hne : ch ≠ ' ' := by
        rintro rfl
        exact hspace rfl
      have htab : ch ≠ '\t' := by
        rintro rfl
        exact absurd hlow (by decide)
      exact ⟨ch, _, rfl, by simp [isBlank, hne, htab],
        (hlegible ch List.mem_cons_self).isBreak_eq_false (Nat.not_lt.mpr hlow)⟩
    | escape => exact ⟨'\\', _, rfl, rfl, rfl⟩
    | code => exact ⟨'\\', _, rfl, rfl, rfl⟩

lemma flatMap_spaces (n : Nat) :
    (List.replicate n (' ', [' '])).flatMap Prod.snd = List.replicate n ' ' := by
  induction n with
  | zero => rfl
  | succ n ih =>
    rw [List.replicate_succ, List.flatMap_cons, ih]
    rfl

/-- A list is a word and, if it goes on, some spaces and a list that starts with another word. -/
lemma exists_words {α : Type} [DecidableEq α] (space : α) (l : List α) :
    ∃ word n tail, l = word ++ (List.replicate n space ++ tail) ∧ (∀ x ∈ word, x ≠ space) ∧
      tail.head? ≠ some space ∧ (n = 0 → tail = []) := by
  induction l with
  | nil => exact ⟨[], 0, [], rfl, nofun, nofun, fun _ => rfl⟩
  | cons x l ih =>
    obtain ⟨word, n, tail, hl, hword, htail, hn⟩ := ih
    by_cases hx : x = space
    · subst hx
      cases word with
      | nil =>
        refine ⟨[], n + 1, tail, ?_, nofun, htail, nofun⟩
        rw [hl, List.replicate_succ]
        rfl
      | cons w word =>
        refine ⟨[], 1, l, rfl, nofun, ?_, nofun⟩
        rw [hl]
        simpa using hword w List.mem_cons_self
    · exact ⟨x :: word, n, tail, congrArg (x :: ·) hl, List.forall_mem_cons.mpr ⟨hx, hword⟩,
        htail, hn⟩

/-- The words of a quoted string are read, with the spaces between them. -/
lemma quotedWords_spelled (hps : WellSpelled ps) (hfuel : ps.length < fuel)
    (hcolumn : 0 < c.mark.column) (h : c.rest = ps.flatMap Prod.snd ++ '"' :: rest) :
    quotedWords '"' start fuel seen c =
      .ok ((ps.map Prod.fst).reverse ++ seen, c.skip (ps.flatMap Prod.snd).length) := by
  -- one round reads a word and all spaces behind it, so the induction is on the fuel
  induction fuel generalizing ps seen c with
  | zero => cases hfuel
  | succ fuel ih =>
    have hmarker := Cursor.atDocumentMarker_eq_false hcolumn
    have hempty : c.rest.isEmpty = false := by
      rw [h]
      cases ps.flatMap Prod.snd <;> rfl
    obtain ⟨word, n, tail, rfl, hspaces, htail, hn⟩ := exists_words (' ', [' ']) ps
    rw [WellSpelled, List.forall_mem_append] at hps
    have hlength : word.length < c.rest.length + 1 := by
      have hle := Json.length_le_spelled fun p hp => .inl (hps.1 p hp).1
      rw [h, List.flatMap_append, List.length_append, List.length_append]
      omega
    rw [quotedWords, hmarker, if_neg Bool.false_ne_true, hempty, if_neg Bool.false_ne_true]
    rw [List.flatMap_append, List.flatMap_append, flatMap_spaces] at h
    cases n with
    | zero =>
      obtain rfl := hn rfl
      have hread : quotedWord '"' start (c.rest.length + 1) seen c =
          .ok ((word.map Prod.fst).reverse ++ seen, .quote,
            c.skip (word.flatMap Prod.snd).length) :=
        quotedWord_word hspaces hps.1 hlength (.inl rfl) (by simpa using h)
      rw [hread]
      simp
    | succ n =>
      have hword' : c.rest = word.flatMap Prod.snd ++
          ' ' :: (List.replicate n ' ' ++ (tail.flatMap Prod.snd ++ '"' :: rest)) := by
        simpa [List.replicate_succ] using h
      have hread : quotedWord '"' start (c.rest.length + 1) seen c =
          .ok ((word.map Prod.fst).reverse ++ seen, .gap, c.skip (word.flatMap Prod.snd).length) :=
        quotedWord_word hspaces hps.1 hlength (.inr rfl) hword'
      have hrest : (c.skip (word.flatMap Prod.snd).length).rest =
          List.replicate (n + 1) ' ' ++ (tail.flatMap Prod.snd ++ '"' :: rest) :=
        Cursor.rest_skip _ (by simpa using h)
      have htail' : WellSpelled tail := (List.forall_mem_append.mp hps.2).2
      obtain ⟨stop, behind, hstop, hblank, hbreak⟩ := exists_spelled_eq_cons htail htail' rest
      have hspaced : (c.skip (word.flatMap Prod.snd).length).rest =
          List.replicate (n + 1) ' ' ++ stop :: behind := hstop ▸ hrest
      have hgap : readGap (fun _ _ => none)
          ((c.skip (word.flatMap Prod.snd).length).rest.length + 1)
          (.inLine []) (c.skip (word.flatMap Prod.snd).length) =
            .ok (.inLine ([] ++ List.replicate (n + 1) ' '),
              (c.skip (word.flatMap Prod.snd).length).skip (n + 1)) :=
        (readGap_spaces (fun _ _ _ => rfl)
          (by rw [hrest, List.length_append, List.length_replicate]; omega) hblank hbreak _
          hspaced).trans (by rw [foldl_addBlank_inLine])
      have hnext : quotedWords '"' start fuel
          (List.replicate (n + 1) ' ' ++ ((word.map Prod.fst).reverse ++ seen))
          ((c.skip (word.flatMap Prod.snd).length).skip (n + 1)) =
            .ok ((tail.map Prod.fst).reverse ++
                (List.replicate (n + 1) ' ' ++ ((word.map Prod.fst).reverse ++ seen)),
              ((c.skip (word.flatMap Prod.snd).length).skip (n + 1)).skip
                (tail.flatMap Prod.snd).length) :=
        ih htail' (by simp only [List.length_append, List.length_replicate] at hfuel; omega)
          (by rw [Cursor.column_skip, Cursor.column_skip]; omega)
          (Cursor.rest_skip_replicate hrest)
      have hend : (WordEnd.gap == .escapedBreak) = false := rfl
      rw [hread]
      simp only [hend, Bool.false_and, Bool.false_eq_true, if_false, hgap, List.nil_append, Gap.fold,
        List.reverse_replicate, hnext]
      simp only [Cursor.skip_skip, List.flatMap_append, flatMap_spaces, List.length_append,
        List.length_replicate, List.map_append, List.map_replicate, List.reverse_append,
        List.append_assoc, List.reverse_replicate, Nat.add_assoc]

/-- A literal denotes a text in JSON, and YAML has no other way to read it: no surrogate pair is
escaped in it, and all its characters are legible. -/
def IsLiteral (text : String) (q : List Char) : Prop :=
  ∃ ps, WellSpelled ps ∧ text.toList = ps.map Prod.fst ∧ q = '"' :: (ps.flatMap Prod.snd ++ ['"'])

lemma isHex_range (h : Text.isHex ch = true) : 0x30 ≤ ch.toNat ∧ ch.toNat ≤ 0x66 := by
  have h0 : '0'.val.toNat = 48 := rfl
  have h9 : '9'.val.toNat = 57 := rfl
  have hA : 'A'.val.toNat = 65 := rfl
  have hF : 'F'.val.toNat = 70 := rfl
  have ha : 'a'.val.toNat = 97 := rfl
  have hf : 'f'.val.toNat = 102 := rfl
  unfold Text.isHex Text.hexDigit? at h
  simp only [Char.le_def, UInt32.le_iff_toNat_le] at h
  split_ifs at h
  case neg => cases h
  all_goals
    simp only [Char.toNat]
    omega

lemma legible_of_isHex (h : Text.isHex ch = true) : Legible ch := by
  have hrange := isHex_range h
  refine ⟨by omega, ?_⟩
  simp only [List.mem_cons, List.not_mem_nil, or_false]
  omega

/-- The spelling of a character is legible, if the character is where it stands for itself. -/
lemma legible_of_mem_spelling (hu : Spells ch u) (hch : u = [ch] → Legible ch) :
    ∀ x ∈ u, Legible x := by
  cases hu with
  | plain => exact List.forall_mem_singleton.mpr (hch rfl)
  | @escape name _ h =>
    have hname : Legible name := by
      unfold Json.simpleEscape at h
      split at h <;> cases h <;> decide
    exact List.forall_mem_cons.mpr ⟨by decide, List.forall_mem_singleton.mpr hname⟩
  | code h =>
    simp only [List.forall_mem_cons, List.not_mem_nil, false_implies, implies_true, and_true] at h ⊢
    exact ⟨by decide, by decide, legible_of_isHex h.1, legible_of_isHex h.2.1,
      legible_of_isHex h.2.2.1, legible_of_isHex h.2.2.2⟩

/-- The written form of a text of legible characters is a literal of it. -/
lemma isLiteral_quote {text : String} (h : ∀ ch ∈ text.toList, Legible ch) :
    IsLiteral text (quote text) := by
  refine ⟨text.toList.map fun ch => (ch, Json.escape ch), ?_, ?_, ?_⟩
  · intro p hp
    obtain ⟨ch, hch, rfl⟩ := List.mem_map.mp hp
    have hu := Json.spells_escape ch
    exact ⟨hu, legible_of_mem_spelling hu fun _ => h ch hch⟩
  · rw [List.map_map]
    exact (List.map_id _).symm
  · rw [quote, List.flatMap_map]

/-- A literal is read, from its opening to behind its closing quote. -/
lemma readQuoted_literal {text : String} {q : List Char} (hq : IsLiteral text q)
    (h : c.rest = q ++ rest) : readQuoted '"' c = .ok (text.toList, c.skip q.length) := by
  obtain ⟨ps, hps, htext, rfl⟩ := hq
  rw [List.cons_append, List.append_assoc, List.singleton_append] at h
  have hskip : c.skip.rest = ps.flatMap Prod.snd ++ '"' :: rest := Cursor.rest_skip ['"'] h
  have hfuel : ps.length < c.rest.length + 1 := by
    have hle := Json.length_le_spelled fun p hp => .inl (hps p hp).1
    rw [h, List.length_cons, List.length_append]
    omega
  have hwords : quotedWords '"' c.mark (c.rest.length + 1) [] c.skip =
      .ok ((ps.map Prod.fst).reverse ++ [], c.skip.skip (ps.flatMap Prod.snd).length) :=
    quotedWords_spelled hps hfuel (Nat.succ_pos _) hskip
  have hlength : ('"' :: (ps.flatMap Prod.snd ++ ['"'])).length =
      1 + (ps.flatMap Prod.snd).length + 1 := by
    rw [List.length_cons, List.length_append, List.length_singleton]
    omega
  rw [readQuoted, hwords]
  simp only [Cursor.skip_skip, List.append_nil, List.reverse_reverse, hlength, htext]

/-! ## Plain scalars -/

/-- A letter or digit, a minus sign or an underscore. -/
def IsPlainChar (ch : Char) : Prop := ch.isAlphanum = true ∨ ch = '-' ∨ ch = '_'

instance (ch : Char) : Decidable (IsPlainChar ch) := inferInstanceAs (Decidable (_ ∨ _))

/-- Where a plain scalar ends: at the end of the text, at a colon with a blank or a line break behind
it or, inside a flow collection, at one of its indicators. -/
def EndsPlain (inFlow : Bool) (s : List Char) : Prop :=
  s = [] ∨ (inFlow = true ∧ ∃ ch ∈ [',', ']', '}'], s.head? = some ch) ∨
    ∃ d ds, s = ':' :: d :: ds ∧ (isBlank d || isBreak d) = true

lemma IsPlainChar.not_special (h : IsPlainChar ch) :
    isBlank ch = false ∧ isBreak ch = false ∧ isFlowIndicator ch = false ∧ ch ≠ ':' ∧ ch ≠ '#' := by
  have hne (d : Char) (hd : ¬IsPlainChar d) : ch ≠ d := fun heq => hd (heq ▸ h)
  refine ⟨?_, ?_, ?_, hne ':' (by decide), hne '#' (by decide)⟩
  · simp [isBlank, hne ' ' (by decide), hne '\t' (by decide)]
  · simp [isBreak, hne '\n' (by decide), hne '\r' (by decide), hne '\u0085' (by decide),
      hne '\u2028' (by decide), hne '\u2029' (by decide)]
  · simp [isFlowIndicator, hne ',' (by decide), hne '[' (by decide), hne ']' (by decide),
      hne '{' (by decide), hne '}' (by decide)]

lemma IsPlainChar.toNat_range (h : IsPlainChar ch) : 0x2D ≤ ch.toNat ∧ ch.toNat ≤ 0x7A := by
  have hA : 'A'.val.toNat = 0x41 := rfl
  have hZ : 'Z'.val.toNat = 0x5A := rfl
  have ha : 'a'.val.toNat = 0x61 := rfl
  have hz : 'z'.val.toNat = 0x7A := rfl
  have h0 : '0'.val.toNat = 0x30 := rfl
  have h9 : '9'.val.toNat = 0x39 := rfl
  have halphanum : ch.isAlphanum = (decide ('A'.val ≤ ch.val ∧ ch.val ≤ 'Z'.val) ||
      (decide ('a'.val ≤ ch.val) && decide (ch.val ≤ 'z'.val)) ||
      (decide ('0'.val ≤ ch.val) && decide (ch.val ≤ '9'.val))) := rfl
  rcases h with h | rfl | rfl
  · simp only [halphanum, Bool.or_eq_true, Bool.and_eq_true, decide_eq_true_eq,
      UInt32.le_iff_toNat_le, hA, hZ, ha, hz, h0, h9] at h
    simp only [Char.toNat]
    omega
  · decide
  · decide

/-- A blank or a line break is no indicator. -/
lemma not_indicator_of_gap {d : Char} (h : (isBlank d || isBreak d) = true) :
    (isFlowIndicator d || d == '?') = false := by
  rw [← Bool.not_eq_true]
  intro hd
  simp only [isFlowIndicator, Bool.or_eq_true, beq_iff_eq] at hd
  rcases hd with ((((rfl | rfl) | rfl) | rfl) | rfl) | rfl <;> cases h

/-- No word goes on where a plain scalar ends. -/
lemma EndsPlain.plainWord_eq {inFlow : Bool} (h : EndsPlain inFlow rest) :
    plainWord inFlow rest = ([], false) := by
  rcases h with rfl | ⟨rfl, ch, hch, hhead⟩ | ⟨d, ds, rfl, hd⟩
  · rfl
  · cases rest with
    | nil => cases hhead
    | cons ch' rest =>
      obtain rfl : ch' = ch := Option.some.inj hhead
      have hcolon : (ch' == ':') = false := by
        simp only [List.mem_cons, List.not_mem_nil, or_false] at hch
        rcases hch with rfl | rfl | rfl <;> rfl
      have hflow : isFlowIndicator ch' = true := by
        simp only [List.mem_cons, List.not_mem_nil, or_false] at hch
        rcases hch with rfl | rfl | rfl <;> rfl
      simp [plainWord, clashes, endsPlain, hcolon, hflow]
  · simp [plainWord, clashes, endsPlain, not_indicator_of_gap hd, hd]

lemma plainWord_append {inFlow : Bool} {word : List Char} (hword : ∀ ch ∈ word, IsPlainChar ch)
    (hrest : plainWord inFlow rest = ([], false)) :
    plainWord inFlow (word ++ rest) = (word, false) := by
  induction word with
  | nil => exact hrest
  | cons ch word ih =>
    rw [List.forall_mem_cons] at hword
    obtain ⟨hblank, hbreak, hflow, hcolon, -⟩ := hword.1.not_special
    simp [plainWord, clashes, endsPlain, hblank, hbreak, hflow, hcolon, ih hword.2]

/-- A word of letters and digits starts no comment. -/
lemma not_startsComment_of_word {word : List Char} (hne : word ≠ [])
    (hword : ∀ ch ∈ word, IsPlainChar ch) (h : c.rest = word ++ rest) : c.isAt 0 '#' = false := by
  cases word with
  | nil => exact absurd rfl hne
  | cons ch word =>
    have hch := (hword ch List.mem_cons_self).not_special.2.2.2.2
    simp [Cursor.isAt, Cursor.ahead?, h, hch]

/-- A word of letters and digits is read as a plain scalar. -/
lemma readPlain_word {inFlow : Bool} {word : List Char} (hne : word ≠ [])
    (hword : ∀ ch ∈ word, IsPlainChar ch) (hmarker : c.atDocumentMarker = false)
    (hrest : EndsPlain inFlow rest) (indent : Int) (h : c.rest = word ++ rest) :
    readPlain inFlow indent c = .ok (word, false, c.skip word.length) := by
  have hcomment : c.isAt 0 '#' = false := not_startsComment_of_word hne hword h
  have hskip : (c.skip word.length).rest = rest := Cursor.rest_skip _ h
  have hnone : (c.skip word.length).check 0 (fun ch => isBlank ch || isBreak ch) = false := by
    rw [Cursor.check, Cursor.ahead?, hskip]
    rcases hrest with rfl | ⟨-, ch, hch, hhead⟩ | ⟨d, ds, rfl, -⟩
    · rfl
    · rw [List.head?_eq_getElem?] at hhead
      rw [hhead]
      simp only [List.mem_cons, List.not_mem_nil, or_false] at hch
      rcases hch with rfl | rfl | rfl <;> rfl
    · rfl
  have hempty : word.isEmpty = false := by simpa using hne
  rw [readPlain, plainWords, hmarker, hcomment]
  simp [h, plainWord_append hword hrest.plainWord_eq, hempty, hnone, Gap.fold, Gap.isLines]

end AgentManifest.Yaml
