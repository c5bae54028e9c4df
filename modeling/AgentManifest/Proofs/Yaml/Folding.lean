import AgentManifest.Proofs.Yaml.Flow

/-!
# Folded scalars

A plain scalar outside flow collections goes on over blanks and line breaks. Where nothing in the
text can end it, it goes on to the end of the text, and all gaps in it are folded
(`readPlain_folds`).
-/

namespace AgentManifest.Yaml

/-! ## Cursors -/

namespace Cursor

variable {c : Cursor}

lemma rest_skipWhile (c : Cursor) (p : Char → Bool) : (c.skipWhile p).rest = c.rest.dropWhile p :=
  rest_skip _ List.takeWhile_append_dropWhile.symm

lemma isAt_eq_false {d : Char} (h : d ∉ c.rest) (n : Nat) : c.isAt n d = false := by
  rw [isAt, ahead?, beq_eq_false_iff_ne]
  exact fun hd => h (List.mem_of_getElem? hd)

end Cursor

variable {c : Cursor} {start : Mark} {ch : Char} {rest seen : List Char} {fuel : Nat} {gap : Gap}

/-! ## Folded text -/

/-- A character that is no space, no tab and no line break. -/
def isSolid (ch : Char) : Bool := !(isBlank ch || isBreak ch)

lemma not_isSolid_iff : isSolid ch = false ↔ isBlank ch = true ∨ isBreak ch = true := by
  rw [isSolid, Bool.not_eq_false', Bool.or_eq_true]

/-- The character that a line break is kept as, where it is kept. -/
def keptBreak (ch : Char) : Char := if ch = '\u2028' ∨ ch = '\u2029' then ch else '\n'

/-- The folded form of a text behind a gap: every gap in front of a solid character is folded, and
the gap at the end is dropped. -/
def foldGaps : Gap → List Char → List Char
  | _, [] => []
  | gap, '\r' :: '\n' :: rest => foldGaps (gap.addBreak '\n') rest
  | gap, ch :: rest =>
    if isBlank ch then foldGaps (gap.addBlank ch) rest
    else if isBreak ch then foldGaps (gap.addBreak (keptBreak ch)) rest
    else gap.fold ++ ch :: foldGaps (.inLine []) rest

lemma isBlank_of_isBreak (h : isBreak ch = true) : isBlank ch = false := by
  rw [← Bool.not_eq_true]
  intro hblank
  simp only [isBlank, Bool.or_eq_true, beq_iff_eq] at hblank
  rcases hblank with rfl | rfl <;> cases h

lemma foldGaps_blank (h : isBlank ch = true) (gap : Gap) (rest : List Char) :
    foldGaps gap (ch :: rest) = foldGaps (gap.addBlank ch) rest := by
  have hreturn : ch ≠ '\r' := by
    rintro rfl
    cases h
  rw [foldGaps, if_pos h]
  exact fun _ heq => absurd heq hreturn

lemma foldGaps_break (h : isBreak ch = true) (hpair : ∀ behind, ch = '\r' → rest ≠ '\n' :: behind)
    (gap : Gap) : foldGaps gap (ch :: rest) = foldGaps (gap.addBreak (keptBreak ch)) rest := by
  rw [foldGaps, if_neg (by simp [isBlank_of_isBreak h]), if_pos h]
  exact hpair

lemma foldGaps_solid (h : isSolid ch = true) (gap : Gap) (rest : List Char) :
    foldGaps gap (ch :: rest) = gap.fold ++ ch :: foldGaps (.inLine []) rest := by
  rw [isSolid, Bool.not_eq_true', Bool.or_eq_false_iff] at h
  have hreturn : ch ≠ '\r' := by
    rintro rfl
    cases h.2
  rw [foldGaps, if_neg (by simp [h.1]), if_neg (by simp [h.2])]
  exact fun _ heq => absurd heq hreturn

/-- In front of a word the gap is folded. -/
lemma foldGaps_word {word : List Char} (hword : ∀ ch ∈ word, isSolid ch = true) (gap : Gap)
    (rest : List Char) :
    foldGaps gap (word ++ rest) =
      if word.isEmpty then foldGaps gap rest
      else gap.fold ++ (word ++ foldGaps (.inLine []) rest) := by
  induction word generalizing gap with
  | nil => rfl
  | cons ch word ih =>
    rw [List.forall_mem_cons] at hword
    rw [List.cons_append, foldGaps_solid hword.1, ih hword.2]
    cases word with
    | nil => rfl
    | cons => rfl

/-! ## Gaps -/

/-- A line break is one or two characters, which count as one break in a gap. -/
lemma readBreak?_break (h : c.rest = ch :: rest) (hbreak : isBreak ch = true) :
    ∃ b front c', c.readBreak? = some (b, c') ∧ c.rest = front ++ c'.rest ∧ front ≠ [] ∧
      (∀ x ∈ front, isBreak x = true) ∧
      ∀ gap, foldGaps gap c.rest = foldGaps (gap.addBreak b) c'.rest := by
  -- all line breaks but a carriage return with a line feed are one character
  have hone (hpair : ∀ behind, ch = '\r' → rest ≠ '\n' :: behind) (m : Mark) :
      c.rest = [ch] ++ (Cursor.mk rest m).rest ∧ [ch] ≠ [] ∧ (∀ x ∈ [ch], isBreak x = true) ∧
        ∀ gap, foldGaps gap c.rest = foldGaps (gap.addBreak (keptBreak ch)) rest :=
    ⟨h, List.cons_ne_nil _ _, List.forall_mem_singleton.mpr hbreak,
      fun gap => h ▸ foldGaps_break hbreak hpair gap⟩
  unfold Cursor.readBreak?
  split
  case h_1 behind heq =>
    refine ⟨_, ['\r', '\n'], _, rfl, heq, List.cons_ne_nil _ _,
      List.all_eq_true.mp (by decide), fun gap => ?_⟩
    rw [heq, foldGaps]
  case h_2 behind heq =>
    obtain ⟨rfl, rfl⟩ := List.cons.inj (h.symm.trans heq)
    exact ⟨_, _, _, rfl, hone nofun _⟩
  case h_3 behind heq =>
    obtain ⟨rfl, rfl⟩ := List.cons.inj (h.symm.trans heq)
    exact ⟨_, _, _, rfl, hone nofun _⟩
  case h_4 ch' behind hreturn hline hparagraph heq =>
    obtain ⟨rfl, rfl⟩ := List.cons.inj (h.symm.trans heq)
    have hkept : keptBreak ch = '\n' := by
      rw [keptBreak, if_neg]
      rintro (rfl | rfl)
      · exact hline rfl
      · exact hparagraph rfl
    have hpair : ∀ behind, ch = '\r' → rest ≠ '\n' :: behind := by
      rintro behind rfl rfl
      exact hreturn _ rfl rfl
    rw [if_pos hbreak]
    exact ⟨_, _, _, rfl, hkept ▸ hone hpair _⟩
  case h_5 heq =>
    rw [h] at heq
    cases heq

/-- A gap goes on to the next solid character, and the folded text stays the same. -/
lemma readGap_folds {refuses : Gap → Cursor → Option Fault}
    (hrefuses : ∀ gap c, refuses gap c = none) (hfuel : c.rest.length < fuel) :
    ∃ gap' c', readGap refuses fuel gap c = .ok (gap', c') ∧
      c'.rest = c.rest.dropWhile (fun ch => !isSolid ch) ∧
      foldGaps gap c.rest = foldGaps gap' c'.rest := by
  induction fuel generalizing gap c with
  | zero => exact absurd hfuel (Nat.not_lt_zero _)
  | succ fuel ih =>
    cases hrest : c.rest with
    | nil => exact ⟨gap, c, by simp only [readGap, hrest], hrest, by rw [hrest]⟩
    | cons ch rest =>
      rw [hrest, List.length_cons] at hfuel
      cases hblank : isBlank ch with
      | true =>
        have hskip : c.skip.rest = rest := Cursor.rest_skip [ch] hrest
        obtain ⟨gap', c', hread, hstop, hfold⟩ :=
          @ih c.skip (gap.addBlank ch) (by rw [hskip]; omega)
        have hsolid : isSolid ch = false := not_isSolid_iff.mpr (.inl hblank)
        refine ⟨gap', c', ?_, ?_, ?_⟩
        · simp only [readGap, hrest, hblank, hrefuses, if_true, hread]
        · rw [hstop, hskip, List.dropWhile_cons_of_pos (by rw [hsolid]; rfl)]
        · rw [foldGaps_blank hblank, ← hskip, hfold]
      | false =>
        cases hbreak : isBreak ch with
        | true =>
          obtain ⟨b, front, c₁, hnext, hsplit, hne, hfront, hfold₁⟩ := readBreak?_break hrest hbreak
          have hlength : c₁.rest.length < fuel := by
            have hcount := congrArg List.length (hrest.symm.trans hsplit)
            rw [List.length_cons, List.length_append] at hcount
            have hpos := List.length_pos_iff.mpr hne
            omega
          obtain ⟨gap', c', hread, hstop, hfold⟩ := @ih c₁ (gap.addBreak b) hlength
          refine ⟨gap', c', ?_, ?_, ?_⟩
          · simp only [readGap, hrest, hblank, Bool.false_eq_true, if_false, hnext, hread]
          · rw [hstop, ← hrest, hsplit, List.dropWhile_append_of_pos]
            intro x hx
            rw [not_isSolid_iff.mpr (.inr (hfront x hx))]
            rfl
          · rw [← hrest, hfold₁, hfold]
        | false =>
          have hsolid : isSolid ch = true := by
            rw [isSolid, hblank, hbreak]
            rfl
          refine ⟨gap, c, ?_, ?_, by rw [hrest]⟩
          · simp only [readGap, hrest, hblank, Bool.false_eq_true, if_false,
              Cursor.readBreak?_eq_none hrest hbreak]
          · rw [hrest, List.dropWhile_cons_of_neg (by simp [hsolid])]

/-! ## Plain scalars -/

/-- A text in which no value, no comment and no document marker can start. -/
def IsUnmarked (text : List Char) : Prop := ∀ d ∈ [':', '#', '-', '.'], d ∉ text

namespace IsUnmarked

variable {text : List Char}

lemma of_suffix (h : IsUnmarked text) (hsuffix : rest <:+ text) : IsUnmarked rest :=
  fun d hd hmem => h d hd (hsuffix.mem hmem)

lemma atDocumentMarker_eq_false (h : IsUnmarked c.rest) : c.atDocumentMarker = false := by
  have hdash := Cursor.isAt_eq_false (h '-' (by decide))
  have hpoint := Cursor.isAt_eq_false (h '.' (by decide))
  simp only [Cursor.atDocumentMarker, hdash, hpoint, Bool.false_and, Bool.or_self, Bool.and_false]

/-- Outside flow collections a word goes on to the next gap. -/
lemma plainWord_eq (h : IsUnmarked text) :
    plainWord false text = (text.takeWhile isSolid, false) := by
  have hcolon : ':' ∉ text := h ':' List.mem_cons_self
  clear h
  induction text with
  | nil => rfl
  | cons ch text ih =>
    rw [List.mem_cons, not_or] at hcolon
    have hne : ch ≠ ':' := Ne.symm hcolon.1
    cases hsolid : isSolid ch with
    | true =>
      have hneither := hsolid
      rw [isSolid, Bool.not_eq_true'] at hneither
      rw [List.takeWhile_cons_of_pos hsolid]
      simp [plainWord, clashes, endsPlain, hneither, hne, ih hcolon.2]
    | false =>
      rw [not_isSolid_iff, ← Bool.or_eq_true] at hsolid
      rw [List.takeWhile_cons_of_neg (by simp [isSolid, hsolid])]
      simp [plainWord, clashes, endsPlain, hsolid]

end IsUnmarked

/-- A tab cannot be to the left of the first column. -/
lemma refusesTab_zero (start : Mark) (gap : Gap) (c : Cursor) :
    refusesTab 0 start gap c = none := by
  have hcolumn : decide ((c.mark.column : Int) < 0) = false := decide_eq_false (by omega)
  rw [refusesTab, hcolumn, Bool.and_false, Bool.false_and, if_neg Bool.false_ne_true]

/-- A word is taken with the gap in front of it, and behind it the words go on if there is a gap.
What the words so far and the folded rest make up together stays the same. -/
lemma plainWords_word (h : IsUnmarked c.rest) :
    ∃ behind seen' gap', behind.rest = c.rest.dropWhile isSolid ∧
      (foldGaps gap c.rest).reverse ++ seen = (foldGaps gap' behind.rest).reverse ++ seen' ∧
      ∀ gap'' c', readGap (refusesTab 0 start) (behind.rest.length + 1) gap' behind =
          .ok (gap'', c') →
        plainWords false 0 start (fuel + 1) seen gap c =
          if behind.check 0 (fun ch => isBlank ch || isBreak ch) then
            plainWords false 0 start fuel seen' gap'' c'
          else .ok (seen', gap'.isLines, behind) := by
  obtain ⟨word, hword⟩ : ∃ word, c.rest.takeWhile isSolid = word := ⟨_, rfl⟩
  obtain ⟨behind, hskip⟩ : ∃ behind, c.skip word.length = behind := ⟨_, rfl⟩
  have hsolid : ∀ ch ∈ word, isSolid ch = true := fun ch hch =>
    List.mem_takeWhile_imp (hword ▸ hch)
  have hbehind : behind.rest = c.rest.dropWhile isSolid := by
    rw [← hskip, ← hword]
    exact Cursor.rest_skipWhile c isSolid
  have hsplit : c.rest = word ++ behind.rest := by
    rw [← hword, hbehind, List.takeWhile_append_dropWhile]
  have hread : plainWord false c.rest = (word, false) := hword ▸ h.plainWord_eq
  have hcomment : c.isAt 0 '#' = false := Cursor.isAt_eq_false (h '#' (by decide)) 0
  refine ⟨behind, if word.isEmpty then seen else word.reverse ++ (gap.fold.reverse ++ seen),
    if word.isEmpty then gap else .inLine [], hbehind, ?_, fun gap'' c' hgaps => ?_⟩
  · rw [hsplit, foldGaps_word hsolid]
    cases word with
    | nil => rfl
    | cons => simp
  · have hcolumn : decide ((c'.mark.column : Int) < 0) = false := decide_eq_false (by omega)
    rw [plainWords, h.atDocumentMarker_eq_false, hcomment]
    simp only [Bool.or_self, Bool.false_eq_true, if_false, hread, hskip, hgaps, hcolumn,
      Bool.and_false, Bool.not_eq_true']
    cases behind.check 0 fun ch => isBlank ch || isBreak ch <;> rfl

/-- A round of the words ends at the end of the text, or goes on with less of the text. -/
lemma plainWords_round (h : IsUnmarked c.rest) :
    (∃ lineEnded c', plainWords false 0 start (fuel + 1) seen gap c =
        .ok ((foldGaps gap c.rest).reverse ++ seen, lineEnded, c') ∧ c'.rest = []) ∨
      ∃ seen' gap' c', plainWords false 0 start (fuel + 1) seen gap c =
          plainWords false 0 start fuel seen' gap' c' ∧
        c'.rest <:+ c.rest ∧ c'.rest.length < c.rest.length ∧
        (foldGaps gap c.rest).reverse ++ seen = (foldGaps gap' c'.rest).reverse ++ seen' := by
  obtain ⟨behind, seen', gap', hbehind, hfold, hwords⟩ :=
    @plainWords_word c start seen fuel gap h
  obtain ⟨gap'', c', hgaps, hstop, hfold'⟩ :=
    @readGap_folds behind _ gap' _ (refusesTab_zero start) (Nat.lt_succ_self _)
  have hsuffix : behind.rest <:+ c.rest := hbehind ▸ List.dropWhile_suffix _
  rw [hwords gap'' c' hgaps, hfold]
  cases hrest : behind.rest with
  | nil =>
    have hcheck : ¬behind.check 0 (fun ch => isBlank ch || isBreak ch) = true := by
      rw [Cursor.check, Cursor.ahead?, hrest]
      exact Bool.false_ne_true
    rw [if_neg hcheck]
    exact .inl ⟨gap'.isLines, behind, rfl, hrest⟩
  | cons d ds =>
    have hd : isSolid d = false := by
      have hhead := List.head?_dropWhile_not isSolid c.rest
      rwa [← hbehind, hrest] at hhead
    have hcheck : behind.check 0 (fun ch => isBlank ch || isBreak ch) = true := by
      rw [Cursor.check, Cursor.ahead?, hrest]
      rw [not_isSolid_iff, ← Bool.or_eq_true] at hd
      exact hd
    have hshorter : c'.rest.length ≤ ds.length := by
      rw [hstop, hrest, List.dropWhile_cons_of_pos (by rw [hd]; rfl)]
      exact (List.dropWhile_suffix _).length_le
    have hlength := hsuffix.length_le
    rw [hrest, List.length_cons] at hlength
    rw [if_pos hcheck]
    refine .inr ⟨seen', gap'', c', rfl, ?_, by omega, by rw [← hrest, hfold']⟩
    rw [hstop]
    exact (List.dropWhile_suffix _).trans hsuffix

/-- The words of a text without marks are read to its end. -/
lemma plainWords_folds (h : IsUnmarked c.rest) (hfuel : c.rest.length < fuel) :
    ∃ lineEnded c', plainWords false 0 start fuel seen gap c =
      .ok ((foldGaps gap c.rest).reverse ++ seen, lineEnded, c') ∧ c'.rest = [] := by
  induction fuel generalizing seen gap c with
  | zero => exact absurd hfuel (Nat.not_lt_zero _)
  | succ fuel ih =>
    rcases @plainWords_round c start seen fuel gap h with
      hend | ⟨seen', gap', c', hwords, hsuffix, hlength, hfold⟩
    · exact hend
    · rw [hwords, hfold]
      exact ih (h.of_suffix hsuffix) (by omega)

/-- A text without marks is a plain scalar, whose gaps are folded. -/
lemma readPlain_folds (h : IsUnmarked c.rest) :
    ∃ lineEnded c', readPlain false 0 c =
      .ok (foldGaps (.inLine []) c.rest, lineEnded, c') ∧ c'.rest = [] := by
  obtain ⟨lineEnded, c', hwords, hend⟩ :=
    @plainWords_folds c c.mark [] _ (.inLine []) h (Nat.lt_succ_self _)
  refine ⟨lineEnded, c', ?_, hend⟩
  rw [readPlain, hwords, List.append_nil]
  simp only [List.reverse_reverse]

end AgentManifest.Yaml
