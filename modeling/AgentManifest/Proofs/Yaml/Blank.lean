import AgentManifest.Proofs.Yaml.BlockNodes
import AgentManifest.Proofs.Yaml.Folding
import AgentManifest.Proofs.Yaml.Value

/-!
# Blank texts

YAML knows less white space than Unicode does. Spaces and line breaks are passed over in front of a
token, a tab there is a fault, and any other white space is a character like a letter, with which a
plain scalar starts. So a text of nothing but white space may be a string (`readChars_blank`).
-/

namespace AgentManifest.Yaml

variable {ch : Char} {text rest : List Char} {fuel : Nat}

/-! ## Characters -/

/-- Characters that are white space are told apart from those that are not. -/
lemma ne_of_blank {d : Char} (h : Text.isBlank ch = true) (hd : Text.isBlank d = false) :
    ch ≠ d := by
  rintro rfl
  rw [h] at hd
  cases hd

lemma not_mem_of_blank {d : Char} (h : ∀ ch ∈ text, Text.isBlank ch = true)
    (hd : Text.isBlank d = false) : d ∉ text :=
  fun hmem => ne_of_blank (h d hmem) hd rfl

lemma isUnmarked_of_blank (h : ∀ ch ∈ text, Text.isBlank ch = true) : IsUnmarked text := by
  have hnone : ∀ d ∈ [':', '#', '-', '.'], Text.isBlank d = false :=
    List.all_iff_forall_prop.mp (by decide)
  exact fun d hd => not_mem_of_blank h (hnone d hd)

/-- A space or a line break, which is passed over in front of a token. -/
def isPadding (ch : Char) : Bool := ch == ' ' || isBreak ch

lemma not_isSolid_of_isPadding (h : isPadding ch = true) : isSolid ch = false := by
  rw [not_isSolid_iff]
  rw [isPadding, Bool.or_eq_true, beq_iff_eq] at h
  refine h.imp_left ?_
  rintro rfl
  rfl

/-- Spaces alone do not change what is left behind spaces and line breaks. -/
lemma dropWhile_isPadding_spaces (text : List Char) :
    text.dropWhile isPadding = (text.dropWhile (· == ' ')).dropWhile isPadding := by
  conv_lhs => rw [← List.takeWhile_append_dropWhile (p := (· == ' ')) (l := text)]
  rw [List.dropWhile_append_of_pos]
  intro ch hch
  have hspace := List.mem_takeWhile_imp hch
  rw [isPadding, hspace, Bool.true_or]

lemma mem_of_dropWhile_isPadding (h : text.dropWhile isPadding = ch :: rest) : ch ∈ text :=
  (List.dropWhile_suffix isPadding).mem (h ▸ List.mem_cons_self)

/-! ## Tokens -/

namespace Scanner

variable {s : Scanner} {kinds : List TokenKind} {ka : Bool}

/-- In white space where a key may start, the spaces of a line and the break behind them are passed
over, and so on from the next line. -/
lemma skipToToken_line_of_blank (hblank : ∀ ch ∈ s.cursor.rest, Text.isBlank ch = true)
    (hallowed : s.keyAllowed = true) (hflow : s.inFlow = false) (fuel : Nat) :
    skipToToken (fuel + 1) s =
      (s.cursor.skipWhile (· == ' ')).readBreak?.elim
        { s with cursor := s.cursor.skipWhile (· == ' ') }
        fun next => skipToToken fuel { s with cursor := next.2 } := by
  have hmark : s.cursor.isAt 0 '\uFEFF' = false :=
    Cursor.isAt_eq_false (not_mem_of_blank hblank rfl) 0
  have hcomment : (s.cursor.skipWhile (· == ' ')).skipComment = s.cursor.skipWhile (· == ' ') := by
    apply Cursor.skipComment_eq_self
    rw [Cursor.rest_skipWhile]
    intro hhead
    have hmem := (List.dropWhile_suffix (· == ' ')).mem (List.mem_of_mem_head? hhead)
    exact not_mem_of_blank hblank rfl hmem
  rw [skipToToken]
  simp only [hmark, hflow, hallowed, hcomment, Bool.and_false, Bool.false_and, Bool.or_false,
    Bool.not_true, Bool.false_eq_true, if_false, Bool.true_or]
  cases (s.cursor.skipWhile (· == ' ')).readBreak? <;> rfl

/-- In white space where a key may start, all spaces and line breaks are passed over. -/
lemma skipToToken_blank (hblank : ∀ ch ∈ s.cursor.rest, Text.isBlank ch = true)
    (hallowed : s.keyAllowed = true) (hflow : s.inFlow = false)
    (hfuel : s.cursor.rest.length < fuel) :
    ∃ c', skipToToken fuel s = { s with cursor := c' } ∧
      c'.rest = s.cursor.rest.dropWhile isPadding := by
  -- one unit of fuel goes with each line
  induction fuel generalizing s with
  | zero => exact absurd hfuel (Nat.not_lt_zero _)
  | succ fuel ih =>
    obtain ⟨behind, hbehind⟩ : ∃ behind, s.cursor.skipWhile (· == ' ') = behind := ⟨_, rfl⟩
    have hrest : behind.rest = s.cursor.rest.dropWhile (· == ' ') :=
      hbehind ▸ Cursor.rest_skipWhile s.cursor (· == ' ')
    have hsuffix : behind.rest <:+ s.cursor.rest := hrest ▸ List.dropWhile_suffix _
    rw [skipToToken_line_of_blank hblank hallowed hflow, hbehind, dropWhile_isPadding_spaces,
      ← hrest]
    cases hnext : behind.rest with
    | nil =>
      have hbreak : behind.readBreak? = none := by
        unfold Cursor.readBreak?
        rw [hnext]
      rw [hbreak]
      exact ⟨behind, rfl, hnext⟩
    | cons d ds =>
      cases hbreak : isBreak d with
      | true =>
        obtain ⟨b, front, c₁, hread, hsplit, hne, hfront, -⟩ := readBreak?_break hnext hbreak
        have hsuffix₁ : c₁.rest <:+ s.cursor.rest := (hsplit ▸ List.suffix_append _ _).trans hsuffix
        have hlength : c₁.rest.length < fuel := by
          have hcount := congrArg List.length hsplit
          rw [List.length_append] at hcount
          have hpos := List.length_pos_iff.mpr hne
          have hle := hsuffix.length_le
          omega
        obtain ⟨c', hskip, hstop⟩ := ih (s := { s with cursor := c₁ })
          (fun ch hch => hblank ch (hsuffix₁.mem hch)) hallowed hflow hlength
        refine ⟨c', ?_, ?_⟩
        · rw [hread]
          exact hskip
        · rw [hstop, ← hnext, hsplit, List.dropWhile_append_of_pos]
          intro x hx
          rw [isPadding, hfront x hx, Bool.or_true]
      | false =>
        have hspace : (d == ' ') = false := by
          have hhead := List.head?_dropWhile_not (· == ' ') s.cursor.rest
          rwa [← hrest, hnext] at hhead
        have hpadding : ¬isPadding d = true := by
          rw [isPadding, hspace, hbreak]
          exact Bool.false_ne_true
        rw [Cursor.readBreak?_eq_none hnext hbreak, List.dropWhile_cons_of_neg hpadding]
        exact ⟨behind, rfl, hnext⟩

/-- No token but a plain scalar starts with white space, and that only with a solid character. -/
lemma tokenAt_blank (hch : Text.isBlank ch = true) (hmarker : s.cursor.atDocumentMarker = false) :
    s.tokenAt ch =
      if isSolid ch then s.plainScalar
      else faultIn .nextToken s.cursor.mark .badTokenStart s.cursor.mark := by
  have hne (d : Char) (hd : Text.isBlank d = false) : (ch == d) = false :=
    beq_eq_false_iff_ne.mpr (ne_of_blank hch hd)
  have hindicator : isIndicator ch = false := by
    rw [isIndicator, ← Bool.not_eq_true, List.contains_iff_mem]
    intro hmem
    have hnone : ∀ d ∈ "-?:,[]{}#&*!|>'\"%@`".toList, Text.isBlank d = false :=
      List.all_iff_forall_prop.mp (by decide)
    exact ne_of_blank hch (hnone ch hmem) rfl
  have hstarts : s.plainStarts ch = isSolid ch := by
    rw [plainStarts, hindicator, hne '-' rfl, hne '?' rfl, hne ':' rfl, isSolid]
    simp
  simp only [tokenAt, hmarker, hstarts, hne '%' rfl, hne '[' rfl, hne '{' rfl, hne ']' rfl,
    hne '}' rfl, hne ',' rfl, hne '-' rfl, hne '?' rfl, hne ':' rfl, hne '*' rfl, hne '&' rfl,
    hne '!' rfl, hne '|' rfl, hne '>' rfl, hne '\'' rfl, hne '"' rfl, Bool.false_and,
    Bool.false_eq_true, if_false]

/-- White space is a plain scalar up to the end of the text. -/
lemma At.plainScalar_blank (h : s.At rest kinds 0 ka)
    (hblank : ∀ ch ∈ rest, Text.isBlank ch = true) :
    ∃ t lineEnded, s.plainScalar = .ok t ∧
      t.At [] (.scalar (foldGaps (.inLine []) rest) .plain :: kinds) 0 lineEnded := by
  obtain ⟨s', hsave, hat, -⟩ := h.saveKey
  obtain ⟨lineEnded, c', hread, hend⟩ :=
    readPlain_folds (c := s'.cursor) (hat.rest_eq ▸ isUnmarked_of_blank hblank)
  have hflow : s'.inFlow = false := hat.inFlow_eq
  have hindent : s'.indent + 1 = 0 := by
    rw [hat.indent_eq]
    rfl
  rw [hat.rest_eq] at hread
  have hscalar : s.plainScalar = .ok ({ s' with keyAllowed := lineEnded }.pushTo
      (.scalar (foldGaps (.inLine []) rest) .plain) c') := by
    simp only [Scanner.plainScalar, hsave, hflow, hindent, hread, bind, Except.bind]
  have hmarker : c'.atDocumentMarker = false := by
    apply IsUnmarked.atDocumentMarker_eq_false
    rw [hend]
    exact fun _ _ => List.not_mem_nil
  have hnext := hat.allow lineEnded
  refine ⟨_, lineEnded, hscalar, ?_⟩
  exact ⟨hend, hmarker, congrArg (TokenKind.scalar _ .plain :: ·) hnext.kinds_eq,
    hnext.depth_eq, rfl, hnext.indent_eq, hnext.outerIndents_eq, hnext.key_loose,
    hnext.outerKeys_loose⟩

/-- A step from the start of a blank text goes behind the spaces and line breaks. -/
lemma step_blank (hblank : ∀ ch ∈ text, Text.isBlank ch = true) :
    ∃ t : Scanner,
      (start text).step = (text.dropWhile isPadding).head?.elim t.streamEnd t.tokenAt ∧
        t.At (text.dropWhile isPadding) [.streamStart] 0 true := by
  have hsuffix : text.dropWhile isPadding <:+ text := List.dropWhile_suffix _
  obtain ⟨c', hskip, hrest⟩ :=
    skipToToken_blank (s := start text) hblank rfl rfl (Nat.lt_succ_self text.length)
  have hmarker : c'.atDocumentMarker = false := by
    apply IsUnmarked.atDocumentMarker_eq_false
    rw [hrest]
    exact (isUnmarked_of_blank hblank).of_suffix hsuffix
  have hat : ({ start text with cursor := c' } : Scanner).At (text.dropWhile isPadding)
      [.streamStart] 0 true := ⟨hrest, hmarker, rfl, rfl, rfl, rfl, rfl, nofun, nofun⟩
  obtain ⟨t, hstep, ht, -⟩ := hat.step_skipped hskip
  exact ⟨t, hstep, ht⟩

/-- Behind spaces and line breaks alone the text ends. -/
lemma step_padding (hblank : ∀ ch ∈ text, Text.isBlank ch = true)
    (h : text.dropWhile isPadding = []) :
    ∃ t, (start text).step = .ok t ∧ t.tokens.map Token.kind = [.streamEnd, .streamStart] ∧
      t.cursor.rest = [] := by
  obtain ⟨t, hstep, hat⟩ := step_blank hblank
  rw [h] at hstep hat
  obtain ⟨t', hend, hkinds, hrest⟩ := hat.streamEnd
  exact ⟨t', hstep.trans hend, hkinds, hrest⟩

/-- A tab cannot come first. -/
lemma step_tab (hblank : ∀ ch ∈ text, Text.isBlank ch = true)
    (h : text.dropWhile isPadding = ch :: rest) (hch : isSolid ch = false) :
    ∃ fault, (start text).step = .error fault := by
  obtain ⟨t, hstep, hat⟩ := step_blank hblank
  rw [h] at hstep
  have htoken := tokenAt_blank (hblank ch (mem_of_dropWhile_isPadding h)) hat.marker_eq
  rw [hch, if_neg Bool.false_ne_true] at htoken
  exact ⟨_, hstep.trans htoken⟩

/-- From a solid character on the text is one scalar. -/
lemma step_solid (hblank : ∀ ch ∈ text, Text.isBlank ch = true)
    (h : text.dropWhile isPadding = ch :: rest) (hch : isSolid ch = true) :
    ∃ t lineEnded, (start text).step = .ok t ∧
      t.At [] [.scalar (foldGaps (.inLine []) (ch :: rest)) .plain, .streamStart] 0 lineEnded := by
  obtain ⟨t, hstep, hat⟩ := step_blank hblank
  have hsuffix : ch :: rest <:+ text := h ▸ List.dropWhile_suffix isPadding
  rw [h] at hstep hat
  have htoken := tokenAt_blank (hblank ch (hsuffix.mem List.mem_cons_self)) hat.marker_eq
  rw [hch, if_pos rfl] at htoken
  obtain ⟨t', lineEnded, hscalar, ht'⟩ :=
    hat.plainScalar_blank fun ch hch => hblank ch (hsuffix.mem hch)
  exact ⟨t', lineEnded, hstep.trans (htoken.trans hscalar), ht'⟩

/-- The first token of a blank text leaves nothing of it, so that what is behind the text is met. -/
lemma stepBefore_blank (hblank : ∀ ch ∈ text, Text.isBlank ch = true) (last : Fault) :
    ∃ fault, (start text).stepBefore (some last) = .error fault := by
  have hmet {t : Scanner} (hstep : (start text).step = .ok t) (hrest : t.cursor.rest = []) :
      (start text).stepBefore (some last) = .error last := by
    simp [stepBefore, hstep, hrest, lookahead]
  cases hback : text.dropWhile isPadding with
  | nil =>
    obtain ⟨t, hstep, -, hrest⟩ := step_padding hblank hback
    exact ⟨last, hmet hstep hrest⟩
  | cons ch rest =>
    cases hch : isSolid ch with
    | true =>
      obtain ⟨t, lineEnded, hstep, hat⟩ := step_solid hblank hback hch
      exact ⟨last, hmet hstep hat.rest_eq⟩
    | false =>
      obtain ⟨fault, hstep⟩ := step_tab hblank hback hch
      simp only [stepBefore, hstep]
      split
      · exact ⟨_, rfl⟩
      · exact ⟨_, rfl⟩

end Scanner

/-! ## Meanings -/

lemma not_digit_of_blank (h : Text.isBlank ch = true) : ¬('0' ≤ ch ∧ ch ≤ '9') := by
  have h0 : '0'.val.toNat = 0x30 := rfl
  have h9 : '9'.val.toNat = 0x39 := rfl
  simp only [Text.isBlank, Bool.or_eq_true, Bool.and_eq_true, beq_iff_eq, decide_eq_true_eq,
    Char.toNat] at h
  simp only [Char.le_def, UInt32.le_iff_toNat_le]
  omega

/-- No integer starts with white space. -/
lemma integer?_blank (h : Text.isBlank ch = true) (rest : List Char) :
    integer? (ch :: rest) = none ∧ isPaddedDigits (ch :: rest) = false := by
  have hne (d : Char) (hd : Text.isBlank d = false) : ch ≠ d := ne_of_blank h hd
  have hdigits : digitsIn? 10 (ch :: rest) = none := by
    have ha : 'a'.toNat = 97 := rfl
    have hA : 'A'.toNat = 65 := rfl
    have hten : digitIn? 10 ch = none := by
      simp only [digitIn?, if_neg (not_digit_of_blank h)]
      split_ifs <;> first | rfl | omega
    simp [digitsIn?, hten]
  have hmarked : marked? (ch :: rest) = none := by simp [marked?, hne '0' rfl]
  have hunsigned : unsigned (ch :: rest) = ch :: rest := by
    simp [unsigned, hne '+' rfl, hne '-' rfl]
  have hpadded : isPaddedDigits (ch :: rest) = false := by
    simp [isPaddedDigits, hunsigned, hne '0' rfl]
  have hnatural : natural? (ch :: rest) = none := by
    simp [natural?, hne '+' rfl, hmarked, hpadded, hdigits]
  have hnegative : negative? (ch :: rest) = none := by simp [negative?, hne '-' rfl]
  exact ⟨by rw [integer?, hnatural, hnegative], hpadded⟩

/-- No fraction starts with white space. -/
lemma float?_blank (h : Text.isBlank ch = true) (rest : List Char) :
    float? (ch :: rest) = none := by
  have hne (d : Char) (hd : Text.isBlank d = false) : ch ≠ d := ne_of_blank h hd
  have hdecimal : decimal? false (ch :: rest) = none := by
    have hdigit : ¬ch.isDigit = true := by
      have hrange := not_digit_of_blank h
      simpa [Char.isDigit, Char.le_def] using hrange
    rw [decimal?, List.takeWhile_cons_of_neg hdigit, List.dropWhile_cons_of_neg hdigit]
    have hempty : digitsIn? 10 [] = none := rfl
    simp [hne '.' rfl, hempty]
  simp [float?, hne '+' rfl, hne '-' rfl, hne '.' rfl, hdecimal]

/-- No word and no number starts with white space. -/
lemma plainMeaning_blank (h : Text.isBlank ch = true) (rest : List Char) :
    plainMeaning (ch :: rest) = .text := by
  have hne (d : Char) (hd : Text.isBlank d = false) : ch ≠ d := ne_of_blank h hd
  have hnull : isNullWord (ch :: rest) = false := by
    simp [isNullWord, hne '~' rfl, hne 'n' rfl, hne 'N' rfl]
  have hbool : boolWord? (ch :: rest) = none := by
    simp [boolWord?, hne 't' rfl, hne 'T' rfl, hne 'f' rfl, hne 'F' rfl]
  obtain ⟨hinteger, hpadded⟩ := integer?_blank h rest
  simp [plainMeaning, hnull, hbool, hinteger, hpadded, float?_blank h rest]

/-! ## Values -/

/-- What a text of white space means, if anything: null if it is made of spaces and line breaks, and
else a string, from the first other character on. That one must not be a tab, and control characters
may not stand anywhere. -/
def blankValue? (text : List Char) : Option Value :=
  if text.all isAllowed then
    match text.dropWhile isPadding with
    | [] => some .null
    | ch :: rest =>
      if isSolid ch then some (.string (String.ofList (foldGaps (.inLine []) (ch :: rest))))
      else none
  else none

/-- A text with a fault in the place of its first token has no value. -/
lemma readChars_of_fault {fault : Fault}
    (h : (Scanner.start (Intake.of text).text).stepBefore (Intake.of text).fault = .error fault) :
    readChars text = .error (.malformed fault) := by
  have htokens : tokensOf text =
      { tokens := [{ kind := .streamStart, start := Mark.start, stop := Mark.start }],
        fault := some fault } := by
    simp only [tokensOf, Scanner.run, h]
    rfl
  rw [readChars, Document.ofText, Source.ofText, htokens]
  rfl

/-- What is taken in of a text that may not stand is a part of it. -/
lemma intake_of_not_allowed (h : text.all isAllowed = false) :
    ∃ n last, Intake.of text = { text := text.take n, fault := some last } := by
  have hpart : (text.takeWhile isAllowed).length ≠ text.length := by
    intro hlength
    have hall : ∀ ch ∈ text, isAllowed ch = true :=
      List.takeWhile_eq_self_iff.mp ((List.takeWhile_prefix isAllowed).eq_of_length hlength)
    rw [List.all_eq_true.mpr hall] at h
    cases h
  simp only [Intake.of]
  rw [if_neg hpart]
  exact ⟨_, _, rfl⟩

lemma readChars_not_allowed (hblank : ∀ ch ∈ text, Text.isBlank ch = true)
    (h : text.all isAllowed = false) : ∃ e, readChars text = .error e := by
  obtain ⟨n, last, hintake⟩ := intake_of_not_allowed h
  have hpart : ∀ ch ∈ text.take n, Text.isBlank ch = true := fun ch hch =>
    hblank ch (List.mem_of_mem_take hch)
  obtain ⟨fault, hstep⟩ := Scanner.stepBefore_blank hpart last
  refine ⟨.malformed fault, readChars_of_fault ?_⟩
  rw [hintake]
  exact hstep

lemma readChars_padding (hallowed : ∀ ch ∈ text, isAllowed ch = true)
    (hblank : ∀ ch ∈ text, Text.isBlank ch = true) (h : text.dropWhile isPadding = []) :
    readChars text = .ok .null := by
  obtain ⟨t, hstep, hkinds, -⟩ := Scanner.step_padding hblank h
  obtain ⟨tokens, htokens, hkinds⟩ :=
    tokensOf_of_scans hallowed (Scans.of_end hstep hkinds) (Nat.le_add_left 1 _)
  have hstart : (Source.ofText text).tokens.map Token.kind = [.streamStart, .streamEnd] := by
    rw [Source.ofText, htokens]
    exact hkinds
  obtain ⟨-, -, -, -, -, hnext⟩ := kinds_next hstart
  obtain ⟨last, others, hlast, hend, -⟩ := kinds_next hnext
  have hdocument : Document.ofText text = { root := none, fault := none, followed := false } := by
    simp only [Document.ofText, Source.peek, hlast, hend]
  rw [readChars, hdocument]
  rfl

lemma readChars_tab (hallowed : ∀ ch ∈ text, isAllowed ch = true)
    (hblank : ∀ ch ∈ text, Text.isBlank ch = true) (h : text.dropWhile isPadding = ch :: rest)
    (hch : isSolid ch = false) : ∃ e, readChars text = .error e := by
  obtain ⟨fault, hstep⟩ := Scanner.step_tab hblank h hch
  refine ⟨.malformed fault, readChars_of_fault ?_⟩
  rw [intake_of_allowed hallowed]
  exact hstep

lemma readChars_solid (hallowed : ∀ ch ∈ text, isAllowed ch = true)
    (hblank : ∀ ch ∈ text, Text.isBlank ch = true) (h : text.dropWhile isPadding = ch :: rest)
    (hch : isSolid ch = true) :
    readChars text = .ok (.string (String.ofList (foldGaps (.inLine []) (ch :: rest)))) := by
  obtain ⟨t, lineEnded, hstep, hat⟩ := Scanner.step_solid hblank h hch
  obtain ⟨s', hmove, hat', -⟩ := hat.move nofun hstep
  obtain ⟨tokens, htokens, hkinds⟩ :=
    tokensOf_of_scans hallowed ((scans_end hat').of_move hmove) (Nat.le_add_left 2 _)
  rw [List.reverse_cons, List.reverse_cons, List.reverse_singleton] at hkinds
  obtain ⟨root, hdocument, p, hp, rfl⟩ := document_of_readsNode htokens hkinds trivial
    (readsNode_scalar .block _ (foldGaps (.inLine []) (ch :: rest)) .plain)
  have hmeaning : plainMeaning (foldGaps (.inLine []) (ch :: rest)) = .text := by
    rw [foldGaps_solid hch]
    exact plainMeaning_blank (hblank ch (mem_of_dropWhile_isPadding h)) _
  have hvalue {anchors : Anchors} : nodeValue anchors maxDepth [] (.scalar p _ .plain) =
      pure (.string (String.ofList (foldGaps (.inLine []) (ch :: rest)))) :=
    nodeValue_scalar hp hmeaning rfl
  rw [readChars, hdocument, Document.value]
  simp only [hvalue]
  rfl

/-- Which texts of white space have a value, and which one. -/
theorem readChars_blank (h : Text.allBlank text = true) :
    (readChars text).toOption = blankValue? text := by
  have hblank : ∀ ch ∈ text, Text.isBlank ch = true := List.all_eq_true.mp h
  rw [blankValue?]
  cases hall : text.all isAllowed with
  | false =>
    obtain ⟨e, hread⟩ := readChars_not_allowed hblank hall
    rw [hread]
    rfl
  | true =>
    have hallowed : ∀ ch ∈ text, isAllowed ch = true := List.all_eq_true.mp hall
    cases hback : text.dropWhile isPadding with
    | nil =>
      rw [readChars_padding hallowed hblank hback]
      rfl
    | cons ch rest =>
      cases hch : isSolid ch with
      | true =>
        rw [readChars_solid hallowed hblank hback hch]
        simp [hch, Except.toOption]
      | false =>
        obtain ⟨e, hread⟩ := readChars_tab hallowed hblank hback hch
        rw [hread]
        simp [hch, Except.toOption]

/-- A text of nothing but white space, with a character in it that is no white space to YAML. -/
def IsUnseen (text : List Char) : Prop :=
  Text.allBlank text = true ∧ ∃ ch ∈ text, isSolid ch = true

/-- White space means null, or a string if some of it is no white space to YAML. -/
lemma blankValue?_cases {y : Value} (hblank : Text.allBlank text = true)
    (h : blankValue? text = some y) :
    (y = .null ∧ ¬IsUnseen text) ∨ ∃ s, y = .string s ∧ IsUnseen text := by
  rw [blankValue?] at h
  split at h
  case isFalse => cases h
  case isTrue =>
    cases hback : text.dropWhile isPadding with
    | nil =>
      rw [hback] at h
      have hpadding : ∀ ch ∈ text, isPadding ch = true := List.dropWhile_eq_nil_iff.mp hback
      refine .inl ⟨(Option.some.inj h).symm, ?_⟩
      rintro ⟨-, ch, hch, hsolid⟩
      rw [not_isSolid_of_isPadding (hpadding ch hch)] at hsolid
      cases hsolid
    | cons ch rest =>
      rw [hback] at h
      have hmem : ch ∈ text := mem_of_dropWhile_isPadding hback
      cases hch : isSolid ch with
      | true =>
        simp only [hch, if_true, Option.some.injEq] at h
        exact .inr ⟨_, h.symm, hblank, ch, hmem, hch⟩
      | false =>
        simp only [hch, Bool.false_eq_true, if_false] at h
        cases h

end AgentManifest.Yaml
