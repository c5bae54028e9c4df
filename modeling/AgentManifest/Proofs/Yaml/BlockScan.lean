import Mathlib.Data.List.InsertIdx
import AgentManifest.Proofs.Yaml.Block
import AgentManifest.Proofs.Yaml.Tokens

/-!
# The tokens of block collections

Outside flow collections the columns decide. A key or a dash further in than the collection around
it opens a collection of its own, and whatever stands further out closes the collections that it is
not in. A state is described by the columns of the collections around it.
-/

namespace AgentManifest.Yaml

/-! ## States -/

/-- The scanner stands at a column in front of a text, in block collections at some columns, the
innermost first. It has found tokens of some kinds, the last one first, and remembers no key. -/
structure Scanner.InBlock (s : Scanner) (rest : List Char) (column : Nat) (kinds : List TokenKind)
    (indents : List Int) (keyAllowed : Bool) : Prop where
  rest_eq : s.cursor.rest = rest
  column_eq : s.cursor.mark.column = column
  kinds_eq : s.tokens.map Token.kind = kinds
  indents_eq : s.indent :: s.outerIndents = indents
  keyAllowed_eq : s.keyAllowed = keyAllowed
  key_eq : s.key = none
  outerKeys_eq : s.outerKeys = []

namespace Scanner

variable {s t : Scanner} {ch : Char} {rest : List Char} {kinds : List TokenKind} {n column : Nat}
variable {indent : Int} {indents : List Int} {ka : Bool}

lemma InBlock.inFlow_eq (h : s.InBlock rest column kinds indents ka) : s.inFlow = false := by
  rw [inFlow, h.outerKeys_eq]
  rfl

/-- There is no key to forget. -/
lemma InBlock.dropStale_eq (h : s.InBlock rest column kinds indents ka) :
    s.dropStale = .ok s := by
  have hkey := h.key_eq
  have houter := h.outerKeys_eq
  cases s
  cases hkey
  cases houter
  rfl

lemma InBlock.dropKey_eq (h : s.InBlock rest column kinds indents ka) : s.dropKey = .ok s := by
  have hkey := h.key_eq
  cases s
  cases hkey
  rfl

lemma InBlock.allow (h : s.InBlock rest column kinds indents ka) (keyAllowed : Bool) :
    ({ s with keyAllowed } : Scanner).InBlock rest column kinds indents keyAllowed :=
  ⟨h.rest_eq, h.column_eq, h.kinds_eq, h.indents_eq, rfl, h.key_eq, h.outerKeys_eq⟩

/-- Behind a token the scanner stands where the token ends. -/
lemma InBlock.pushTo (h : s.InBlock rest column kinds indents ka) (kind : TokenKind)
    (next : Cursor) :
    (s.pushTo kind next).InBlock next.rest next.mark.column (kind :: kinds) indents ka :=
  ⟨rfl, rfl, congrArg (kind :: ·) h.kinds_eq, h.indents_eq, h.keyAllowed_eq, h.key_eq,
    h.outerKeys_eq⟩

lemma InBlock.pushIndicator (h : s.InBlock (ch :: rest) column kinds indents ka)
    (kind : TokenKind) :
    (s.pushIndicator kind).InBlock rest (column + 1) (kind :: kinds) indents ka := by
  have hrest : s.cursor.skip.rest = rest := Cursor.rest_skip [ch] h.rest_eq
  have hcolumn : s.cursor.skip.mark.column = column + 1 := congrArg (· + 1) h.column_eq
  have hpush := h.pushTo kind s.cursor.skip
  rwa [hrest, hcolumn] at hpush

/-! ## Ends of collections -/

/-- Nothing is closed in front of what is in the innermost collection. -/
lemma closeTo_of_le {limit : Int} (h : s.indent ≤ limit) (outers : List Int) :
    closeTo limit outers s = s := by
  cases outers with
  | nil => rfl
  | cons outer others => rw [closeTo, if_neg (Int.not_lt.mpr h)]

lemma dedentTo_of_le {limit : Int} (h : s.indent ≤ limit) : s.dedentTo limit = s := by
  rw [dedentTo, closeTo_of_le h, ite_self]

/-- The collections further in than a column are closed, each by a token. -/
lemma InBlock.closeTo {limit : Int} {inner : List Int} (hinner : ∀ i ∈ inner, limit < i)
    (houter : indent ≤ limit)
    (h : s.InBlock rest column kinds (inner ++ indent :: indents) ka) :
    (closeTo limit s.outerIndents s).InBlock rest column
      (List.replicate inner.length .blockEnd ++ kinds) (indent :: indents) ka := by
  induction inner generalizing s kinds with
  | nil =>
    have hindent : s.indent = indent := (List.cons.inj h.indents_eq).1
    rw [closeTo_of_le (hindent ▸ houter)]
    exact h
  | cons i inner ih =>
    obtain ⟨hi, hinner⟩ := List.forall_mem_cons.mp hinner
    obtain ⟨hindent, houters⟩ := List.cons.inj h.indents_eq
    cases hothers : s.outerIndents with
    | nil =>
      rw [hothers] at houters
      cases inner <;> cases houters
    | cons outer others =>
      have hlimit : limit < s.indent := hindent ▸ hi
      rw [Scanner.closeTo, if_pos hlimit]
      have hnext : InBlock { s.pushEmpty .blockEnd with indent := outer, outerIndents := others }
          rest column (.blockEnd :: kinds) (inner ++ indent :: indents) ka :=
        ⟨h.rest_eq, h.column_eq, congrArg (TokenKind.blockEnd :: ·) h.kinds_eq,
          hothers ▸ houters, h.keyAllowed_eq, h.key_eq, h.outerKeys_eq⟩
      have hclosed := ih hinner hnext
      rwa [List.length_cons, List.replicate_succ', List.append_assoc]

lemma InBlock.dedentTo {limit : Int} {inner : List Int} (hinner : ∀ i ∈ inner, limit < i)
    (houter : indent ≤ limit)
    (h : s.InBlock rest column kinds (inner ++ indent :: indents) ka) :
    (s.dedentTo limit).InBlock rest column (List.replicate inner.length .blockEnd ++ kinds)
      (indent :: indents) ka := by
  rw [Scanner.dedentTo, h.inFlow_eq, if_neg Bool.false_ne_true]
  exact h.closeTo hinner houter

/-! ## One token -/

/-- The end of a line is skipped with the indentation of the next one. -/
lemma skipToToken_line (hch : StartsToken ch) (hflow : s.inFlow = false)
    (h : s.cursor.rest = '\n' :: (List.replicate n ' ' ++ ch :: rest)) (fuel : Nat) :
    skipToToken (fuel + 2) s =
      { s with cursor := s.cursor.skipBreak.skip n, keyAllowed := true } := by
  have hmark : (s.cursor.mark.column == 0 && s.cursor.isAt 0 '\uFEFF') = false := by
    rw [Bool.and_eq_false_iff]
    right
    rw [Cursor.isAt, Cursor.ahead?, h]
    rfl
  have hblanks (tabs : Bool) :
      s.cursor.skipWhile (fun ch => ch == ' ' || (tabs && ch == '\t')) = s.cursor := by
    have hstop : ('\n' == ' ' || (tabs && '\n' == '\t')) = false := Bool.and_false tabs
    rw [Cursor.skipWhile, h, List.takeWhile_cons_of_neg (by rw [hstop]; exact Bool.false_ne_true)]
    exact Cursor.skip_zero _
  have hcomment : s.cursor.skipComment = s.cursor := by
    apply Cursor.skipComment_eq_self
    rw [h, List.head?_cons]
    decide
  rw [Cursor.skipBreak_lineFeed h, skipToToken]
  simp only [hmark, Bool.false_eq_true, if_false, hblanks, hcomment, Cursor.readBreak?_lineFeed h,
    hflow, Bool.not_false, Bool.or_true]
  exact skipToToken_spaces hch rfl fuel

/-- A step finds the token that is skipped to. -/
lemma InBlock.step_eq (h : t.InBlock (ch :: rest) column kinds (indent :: indents) ka)
    (hcolumn : indent ≤ column) (hskip : skipToToken (s.cursor.rest.length + 1) s = t) :
    s.step = t.tokenAt ch := by
  have hindent : t.indent ≤ (t.cursor.mark.column : Int) := by
    rw [(List.cons.inj h.indents_eq).1, h.column_eq]
    exact hcolumn
  rw [step, hskip, h.dropStale_eq]
  simp only [bind, Except.bind, dedentTo_of_le hindent, Cursor.head?, h.rest_eq, List.head?_cons]

/-- A step skips spaces in front of a token. -/
lemma InBlock.step_spaces
    (h : s.InBlock (List.replicate n ' ' ++ ch :: rest) column kinds (indent :: indents) ka)
    (hch : StartsToken ch) (hcolumn : indent ≤ (column + n : Nat)) :
    ∃ t : Scanner, s.step = t.tokenAt ch ∧
      t.InBlock (ch :: rest) (column + n) kinds (indent :: indents) ka := by
  let t : Scanner := { s with cursor := s.cursor.skip n }
  have ht : t.InBlock (ch :: rest) (column + n) kinds (indent :: indents) ka :=
    ⟨Cursor.rest_skip_replicate h.rest_eq, congrArg (· + n) h.column_eq, h.kinds_eq, h.indents_eq,
      h.keyAllowed_eq, h.key_eq, h.outerKeys_eq⟩
  exact ⟨t, ht.step_eq hcolumn (skipToToken_spaces hch h.rest_eq _), ht⟩

/-- A step skips the end of a line and the indentation of the next one. -/
lemma InBlock.step_line
    (h : s.InBlock ('\n' :: (List.replicate n ' ' ++ ch :: rest)) column kinds
      (indent :: indents) ka) (hch : StartsToken ch) (hcolumn : indent ≤ n) :
    ∃ t : Scanner, s.step = t.tokenAt ch ∧
      t.InBlock (ch :: rest) n kinds (indent :: indents) true := by
  have hbelow := Cursor.skipBreak_lineFeed h.rest_eq
  let t : Scanner := { s with cursor := s.cursor.skipBreak.skip n, keyAllowed := true }
  have hrest : (s.cursor.skipBreak.skip n).rest = ch :: rest := by
    rw [hbelow]
    exact Cursor.rest_skip_replicate rfl
  have hmark : (s.cursor.skipBreak.skip n).mark.column = n := by
    rw [hbelow]
    exact Nat.zero_add n
  have ht : t.InBlock (ch :: rest) n kinds (indent :: indents) true :=
    ⟨hrest, hmark, h.kinds_eq, h.indents_eq, rfl, h.key_eq, h.outerKeys_eq⟩
  have hskip : skipToToken (s.cursor.rest.length + 1) s = t := by
    rw [h.rest_eq, List.length_cons]
    exact skipToToken_line hch h.inFlow_eq h.rest_eq _
  exact ⟨t, ht.step_eq hcolumn hskip, ht⟩

/-- A step to a state behind a token is a move there. -/
lemma InBlock.move {kind : TokenKind} (h : t.InBlock rest column (kind :: kinds) indents ka)
    (hkind : (kind == .streamEnd) = false) (hstep : s.step = .ok t) : Move s t := by
  have hended : t.ended = false := by
    have hkinds := h.kinds_eq
    unfold ended
    cases ht : t.tokens with
    | nil => rfl
    | cons token tokens =>
      rw [ht, List.map_cons] at hkinds
      have hk : token.kind = kind := (List.cons.inj hkinds).1
      simp [hk, hkind]
  exact ⟨t, hstep, hended, h.dropStale_eq⟩

/-! ## Keys -/

/-- The key that is remembered at a token. -/
def keyHere (s : Scanner) : PossibleKey :=
  { number := s.count, mark := s.cursor.mark,
    required := !s.inFlow && s.indent == (s.cursor.mark.column : Int) }

lemma InBlock.saveKey_eq (h : t.InBlock rest column kinds indents ka) :
    t.saveKey = .ok { t with key := if ka = true then some t.keyHere else none } := by
  have hkey := h.key_eq
  have hallowed := h.keyAllowed_eq
  rw [saveKey]
  cases ka with
  | true =>
    rw [if_pos hallowed, hkey]
    rfl
  | false =>
    rw [hallowed, if_neg Bool.false_ne_true, if_neg Bool.false_ne_true, ← hallowed, ← hkey]

/-- A word is a plain scalar, which is remembered as a key where one may be. -/
lemma InBlock.plainScalar {word : List Char} (hword : IsWord word) (hrest : EndsPlain false rest)
    (h : t.InBlock (word ++ rest) column kinds indents ka) :
    t.plainScalar = .ok ({ t with
        key := if ka = true then some t.keyHere else none, keyAllowed := false }.pushTo
      (.scalar word .plain) (t.cursor.skip word.length)) := by
  cases word with
  | nil => exact absurd hword id
  | cons ch word =>
    have hmarker : t.cursor.atDocumentMarker = false := hword.atDocumentMarker_eq_false h.rest_eq
    have hread := readPlain_word (List.cons_ne_nil ch word) hword.1 hmarker hrest (t.indent + 1)
      h.rest_eq
    have hflow : ({ t with key := if ka = true then some t.keyHere else none } : Scanner).inFlow =
        false := h.inFlow_eq
    simp only [Scanner.plainScalar, h.saveKey_eq, bind, Except.bind, hflow, hread]

/-- A key that starts on the line of the cursor is remembered if it is short enough. -/
lemma dropStale_of_fresh {k : PossibleKey} (hkey : s.key = some k) (houter : s.outerKeys = [])
    (hfresh : s.isStale k = false) : s.dropStale = .ok s := by
  have hrefresh : s.refresh s.key = .ok s.key := by
    rw [hkey, refresh, hfresh, if_neg Bool.false_ne_true]
  simp only [dropStale, houter, hrefresh, bind, Except.bind, List.reverse_nil, List.mapM_nil, pure,
    Except.pure]
  rw [← houter]

lemma insertIdx_length_append {α : Type} (front back : List α) (a : α) :
    (front ++ back).insertIdx front.length a = front ++ a :: back := by
  induction front with
  | nil => rfl
  | cons b front ih =>
    rw [List.cons_append, List.length_cons, List.insertIdx_succ_cons, ih, List.cons_append]

/-- A token is put in front of those that were found since its number. -/
lemma kinds_insertAt {front back : List TokenKind} {number : Nat}
    (h : s.tokens.map Token.kind = front ++ back) (hnumber : s.count = number + front.length)
    (kind : TokenKind) (mark : Mark) :
    (s.insertAt number kind mark).tokens.map Token.kind = front ++ kind :: back := by
  have hplace : s.count - number = front.length := by omega
  show (s.tokens.insertIdx (s.count - number) _).map Token.kind = _
  rw [List.map_insertIdx, h, hplace]
  exact insertIdx_length_append front back kind

/-- A key further in than the collection around it opens a collection, in front of what was found
since the key. -/
lemma InBlock.indentTo {front back : List TokenKind} {number : Nat}
    (h : s.InBlock rest column (front ++ back) (indent :: indents) ka)
    (hnumber : s.count = number + front.length) (limit : Nat) (kind : TokenKind) (mark : Mark) :
    (s.indentTo limit (some number) kind mark).InBlock rest column
      (front ++ ((if indent < limit then [kind] else []) ++ back))
      (if indent < limit then (limit : Int) :: indent :: indents else indent :: indents) ka := by
  obtain ⟨hindent, houters⟩ := List.cons.inj h.indents_eq
  rw [Scanner.indentTo, h.inFlow_eq, if_neg Bool.false_ne_true, hindent]
  by_cases hfurther : indent < limit
  · rw [if_pos hfurther, if_pos hfurther, if_pos hfurther]
    have hkinds := kinds_insertAt h.kinds_eq hnumber kind mark
    exact ⟨h.rest_eq, h.column_eq, hkinds, by rw [← houters]; rfl, h.keyAllowed_eq, h.key_eq,
      h.outerKeys_eq⟩
  · rw [if_neg hfurther, if_neg hfurther, if_neg hfurther]
    exact h

/-- Keys have no part in the start of a collection. -/
lemma indentTo_forget (s : Scanner) (limit : Nat) (number : Option Nat) (kind : TokenKind)
    (mark : Mark) :
    ({ s.indentTo limit number kind mark with key := none, keyAllowed := false } : Scanner) =
      ({ s with key := none, keyAllowed := false } : Scanner).indentTo limit number kind mark := by
  cases number with
  | none =>
    simp only [indentTo, inFlow]
    split
    · rfl
    · split <;> rfl
  | some number =>
    simp only [indentTo, inFlow]
    split
    · rfl
    · split <;> rfl

/-- Behind a short word the key that was remembered at the word is still fresh. -/
lemma isStale_keyHere {word : List Char} (h : t.cursor.rest = word ++ rest)
    (hshort : Text.byteLength word ≤ maxKeyLength)
    (hs : s.cursor = t.cursor.skip word.length) : s.isStale t.keyHere = false := by
  have hindex : s.cursor.mark.index = t.cursor.mark.index + Text.byteLength word := by
    rw [hs]
    exact Cursor.index_skip h
  have hline : s.cursor.mark.line = t.cursor.mark.line := by
    rw [hs]
    rfl
  rw [isStale, hindex, hline]
  simp [keyHere]
  omega

/-- A colon with a gap behind it, not at the left margin, ends a key. -/
lemma step_colon {d : Char} (hrest : s.cursor.rest = ':' :: d :: rest)
    (hd : (isBlank d || isBreak d) = true) (hdrop : s.dropStale = .ok s)
    (hcolumn : 0 < s.cursor.mark.column) (hinside : s.indent ≤ (s.cursor.mark.column : Int)) :
    s.step = s.mappingValue := by
  have hskip : skipToToken (s.cursor.rest.length + 1) s = s :=
    skipToToken_spaces (n := 0) (by decide) hrest _
  have hmarker : s.cursor.atDocumentMarker = false := Cursor.atDocumentMarker_eq_false hcolumn
  have hgap : s.cursor.gapAt 1 = true := by
    rw [Cursor.gapAt, Cursor.ahead?, hrest]
    exact hd
  rw [step, hskip, hdrop]
  simp only [bind, Except.bind, dedentTo_of_le hinside, Cursor.head?, hrest, List.head?_cons]
  simp [tokenAt, hmarker, hgap]

/-- Two moves over a word and the colon behind it, which makes the word a key. A key further in than
the collection around it opens a mapping. -/
lemma InBlock.key {word : List Char} {d : Char} (hword : IsWord (ch :: word))
    (hd : (isBlank d || isBreak d) = true)
    (hshort : Text.byteLength (ch :: word) ≤ maxKeyLength) (hindent : indent ≤ column)
    (h : t.InBlock (ch :: (word ++ ':' :: d :: rest)) column kinds (indent :: indents) true)
    (hstep : s.step = t.tokenAt ch) :
    ∃ s₁ s₂, Move s s₁ ∧ Move s₁ s₂ ∧
      s₂.InBlock (d :: rest) (column + (ch :: word).length + 1)
        (.value :: .scalar (ch :: word) .plain :: .key ::
          ((if indent < column then [.blockMappingStart] else []) ++ kinds))
        (if indent < column then (column : Int) :: indent :: indents else indent :: indents)
        false := by
  have hends : EndsPlain false (':' :: d :: rest) := .inr (.inr ⟨d, rest, rfl, hd⟩)
  have hscalar := InBlock.plainScalar hword hends h
  rw [if_pos rfl] at hscalar
  let s₁ : Scanner := { t with key := some t.keyHere, keyAllowed := false }.pushTo
    (.scalar (ch :: word) .plain) (t.cursor.skip (ch :: word).length)
  have hrest : s₁.cursor.rest = ':' :: d :: rest := Cursor.rest_skip (ch :: word) h.rest_eq
  have hcolumn : s₁.cursor.mark.column = column + (ch :: word).length :=
    congrArg (· + (ch :: word).length) h.column_eq
  have hfresh : s₁.isStale t.keyHere = false := isStale_keyHere h.rest_eq hshort rfl
  have hdrop : s₁.dropStale = .ok s₁ := dropStale_of_fresh rfl h.outerKeys_eq hfresh
  have hmove : Move s s₁ :=
    ⟨s₁, by rw [hstep, hword.tokenAt_eq h.rest_eq, hscalar], rfl, hdrop⟩
  have hinside : s₁.indent ≤ (s₁.cursor.mark.column : Int) := by
    have heq : s₁.indent = indent := (List.cons.inj h.indents_eq).1
    rw [heq, hcolumn]
    omega
  have hcolon : s₁.step = s₁.mappingValue := by
    apply step_colon hrest hd hdrop _ hinside
    rw [hcolumn]
    exact Nat.succ_pos _
  let keyed : Scanner :=
    { s₁.insertAt t.count .key t.cursor.mark with key := none, keyAllowed := false }
  have hkeyed : keyed.InBlock (':' :: d :: rest) (column + (ch :: word).length)
      ([.scalar (ch :: word) .plain, .key] ++ kinds) (indent :: indents) false := by
    have hkinds : s₁.tokens.map Token.kind = [.scalar (ch :: word) .plain] ++ kinds :=
      congrArg (TokenKind.scalar (ch :: word) .plain :: ·) h.kinds_eq
    exact ⟨hrest, hcolumn, kinds_insertAt hkinds rfl _ _, h.indents_eq, rfl, rfl, h.outerKeys_eq⟩
  have hopened := (hkeyed.indentTo rfl column .blockMappingStart t.cursor.mark).pushIndicator .value
  have hvalue : s₁.mappingValue = .ok ((keyed.indentTo column (some t.count) .blockMappingStart
      t.cursor.mark).pushIndicator .value) := by
    rw [← h.column_eq, ← indentTo_forget]
    rfl
  exact ⟨s₁, _, hmove, hopened.move rfl (hcolon.trans hvalue), hopened⟩

/-! ## Other tokens -/

/-- A dash further in than the collection around it opens a sequence. -/
lemma InBlock.dash (hindent : indent < column)
    (h : t.InBlock ('-' :: ' ' :: rest) column kinds (indent :: indents) true)
    (hstep : s.step = t.tokenAt '-') :
    ∃ s', Move s s' ∧ s'.InBlock (' ' :: rest) (column + 1)
      (.blockEntry :: .blockSequenceStart :: kinds) ((column : Int) :: indent :: indents) true := by
  obtain ⟨hinner, houters⟩ := List.cons.inj h.indents_eq
  have hmarker : t.cursor.atDocumentMarker = false := by
    simp [Cursor.atDocumentMarker, Cursor.isAt, Cursor.ahead?, h.rest_eq]
  have hgap : t.cursor.gapAt 1 = true := by
    rw [Cursor.gapAt, Cursor.ahead?, h.rest_eq]
    rfl
  have htoken : t.tokenAt '-' = t.blockEntry := by simp [tokenAt, hmarker, hgap]
  let opened : Scanner :=
    { t with outerIndents := indent :: t.outerIndents, indent := (column : Int) }.pushEmpty
      .blockSequenceStart
  have hopened : opened.InBlock ('-' :: ' ' :: rest) column (.blockSequenceStart :: kinds)
      ((column : Int) :: indent :: indents) true :=
    ⟨h.rest_eq, h.column_eq, congrArg (TokenKind.blockSequenceStart :: ·) h.kinds_eq,
      by rw [← houters]; rfl, h.keyAllowed_eq, h.key_eq, h.outerKeys_eq⟩
  have hindented : t.indentTo t.cursor.mark.column none .blockSequenceStart t.cursor.mark =
      opened := by
    rw [Scanner.indentTo, h.inFlow_eq, if_neg Bool.false_ne_true, hinner, h.column_eq,
      if_pos hindent]
    rfl
  have hentry : t.blockEntry =
      .ok ({ opened with keyAllowed := true }.pushIndicator .blockEntry) := by
    rw [blockEntry]
    simp only [h.inFlow_eq, h.keyAllowed_eq, hindented, hopened.dropKey_eq, Bool.not_true,
      Bool.and_false, Bool.false_eq_true, if_false, bind, Except.bind]
  have hat := (hopened.allow true).pushIndicator .blockEntry
  exact ⟨_, hat.move rfl (hstep.trans (htoken.trans hentry)), hat⟩

/-- A word at the end of a line is a plain scalar, behind which the next line starts. -/
lemma InBlock.word {word : List Char} {next : Char} (hword : IsWord (ch :: word))
    (hblank : isBlank next = false) (hbreak : isBreak next = false) (hn : n ≤ indent)
    (h : t.InBlock (ch :: (word ++ '\n' :: (List.replicate n ' ' ++ next :: rest))) column kinds
      (indent :: indents) false)
    (hstep : s.step = t.tokenAt ch) :
    ∃ s', Move s s' ∧
      s'.InBlock (next :: rest) n (.scalar (ch :: word) .plain :: kinds) (indent :: indents)
        true := by
  have hinner : t.indent = indent := (List.cons.inj h.indents_eq).1
  have hfurther : (n : Int) < t.indent + 1 := by
    rw [hinner]
    omega
  have hmarker : t.cursor.atDocumentMarker = false := hword.atDocumentMarker_eq_false h.rest_eq
  obtain ⟨c, hread, hrest, hcolumn⟩ := readPlain_line (List.cons_ne_nil ch word) hword.1 hmarker
    hblank hbreak hfurther h.rest_eq
  have hsave : t.saveKey = .ok t := by
    rw [saveKey, h.keyAllowed_eq, if_neg Bool.false_ne_true]
  have hscalar : t.plainScalar =
      .ok ({ t with keyAllowed := true }.pushTo (.scalar (ch :: word) .plain) c) := by
    simp only [Scanner.plainScalar, hsave, bind, Except.bind, h.inFlow_eq, hread]
  have hat := (h.allow true).pushTo (.scalar (ch :: word) .plain) c
  rw [hrest, hcolumn] at hat
  exact ⟨_, hat.move rfl (hstep.trans ((hword.tokenAt_eq h.rest_eq).trans hscalar)), hat⟩

/-- A literal scalar goes on to the end of the text. -/
lemma InBlock.literal {lines : List (List Char)} (hne : lines ≠ [])
    (hlines : ∀ line ∈ lines, IsPrintedLine line) (hn : 0 < n) (hindent : indent < n)
    (h : t.InBlock ('|' :: '\n' :: indented n lines) column kinds (indent :: indents) ka)
    (hstep : s.step = t.tokenAt '|') :
    ∃ s', Move s s' ∧
      s'.InBlock [] 0 (.scalar (indented 0 lines) .literal :: kinds) (indent :: indents) true := by
  have hinner : t.indent = indent := (List.cons.inj h.indents_eq).1
  obtain ⟨c, hread, hrest, hcolumn⟩ :=
    readBlockScalar_literal hne hlines hn (hinner ▸ hindent) h.rest_eq
  have hmarker : t.cursor.atDocumentMarker = false := by
    simp [Cursor.atDocumentMarker, Cursor.isAt, Cursor.ahead?, h.rest_eq]
  have htoken : t.tokenAt '|' = t.blockScalar false := by simp [tokenAt, hmarker, h.inFlow_eq]
  have hscalar : t.blockScalar false =
      .ok ({ t with keyAllowed := true }.pushTo (.scalar (indented 0 lines) .literal) c) := by
    rw [blockScalar, h.dropKey_eq]
    simp only [bind, Except.bind, hread, Bool.false_eq_true, if_false]
  have hat := (h.allow true).pushTo (.scalar (indented 0 lines) .literal) c
  rw [hrest, hcolumn] at hat
  exact ⟨_, hat.move rfl (hstep.trans (htoken.trans hscalar)), hat⟩

end Scanner

/-! ## Texts -/

/-- All characters of lines that are printed may stand in a text. -/
lemma isAllowed_indented {lines : List (List Char)} (n : Nat)
    (hlines : ∀ line ∈ lines, IsPrintedLine line) :
    ∀ ch ∈ indented n lines, isAllowed ch = true := by
  intro ch hch
  obtain ⟨line, hline, hch⟩ := List.mem_flatMap.mp hch
  rcases List.mem_append.mp hch with hspace | hch
  · rw [List.eq_of_mem_replicate hspace]
    decide
  rcases List.mem_append.mp hch with hch | hfeed
  · have hrange := (hlines line hline).2.2 ch hch
    simp only [isAllowed, Bool.or_eq_true, Bool.and_eq_true, beq_iff_eq, decide_eq_true_eq]
    omega
  · rw [List.mem_singleton.mp hfeed]
    decide

/-- At the end of the text all collections are closed. -/
lemma scans_blockEnds {s : Scanner} {kinds : List TokenKind} {inner : List Int} {ka : Bool}
    (hinner : ∀ i ∈ inner, 0 < i) (h : s.InBlock [] 0 kinds (inner ++ [0, -1]) ka) :
    Scans s 1
      (.streamEnd :: .blockEnd :: (List.replicate inner.length .blockEnd ++ kinds)).reverse := by
  have hskip : Scanner.skipToToken (s.cursor.rest.length + 1) s = s :=
    Scanner.skipToToken_nil h.rest_eq _
  have hinside : (s.dedentTo 0).InBlock [] 0 (List.replicate inner.length .blockEnd ++ kinds)
      ([0] ++ [-1]) ka := h.dedentTo hinner (Int.le_refl 0)
  have houtside : ((s.dedentTo 0).dedentTo (-1)).InBlock [] 0
      (.blockEnd :: (List.replicate inner.length .blockEnd ++ kinds)) [-1] ka :=
    hinside.dedentTo (List.forall_mem_singleton.mpr (by decide)) (Int.le_refl (-1))
  have hstep : s.step = (s.dedentTo 0).streamEnd := by
    rw [Scanner.step, hskip, h.dropStale_eq]
    simp only [bind, Except.bind, h.column_eq, Nat.cast_zero, Cursor.head?, hinside.rest_eq,
      List.head?_nil]
  have hend : (s.dedentTo 0).streamEnd = .ok ({ (s.dedentTo 0).dedentTo (-1) with
      keyAllowed := false }.pushEmpty .streamEnd) := by
    rw [Scanner.streamEnd]
    simp only [hinside.column_eq, if_true, houtside.dropKey_eq, bind, Except.bind]
  exact Scans.of_end (hstep.trans hend)
    (congrArg (TokenKind.streamEnd :: ·) houtside.kinds_eq)

end AgentManifest.Yaml
