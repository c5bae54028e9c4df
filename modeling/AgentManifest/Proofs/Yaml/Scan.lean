import Mathlib.Data.Bool.AllAny
import AgentManifest.Proofs.Json.Contents
import AgentManifest.Proofs.Yaml.Flow
import AgentManifest.Yaml.Token.Scan

/-!
# The tokens of JSON

The scanner finds in the compact text of a tree the tokens that one would expect: brackets, commas
and colons, quoted scalars for strings, and plain scalars for all other scalars. A name counts as a
key because its text is short enough for it to be remembered up to the colon.
-/

namespace AgentManifest.Yaml

/-! ## States -/

/-- The scanner stands in front of a text, in a number of flow collections and in no block
collection. It has found tokens of some kinds, the last one first; and it may forget all the keys
that it remembers. -/
structure Scanner.At (s : Scanner) (rest : List Char) (kinds : List TokenKind) (depth : Nat)
    (keyAllowed : Bool) : Prop where
  rest_eq : s.cursor.rest = rest
  marker_eq : s.cursor.atDocumentMarker = false
  kinds_eq : s.tokens.map Token.kind = kinds
  depth_eq : s.outerKeys.length = depth
  keyAllowed_eq : s.keyAllowed = keyAllowed
  indent_eq : s.indent = -1
  outerIndents_eq : s.outerIndents = []
  key_loose : ∀ k, s.key = some k → k.required = false
  outerKeys_loose : ∀ k, some k ∈ s.outerKeys → k.required = false

namespace Scanner

variable {s s' : Scanner} {rest : List Char} {kinds : List TokenKind} {depth : Nat} {ka : Bool}

lemma At.inFlow_eq (h : s.At rest kinds depth ka) : s.inFlow = decide (0 < depth) := by
  rw [inFlow, ← h.depth_eq]
  cases s.outerKeys <;> rfl

/-! ## Keys -/

lemma forget_loose {key : Option PossibleKey} (h : ∀ k, key = some k → k.required = false) :
    s.forget key = .ok none := by
  cases key with
  | none => rfl
  | some k => rw [forget, h k rfl, if_neg Bool.false_ne_true]

/-- A key that may be forgotten is kept unless it is stale. -/
lemma refresh_loose {key : Option PossibleKey} (h : ∀ k, key = some k → k.required = false) :
    ∃ key', s.refresh key = .ok key' ∧ (∀ k, key' = some k → k.required = false) ∧
      ∀ k, key = some k → s.isStale k = false → key' = some k := by
  cases key with
  | none => exact ⟨none, rfl, nofun, nofun⟩
  | some k =>
    rw [refresh]
    cases hstale : s.isStale k with
    | true =>
      refine ⟨none, by rw [if_pos rfl, forget_loose h], nofun, ?_⟩
      rintro k' hk' hfresh
      obtain rfl := Option.some.inj hk'
      rw [hstale] at hfresh
      cases hfresh
    | false => exact ⟨some k, by rw [if_neg Bool.false_ne_true], h, fun _ hk _ => hk⟩

lemma mapM_refresh_loose {keys : List (Option PossibleKey)}
    (h : ∀ k, some k ∈ keys → k.required = false) :
    ∃ keys', keys.mapM s.refresh = .ok keys' ∧ keys'.length = keys.length ∧
      ∀ k, some k ∈ keys' → k.required = false := by
  induction keys with
  | nil => exact ⟨[], rfl, rfl, nofun⟩
  | cons key keys ih =>
    have hfirst : ∀ k, key = some k → k.required = false := fun k hk =>
      h k (hk ▸ List.mem_cons_self)
    obtain ⟨key', hkey', hloose, -⟩ := refresh_loose (s := s) hfirst
    obtain ⟨keys', hkeys', hlength, hloose'⟩ := ih fun k hk => h k (List.mem_cons_of_mem _ hk)
    refine ⟨key' :: keys', ?_, ?_, ?_⟩
    · simp only [List.mapM_cons, hkey', hkeys', bind, Except.bind, pure, Except.pure]
    · rw [List.length_cons, List.length_cons, hlength]
    · intro k hk
      cases hk with
      | head => exact hloose k rfl
      | tail _ hk => exact hloose' k hk

/-- Forgetting stale keys changes nothing else, and a key that is not stale stays. -/
lemma At.dropStale (h : s.At rest kinds depth ka) :
    ∃ s', s.dropStale = .ok s' ∧ s'.At rest kinds depth ka ∧ s'.cursor = s.cursor ∧
      s'.tokens = s.tokens ∧ s'.count = s.count ∧
      ∀ k, s.key = some k → s.isStale k = false → s'.key = some k := by
  obtain ⟨key, hkey, hloose, hkept⟩ := refresh_loose (s := s) h.key_loose
  have houterKeys : ∀ k, some k ∈ s.outerKeys.reverse → k.required = false := fun k hk =>
    h.outerKeys_loose k (List.mem_reverse.mp hk)
  obtain ⟨outer, houter, hlength, hloose'⟩ := mapM_refresh_loose (s := s) houterKeys
  refine ⟨{ s with key, outerKeys := outer.reverse }, ?_, ?_, rfl, rfl, rfl, hkept⟩
  · simp only [Scanner.dropStale, houter, hkey, bind, Except.bind]
  · refine ⟨h.rest_eq, h.marker_eq, h.kinds_eq, ?_, h.keyAllowed_eq, h.indent_eq,
      h.outerIndents_eq, hloose, fun k hk => hloose' k (List.mem_reverse.mp hk)⟩
    rw [List.length_reverse, hlength, List.length_reverse]
    exact h.depth_eq

/-- Remembering a key changes nothing else. -/
lemma At.saveKey (h : s.At rest kinds depth ka) :
    ∃ s', s.saveKey = .ok s' ∧ s'.At rest kinds depth ka ∧ s'.cursor = s.cursor ∧
      s'.tokens = s.tokens ∧ s'.count = s.count ∧ s'.outerKeys = s.outerKeys ∧
      (ka = true →
        s'.key = some { number := s.count, mark := s.cursor.mark, required := false }) := by
  have hindent : (s.indent == (s.cursor.mark.column : Int)) = false := by
    rw [h.indent_eq, beq_eq_false_iff_ne]
    omega
  cases ka with
  | true =>
    refine ⟨{ s with key := some { number := s.count, mark := s.cursor.mark, required := false } },
      ?_, ⟨h.rest_eq, h.marker_eq, h.kinds_eq, h.depth_eq, h.keyAllowed_eq, h.indent_eq,
        h.outerIndents_eq, ?_, h.outerKeys_loose⟩, rfl, rfl, rfl, rfl, fun _ => rfl⟩
    · rw [Scanner.saveKey, h.keyAllowed_eq, if_pos rfl, forget_loose h.key_loose, hindent,
        Bool.and_false]
      rfl
    · rintro k hk
      obtain rfl := Option.some.inj hk
      rfl
  | false =>
    refine ⟨s, ?_, h, rfl, rfl, rfl, rfl, nofun⟩
    rw [Scanner.saveKey, h.keyAllowed_eq, if_neg Bool.false_ne_true]

/-! ## One token -/

/-- A character that is part of a token, and no comment. -/
def StartsToken (ch : Char) : Prop :=
  isBlank ch = false ∧ isBreak ch = false ∧ ch ≠ '#' ∧ ch ≠ '\uFEFF'

instance (ch : Char) : Decidable (StartsToken ch) := inferInstanceAs (Decidable (_ ∧ _))

/-- Spaces in front of a token are skipped. -/
lemma skipToToken_spaces {ch : Char} {n : Nat} (hch : StartsToken ch)
    (h : s.cursor.rest = List.replicate n ' ' ++ ch :: rest) (fuel : Nat) :
    skipToToken (fuel + 1) s = { s with cursor := s.cursor.skip n } := by
  have hrest : (s.cursor.skip n).rest = ch :: rest := Cursor.rest_skip_replicate h
  have hspace : ch ≠ ' ' := by
    rintro rfl
    cases hch.1
  have hmark : (s.cursor.mark.column == 0 && s.cursor.isAt 0 '\uFEFF') = false := by
    rw [Bool.and_eq_false_iff]
    right
    rw [Cursor.isAt, Cursor.ahead?, h, beq_eq_false_iff_ne]
    cases n with
    | zero => exact fun heq => hch.2.2.2 (Option.some.inj heq)
    | succ n => exact fun heq => absurd (Option.some.inj heq) (by decide)
  have hblanks (tabs : Bool) :
      s.cursor.skipWhile (fun ch => ch == ' ' || (tabs && ch == '\t')) = s.cursor.skip n := by
    have hspaces : ∀ c ∈ List.replicate n ' ', (c == ' ' || (tabs && c == '\t')) = true := by
      intro c hc
      rw [List.eq_of_mem_replicate hc]
      rfl
    have hstop : (ch == ' ' || (tabs && ch == '\t')) = false := by
      have hblank := hch.1
      simp only [isBlank, Bool.or_eq_false_iff] at hblank
      rw [hblank.1, hblank.2, Bool.and_false, Bool.or_false]
    rw [Cursor.skipWhile, h, List.takeWhile_append_of_pos hspaces,
      List.takeWhile_cons_of_neg (by rw [hstop]; exact Bool.false_ne_true), List.append_nil,
      List.length_replicate]
  have hcomment : (s.cursor.skip n).skipComment = s.cursor.skip n := by
    apply Cursor.skipComment_eq_self
    rw [hrest]
    exact fun heq => hch.2.2.1 (Option.some.inj heq)
  simp only [skipToToken, hmark, Bool.false_eq_true, if_false, hblanks, hcomment,
    Cursor.readBreak?_eq_none hrest hch.2.1]

/-- Nothing is skipped at the end of the text. -/
lemma skipToToken_nil (h : s.cursor.rest = []) (fuel : Nat) : skipToToken (fuel + 1) s = s := by
  have hmark : (s.cursor.mark.column == 0 && s.cursor.isAt 0 '\uFEFF') = false := by
    rw [Cursor.isAt, Cursor.ahead?, h]
    exact Bool.and_false _
  have hblanks (tabs : Bool) :
      s.cursor.skipWhile (fun ch => ch == ' ' || (tabs && ch == '\t')) = s.cursor := by
    rw [Cursor.skipWhile, h]
    exact Cursor.skip_zero _
  have hcomment : s.cursor.skipComment = s.cursor := by
    apply Cursor.skipComment_eq_self
    rw [h]
    decide
  have hbreak : s.cursor.readBreak? = none := by
    unfold Cursor.readBreak?
    rw [h]
  simp only [skipToToken, hmark, Bool.false_eq_true, if_false, hblanks, hcomment, hbreak]

/-- Nothing is skipped in front of a token, or at the end of the text. -/
lemma At.skipToToken (h : s.At rest kinds depth ka) (hstart : ∀ ch ∈ rest.head?, StartsToken ch)
    (fuel : Nat) : Scanner.skipToToken (fuel + 1) s = s := by
  cases rest with
  | nil => exact skipToToken_nil h.rest_eq fuel
  | cons ch rest => exact skipToToken_spaces (n := 0) (hstart ch rfl) h.rest_eq fuel

/-- No block collection ends, because there is none. -/
lemma dedentTo_eq (h : s.outerIndents = []) (column : Int) : s.dedentTo column = s := by
  rw [dedentTo, h]
  split <;> rfl

/-- A step finds the token that is skipped to, or the end of the text. -/
lemma At.step_skipped (h : s'.At rest kinds depth ka)
    (hskip : Scanner.skipToToken (s.cursor.rest.length + 1) s = s') :
    ∃ t : Scanner, s.step = rest.head?.elim t.streamEnd t.tokenAt ∧ t.At rest kinds depth ka ∧
      t.cursor = s'.cursor ∧ t.tokens = s'.tokens ∧ t.count = s'.count ∧
      ∀ k, s'.key = some k → s'.isStale k = false → t.key = some k := by
  obtain ⟨t, hdrop, hat, hcursor, htokens, hcount, hkept⟩ := h.dropStale
  refine ⟨t, ?_, hat, hcursor, htokens, hcount, hkept⟩
  rw [step, hskip, hdrop]
  simp only [bind, Except.bind, dedentTo_eq hat.outerIndents_eq, Cursor.head?, hat.rest_eq]
  cases rest.head? <;> rfl

/-- A step finds the token that starts with the next character, or the end of the text. -/
lemma At.step_eq (h : s.At rest kinds depth ka) (hstart : ∀ ch ∈ rest.head?, StartsToken ch) :
    ∃ s' : Scanner, s.step = rest.head?.elim s'.streamEnd s'.tokenAt ∧ s'.At rest kinds depth ka ∧
      s'.cursor = s.cursor ∧ s'.tokens = s.tokens ∧ s'.count = s.count ∧
      ∀ k, s.key = some k → s.isStale k = false → s'.key = some k :=
  h.step_skipped (h.skipToToken hstart _)

/-- The scanner goes on from one state to another by a token that is not the end of the text. -/
def Move (s s' : Scanner) : Prop :=
  ∃ t, s.step = .ok t ∧ t.ended = false ∧ t.dropStale = .ok s'

/-- A step to a state behind a token is a move to such a state. -/
lemma At.move {t : Scanner} {kind : TokenKind} (h : t.At rest (kind :: kinds) depth ka)
    (hkind : kind ≠ .streamEnd) (hstep : s.step = .ok t) :
    ∃ s', Move s s' ∧ s'.At rest (kind :: kinds) depth ka ∧ s'.cursor = t.cursor ∧
      s'.tokens = t.tokens ∧ s'.count = t.count ∧
      ∀ k, t.key = some k → t.isStale k = false → s'.key = some k := by
  obtain ⟨s', hdrop, hat, hrest⟩ := h.dropStale
  have hended : t.ended = false := by
    have hkinds := h.kinds_eq
    unfold ended
    cases ht : t.tokens with
    | nil => rfl
    | cons token tokens =>
      rw [ht, List.map_cons] at hkinds
      have hk : token.kind = kind := (List.cons.inj hkinds).1
      simp [hk, hkind]
  exact ⟨s', ⟨t, hstep, hended, hdrop⟩, hat, hrest⟩

/-! ## Tokens by kind -/

/-- Behind a token the scanner stands on the same line. -/
lemma At.pushTo (front : List Char) {back : List Char} (h : s.At (front ++ back) kinds depth ka)
    (hne : front ≠ []) (kind : TokenKind) :
    (s.pushTo kind (s.cursor.skip front.length)).At back (kind :: kinds) depth ka := by
  have hlength := List.length_pos_iff.mpr hne
  refine ⟨Cursor.rest_skip _ h.rest_eq, Cursor.atDocumentMarker_eq_false ?_,
    congrArg (kind :: ·) h.kinds_eq, h.depth_eq, h.keyAllowed_eq, h.indent_eq, h.outerIndents_eq,
    h.key_loose, h.outerKeys_loose⟩
  change 0 < s.cursor.mark.column + front.length
  omega

lemma At.allow (h : s.At rest kinds depth ka) (keyAllowed : Bool) :
    ({ s with keyAllowed } : Scanner).At rest kinds depth keyAllowed :=
  ⟨h.rest_eq, h.marker_eq, h.kinds_eq, h.depth_eq, rfl, h.indent_eq, h.outerIndents_eq,
    h.key_loose, h.outerKeys_loose⟩

lemma At.dropKey (h : s.At rest kinds depth ka) :
    s.dropKey = .ok { s with key := none } ∧
      ({ s with key := none } : Scanner).At rest kinds depth ka := by
  refine ⟨?_, h.rest_eq, h.marker_eq, h.kinds_eq, h.depth_eq, h.keyAllowed_eq, h.indent_eq,
    h.outerIndents_eq, nofun, h.outerKeys_loose⟩
  simp only [Scanner.dropKey, forget_loose h.key_loose, bind, Except.bind]

/-- A bracket opens a flow collection. -/
lemma At.flowStart {ch : Char} (h : s.At (ch :: rest) kinds depth ka) (kind : TokenKind) :
    ∃ t, s.flowStart kind = .ok t ∧ t.At rest (kind :: kinds) (depth + 1) true := by
  obtain ⟨s', hsave, hat, -⟩ := h.saveKey
  let inner : Scanner :=
    { s' with key := none, outerKeys := s'.key :: s'.outerKeys, keyAllowed := true }
  have hloose : ∀ k, some k ∈ s'.key :: s'.outerKeys → k.required = false := by
    intro k hk
    rw [List.mem_cons] at hk
    rcases hk with hk | hk
    · exact hat.key_loose k hk.symm
    · exact hat.outerKeys_loose k hk
  have hinner : inner.At (ch :: rest) kinds (depth + 1) true :=
    ⟨hat.rest_eq, hat.marker_eq, hat.kinds_eq, congrArg (· + 1) hat.depth_eq, rfl, hat.indent_eq,
      hat.outerIndents_eq, fun _ hk => absurd hk nofun, hloose⟩
  exact ⟨_, by simp only [Scanner.flowStart, hsave, bind, Except.bind]; rfl,
    hinner.pushTo [ch] (List.cons_ne_nil _ _) kind⟩

/-- A bracket closes a flow collection. -/
lemma At.flowEnd {ch : Char} (h : s.At (ch :: rest) kinds (depth + 1) ka) (kind : TokenKind) :
    ∃ t, s.flowEnd kind = .ok t ∧ t.At rest (kind :: kinds) depth false := by
  obtain ⟨hdrop, hat⟩ := h.dropKey
  cases houter : s.outerKeys with
  | nil =>
    have hdepth := h.depth_eq
    rw [houter] at hdepth
    cases hdepth
  | cons key others =>
    let around : Scanner := { s with key, outerKeys := others, keyAllowed := false }
    have hdepth := h.depth_eq
    have hloose := h.outerKeys_loose
    rw [houter] at hdepth hloose
    have haround : around.At (ch :: rest) kinds depth false :=
      ⟨h.rest_eq, h.marker_eq, h.kinds_eq, Nat.succ.inj hdepth, rfl, h.indent_eq,
        h.outerIndents_eq, fun k hk => hloose k (List.mem_cons.mpr (.inl hk.symm)),
        fun k hk => hloose k (List.mem_cons_of_mem _ hk)⟩
    exact ⟨_, by simp only [Scanner.flowEnd, hdrop, houter, bind, Except.bind]; rfl,
      haround.pushTo [ch] (List.cons_ne_nil _ _) kind⟩

/-- Behind a comma there may be another key. -/
lemma At.flowEntry {ch : Char} (h : s.At (ch :: rest) kinds depth ka) :
    ∃ t, s.flowEntry = .ok t ∧ t.At rest (.flowEntry :: kinds) depth true := by
  obtain ⟨hdrop, hat⟩ := h.dropKey
  exact ⟨_, by simp only [Scanner.flowEntry, hdrop, bind, Except.bind]; rfl,
    (hat.allow true).pushTo [ch] (List.cons_ne_nil _ _) .flowEntry⟩

/-- A string is a quoted scalar, which is remembered as a key where one may be. -/
lemma At.quotedScalar {text : String} {q : List Char} (h : s.At (q ++ rest) kinds depth ka)
    (hq : IsLiteral text q) :
    ∃ t, s.quotedScalar '"' = .ok t ∧
      t.At rest (.scalar text.toList .quoted :: kinds) depth false ∧
      t.cursor = s.cursor.skip q.length ∧ t.count = s.count + 1 ∧
      (ka = true →
        t.key = some { number := s.count, mark := s.cursor.mark, required := false }) := by
  obtain ⟨s', hsave, hat, hcursor, -, hcount, -, hkey⟩ := h.saveKey
  have hread := readQuoted_literal hq hat.rest_eq
  have hne : q ≠ [] := by
    obtain ⟨ps, -, -, rfl⟩ := hq
    exact List.cons_ne_nil _ _
  refine ⟨_, by simp only [Scanner.quotedScalar, hsave, hread, bind, Except.bind],
    (hat.allow false).pushTo _ hne _, ?_, ?_, hkey⟩
  · exact congrArg (fun c => c.skip q.length) hcursor
  · exact congrArg (· + 1) hcount

/-- A word is a plain scalar. -/
lemma At.plainScalar {word : List Char} (h : s.At (word ++ rest) kinds depth ka) (hne : word ≠ [])
    (hword : ∀ ch ∈ word, IsPlainChar ch) (hrest : EndsPlain (decide (0 < depth)) rest) :
    ∃ t, s.plainScalar = .ok t ∧ t.At rest (.scalar word .plain :: kinds) depth false := by
  obtain ⟨s', hsave, hat, -⟩ := h.saveKey
  have hread := readPlain_word hne hword hat.marker_eq (hat.inFlow_eq ▸ hrest) (s'.indent + 1)
    hat.rest_eq
  exact ⟨_, by simp only [Scanner.plainScalar, hsave, hread, bind, Except.bind],
    (hat.allow false).pushTo _ hne _⟩

/-- The colon behind a remembered key makes it one. -/
lemma At.mappingValue {k : PossibleKey} {kind : TokenKind}
    (h : s.At (':' :: rest) (kind :: kinds) (depth + 1) ka) (hkey : s.key = some k)
    (hnumber : s.count = k.number + 1) :
    ∃ t, s.mappingValue = .ok t ∧ t.At rest (.value :: kind :: .key :: kinds) (depth + 1) false := by
  obtain ⟨token, tokens, htokens⟩ : ∃ token tokens, s.tokens = token :: tokens := by
    have hkinds := h.kinds_eq
    cases ht : s.tokens with
    | nil =>
      rw [ht] at hkinds
      cases hkinds
    | cons token tokens => exact ⟨token, tokens, rfl⟩
  have hkinds := h.kinds_eq
  rw [htokens, List.map_cons, List.cons.injEq] at hkinds
  let keyed : Scanner := { s.insertAt k.number .key k.mark with key := none, keyAllowed := false }
  have hinserted : (s.insertAt k.number .key k.mark).tokens.map Token.kind =
      kind :: .key :: kinds := by
    have hplace : s.count - k.number = 1 := by omega
    simp [insertAt, hplace, htokens, hkinds.1, hkinds.2]
  have hkeyed : keyed.At (':' :: rest) (kind :: .key :: kinds) (depth + 1) false :=
    ⟨h.rest_eq, h.marker_eq, hinserted, h.depth_eq, rfl, h.indent_eq, h.outerIndents_eq,
      fun _ hk => absurd hk nofun, h.outerKeys_loose⟩
  have hflow : (s.insertAt k.number .key k.mark).inFlow = true := by
    have := h.inFlow_eq
    rw [decide_eq_true (Nat.succ_pos depth)] at this
    exact this
  exact ⟨_, by simp only [Scanner.mappingValue, hkey, indentTo, hflow, if_true]; rfl,
    hkeyed.pushTo [':'] (List.cons_ne_nil _ _) .value⟩

/-- The end of the text is a token. -/
lemma At.streamEnd (h : s.At rest kinds depth ka) :
    ∃ t, s.streamEnd = .ok t ∧ t.tokens.map Token.kind = .streamEnd :: kinds ∧
      t.cursor.rest = rest := by
  -- the end may be put on a line of its own, on which nothing depends
  let m := s.cursor.mark
  let last : Mark := if m.column = 0 then m else { m with line := m.line + 1, column := 0 }
  let s' : Scanner := { s with cursor := { s.cursor with mark := last } }
  have hend : s.streamEnd = (do
      let s ← (s'.dedentTo (-1)).dropKey
      .ok ({ s with keyAllowed := false }.pushEmpty .streamEnd)) := rfl
  have hloose : s'.forget s'.key = .ok none := forget_loose h.key_loose
  have hdedent : s'.dedentTo (-1) = s' := dedentTo_eq (s := s') h.outerIndents_eq (-1)
  refine ⟨_, by simp only [hend, hdedent, Scanner.dropKey, hloose, bind, Except.bind]; rfl, ?_⟩
  exact ⟨congrArg (TokenKind.streamEnd :: ·) h.kinds_eq, h.rest_eq⟩

/-! ## Moves -/

/-- A move by the token that starts with the next character. -/
lemma At.moveBy {ch : Char} {cs : List Char} {kind : TokenKind} {depth' : Nat} {ka' : Bool}
    (h : s.At (ch :: cs) kinds depth ka) (hstart : StartsToken ch) (hkind : kind ≠ .streamEnd)
    (htoken : ∀ s' : Scanner, s'.At (ch :: cs) kinds depth ka →
      ∃ t, s'.tokenAt ch = .ok t ∧ t.At rest (kind :: kinds) depth' ka') :
    ∃ s', Move s s' ∧ s'.At rest (kind :: kinds) depth' ka' := by
  obtain ⟨s', hstep, hat, -⟩ := h.step_eq (by rintro _ ⟨⟩; exact hstart)
  obtain ⟨t, htoken, ht⟩ := htoken s' hat
  obtain ⟨s'', hmove, hat', -⟩ := ht.move hkind (hstep.trans htoken)
  exact ⟨s'', hmove, hat'⟩

lemma At.openSequence (h : s.At ('[' :: rest) kinds depth ka) :
    ∃ s', Move s s' ∧ s'.At rest (.flowSequenceStart :: kinds) (depth + 1) true := by
  refine h.moveBy (by decide) nofun fun s' hat => ?_
  obtain ⟨t, hstart, ht⟩ := hat.flowStart .flowSequenceStart
  exact ⟨t, by simpa [tokenAt, hat.marker_eq] using hstart, ht⟩

lemma At.openMapping (h : s.At ('{' :: rest) kinds depth ka) :
    ∃ s', Move s s' ∧ s'.At rest (.flowMappingStart :: kinds) (depth + 1) true := by
  refine h.moveBy (by decide) nofun fun s' hat => ?_
  obtain ⟨t, hstart, ht⟩ := hat.flowStart .flowMappingStart
  exact ⟨t, by simpa [tokenAt, hat.marker_eq] using hstart, ht⟩

lemma At.closeSequence (h : s.At (']' :: rest) kinds (depth + 1) ka) :
    ∃ s', Move s s' ∧ s'.At rest (.flowSequenceEnd :: kinds) depth false := by
  refine h.moveBy (by decide) nofun fun s' hat => ?_
  obtain ⟨t, hend, ht⟩ := hat.flowEnd .flowSequenceEnd
  exact ⟨t, by simpa [tokenAt, hat.marker_eq] using hend, ht⟩

lemma At.closeMapping (h : s.At ('}' :: rest) kinds (depth + 1) ka) :
    ∃ s', Move s s' ∧ s'.At rest (.flowMappingEnd :: kinds) depth false := by
  refine h.moveBy (by decide) nofun fun s' hat => ?_
  obtain ⟨t, hend, ht⟩ := hat.flowEnd .flowMappingEnd
  exact ⟨t, by simpa [tokenAt, hat.marker_eq] using hend, ht⟩

lemma At.comma (h : s.At (',' :: rest) kinds depth ka) :
    ∃ s', Move s s' ∧ s'.At rest (.flowEntry :: kinds) depth true := by
  refine h.moveBy (by decide) nofun fun s' hat => ?_
  obtain ⟨t, hentry, ht⟩ := hat.flowEntry
  exact ⟨t, by simpa [tokenAt, hat.marker_eq] using hentry, ht⟩

/-- A move over a string. Where a key may be, a string that is short enough is remembered as one. -/
lemma At.string {text : String} {q : List Char} (h : s.At (q ++ rest) kinds depth ka)
    (hq : IsLiteral text q) :
    ∃ s', Move s s' ∧ s'.At rest (.scalar text.toList .quoted :: kinds) depth false ∧
      (ka = true → Text.byteLength q ≤ maxKeyLength →
        ∃ k, s'.key = some k ∧ s'.count = k.number + 1 ∧ s'.isStale k = false) := by
  have hhead : (q ++ rest).head? = some '"' := by
    obtain ⟨ps, -, -, rfl⟩ := hq
    rfl
  obtain ⟨s₁, hstep, hat, -⟩ := h.step_eq (by rw [hhead]; rintro _ ⟨⟩; decide)
  rw [hhead] at hstep
  obtain ⟨t, hscalar, ht, hcursor, hcount, hkey⟩ := At.quotedScalar hat hq
  have htoken : s₁.tokenAt '"' = .ok t := by simpa [tokenAt, hat.marker_eq] using hscalar
  obtain ⟨s', hmove, hat', hcursor', -, hcount', hkept⟩ := ht.move nofun (hstep.trans htoken)
  refine ⟨s', hmove, hat', fun hka hshort => ?_⟩
  let k : PossibleKey := { number := s₁.count, mark := s₁.cursor.mark, required := false }
  have hindex : t.cursor.mark.index = k.mark.index + Text.byteLength q := by
    rw [hcursor]
    exact Cursor.index_skip hat.rest_eq
  have hline : t.cursor.mark.line = k.mark.line := by
    rw [hcursor]
    rfl
  have hfresh : t.isStale k = false := by
    rw [isStale, hindex, hline]
    simp
    omega
  refine ⟨k, hkept k (hkey hka) hfresh, hcount'.trans hcount, ?_⟩
  rw [isStale, hcursor']
  exact hfresh

/-- Two moves over a key and the colon behind it, if the key is short enough. -/
lemma At.key {name : String} {q : List Char} (h : s.At (q ++ ':' :: rest) kinds (depth + 1) true)
    (hname : IsLiteral name q) (hshort : Text.byteLength q ≤ maxKeyLength) :
    ∃ s₁ s₂, Move s s₁ ∧ Move s₁ s₂ ∧
      s₂.At rest (.value :: .scalar name.toList .quoted :: .key :: kinds) (depth + 1) false := by
  obtain ⟨s₁, hmove, hat, hkey⟩ := h.string hname
  obtain ⟨k, hk, hnumber, hfresh⟩ := hkey rfl hshort
  obtain ⟨s', hstep, hat', -, -, hcount, hkept⟩ := hat.step_eq (by rintro _ ⟨⟩; decide)
  obtain ⟨t, hvalue, ht⟩ := hat'.mappingValue (hkept k hk hfresh) (hcount.trans hnumber)
  have hflow : s'.inFlow = true := by
    rw [hat'.inFlow_eq]
    exact decide_eq_true (Nat.succ_pos depth)
  have htoken : s'.tokenAt ':' = .ok t := by simpa [tokenAt, hat'.marker_eq, hflow] using hvalue
  obtain ⟨s₂, hmove', hat'', -⟩ := ht.move nofun (hstep.trans htoken)
  exact ⟨s₁, s₂, hmove, hmove', hat''⟩

/-! ## Words -/

/-- What JSON writes for a scalar that is no string: a word that starts with a letter or a digit, or
with a minus sign in front of a digit. -/
def IsWord : List Char → Prop
  | ch :: word =>
    (∀ c ∈ ch :: word, IsPlainChar c) ∧
      (ch = '-' → ∃ d ∈ word.head?, d.isDigit = true)
  | [] => False

/-- A word is no document marker. -/
lemma IsWord.atDocumentMarker_eq_false {c : Cursor} {word : List Char} (hword : IsWord word)
    (h : c.rest = word ++ rest) : c.atDocumentMarker = false := by
  cases word with
  | nil => exact absurd hword id
  | cons ch word =>
    obtain ⟨hchars, hminus⟩ := hword
    have hpoint : c.isAt 0 '.' = false := by
      rw [Cursor.isAt, Cursor.ahead?, h, beq_eq_false_iff_ne]
      intro heq
      cases heq
      exact absurd (hchars '.' List.mem_cons_self) (by decide)
    have hdashes : (c.isAt 0 '-' && c.isAt 1 '-') = false := by
      rw [Cursor.isAt, Cursor.isAt, Cursor.ahead?, Cursor.ahead?, h, Bool.and_eq_false_imp,
        beq_iff_eq, beq_eq_false_iff_ne]
      intro hfirst hsecond
      obtain ⟨d, hhead, hdigit⟩ := hminus (Option.some.inj hfirst)
      cases word with
      | nil => cases hhead
      | cons d' word =>
        cases hhead
        cases hsecond
        cases hdigit
    simp only [Cursor.atDocumentMarker, hpoint, hdashes, Bool.false_and, Bool.or_self,
      Bool.and_false]

/-- A word is a plain scalar. -/
lemma IsWord.tokenAt_eq {ch : Char} {word : List Char} (hword : IsWord (ch :: word))
    (hrest : s.cursor.rest = ch :: (word ++ rest)) : s.tokenAt ch = s.plainScalar := by
  have hmarker : s.cursor.atDocumentMarker = false := hword.atDocumentMarker_eq_false hrest
  obtain ⟨hchars, hminus⟩ := hword
  have hplain := hchars ch List.mem_cons_self
  have hne (d : Char) (hd : ¬IsPlainChar d) : (ch == d) = false :=
    beq_eq_false_iff_ne.mpr fun heq => hd (heq ▸ hplain)
  -- a minus sign stands in front of a digit, so that it is no dash
  have hdigit (heq : ch = '-') : ∃ d ds, word ++ rest = d :: ds ∧ d.isDigit = true := by
    obtain ⟨d, hd, hdigit⟩ := hminus heq
    cases word with
    | nil => cases hd
    | cons d' word =>
      obtain rfl : d' = d := Option.some.inj hd
      exact ⟨d', word ++ rest, rfl, hdigit⟩
  have hnext (d : Char) (hd : d.isDigit = true) : isBlank d = false ∧ isBreak d = false := by
    have hplain : IsPlainChar d := .inl (by simp [Char.isAlphanum, hd])
    exact ⟨hplain.not_special.1, hplain.not_special.2.1⟩
  have hdash : (ch == '-' && s.cursor.gapAt 1) = false := by
    rw [Bool.and_eq_false_imp, beq_iff_eq]
    intro heq
    obtain ⟨d, ds, hds, hd⟩ := hdigit heq
    simp [Cursor.gapAt, Cursor.ahead?, hrest, hds, hnext d hd]
  have hstarts : s.plainStarts ch = true := by
    by_cases heq : ch = '-'
    · obtain ⟨d, ds, hds, hd⟩ := hdigit heq
      simp [plainStarts, heq, Cursor.check, Cursor.ahead?, hrest, hds, hnext d hd]
    · obtain ⟨hblank, hbreak, -⟩ := hplain.not_special
      have hindicator : isIndicator ch = false := by
        rw [isIndicator, ← Bool.not_eq_true, List.contains_iff_mem]
        intro hmem
        have hnone : ∀ d ∈ "-?:,[]{}#&*!|>'\"%@`".toList, d = '-' ∨ ¬IsPlainChar d :=
          List.all_iff_forall_prop.mp (by decide)
        rcases hnone ch hmem with hd | hd
        · exact heq hd
        · exact hd hplain
      simp [plainStarts, hblank, hbreak, hindicator]
  simp only [tokenAt, hmarker, hdash, hstarts, hne '%' (by decide), hne '[' (by decide),
    hne '{' (by decide), hne ']' (by decide), hne '}' (by decide), hne ',' (by decide),
    hne '?' (by decide), hne ':' (by decide), hne '*' (by decide), hne '&' (by decide),
    hne '!' (by decide), hne '|' (by decide), hne '>' (by decide), hne '\'' (by decide),
    hne '"' (by decide), Bool.false_and, Bool.false_eq_true, if_false, if_true]

lemma At.word {word : List Char} (h : s.At (word ++ rest) kinds depth ka) (hword : IsWord word)
    (hrest : EndsPlain (decide (0 < depth)) rest) :
    ∃ s', Move s s' ∧ s'.At rest (.scalar word .plain :: kinds) depth false := by
  cases word with
  | nil => exact absurd hword id
  | cons ch word =>
    have hch := hword.1 ch List.mem_cons_self
    obtain ⟨hblank, hbreak, -, -, hcomment⟩ := hch.not_special
    have hmark : ch ≠ '\uFEFF' := fun heq => absurd (heq ▸ hch) (by decide)
    have hstart : StartsToken ch := ⟨hblank, hbreak, hcomment, hmark⟩
    refine h.moveBy hstart nofun fun s' hat => ?_
    obtain ⟨t, hscalar, ht⟩ := At.plainScalar hat (List.cons_ne_nil _ _) hword.1 hrest
    exact ⟨t, (hword.tokenAt_eq hat.rest_eq).trans hscalar, ht⟩

end Scanner
end AgentManifest.Yaml
