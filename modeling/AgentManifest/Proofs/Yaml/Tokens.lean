import AgentManifest.Proofs.Yaml.Scan

/-!
# The tokens of a tree

The tokens that the scanner finds in a text of a tree without blanks mirror the tree, in whatever
way its strings are spelled (`Renders.tokensOf_eq`).
-/

namespace AgentManifest.Yaml

open Json (quote)
open Scanner (Move IsWord)

/-! ## Kinds -/

/-- The numbers, the strings and the names in a tree are such that YAML reads them as JSON does:
64-bit integers, texts that are legible, and names short enough to be keys. -/
structure Portable (numbers : List Json.Number) (strings names : List String) : Prop where
  isWord : ∀ n ∈ numbers, n.IsWord
  legible : ∀ text ∈ strings, ∀ ch ∈ text.toList, Legible ch
  short : ∀ name ∈ names, Text.byteLength (quote name) ≤ maxKeyLength

lemma Portable.append {numbers numbers' : List Json.Number} {strings strings' names names' : List String}
    (h : Portable (numbers ++ numbers') (strings ++ strings') (names ++ names')) :
    Portable numbers strings names ∧ Portable numbers' strings' names' := by
  obtain ⟨hn, hs, hk⟩ := h
  rw [List.forall_mem_append] at hn hs hk
  exact ⟨⟨hn.1, hs.1, hk.1⟩, ⟨hn.2, hs.2, hk.2⟩⟩

/-- A first member of such members has such a name and such a value. -/
lemma Portable.member {numbers numbers' : List Json.Number} {name : String}
    {strings strings' names names' : List String}
    (h : Portable (numbers ++ numbers') (name :: (strings ++ strings')) (name :: (names ++ names'))) :
    ((∀ ch ∈ name.toList, Legible ch) ∧ Text.byteLength (quote name) ≤ maxKeyLength) ∧
      Portable numbers strings names ∧ Portable numbers' strings' names' := by
  obtain ⟨hn, hs, hk⟩ := h
  rw [List.forall_mem_cons] at hs hk
  exact ⟨⟨hs.1, hk.1⟩, Portable.append ⟨hn, hs.2, hk.2⟩⟩

mutual

/-- The kinds of the tokens in the compact text of a tree. -/
def tokenKinds : Json.Value → List TokenKind
  | .string s => [.scalar s.toList .quoted]
  | .array [] => [.flowSequenceStart, .flowSequenceEnd]
  | .array (v :: vs) => .flowSequenceStart :: (tokenKinds v ++ itemKinds vs)
  | .object [] => [.flowMappingStart, .flowMappingEnd]
  | .object ((k, v) :: ms) =>
    .flowMappingStart :: .key :: .scalar k.toList .quoted :: .value ::
      (tokenKinds v ++ memberKinds ms)
  | v => [.scalar v.write .plain]

/-- The kinds of the tokens of the items after the first, and of the closing bracket. -/
def itemKinds : List Json.Value → List TokenKind
  | [] => [.flowSequenceEnd]
  | v :: vs => .flowEntry :: (tokenKinds v ++ itemKinds vs)

/-- The kinds of the tokens of the members after the first, and of the closing brace. -/
def memberKinds : List (String × Json.Value) → List TokenKind
  | [] => [.flowMappingEnd]
  | (k, v) :: ms =>
    .flowEntry :: .key :: .scalar k.toList .quoted :: .value :: (tokenKinds v ++ memberKinds ms)

end

/-! ## Words -/

lemma isPlainChar_of_isDigit {ch : Char} (h : ch.isDigit = true) : IsPlainChar ch :=
  .inl (by simp [Char.isAlphanum, h])

/-- An integer is written as a word. -/
lemma isWord_intText (n : Int) : IsWord (Decimal.intText n) := by
  have hdigits : ∀ c ∈ Decimal.natText n.natAbs, c.isDigit = true :=
    fun c hc => Decimal.isDigit_of_mem_natText hc
  obtain ⟨d, ds, htext, hd⟩ := Decimal.exists_natText_eq_cons n.natAbs
  rw [Decimal.intText]
  split
  case isTrue =>
    refine ⟨List.forall_mem_cons.mpr ⟨.inr (.inl rfl), fun c hc => isPlainChar_of_isDigit (hdigits c hc)⟩,
      fun _ => ⟨d, ?_, hd⟩⟩
    rw [htext]
    rfl
  case isFalse =>
    rw [htext] at hdigits ⊢
    refine ⟨fun c hc => isPlainChar_of_isDigit (hdigits c hc), ?_⟩
    rintro rfl
    cases hd

lemma isWord_null : IsWord ['n', 'u', 'l', 'l'] :=
  ⟨List.all_iff_forall_prop.mp (by decide), nofun⟩

lemma isWord_true : IsWord ['t', 'r', 'u', 'e'] :=
  ⟨List.all_iff_forall_prop.mp (by decide), nofun⟩

lemma isWord_false : IsWord ['f', 'a', 'l', 's', 'e'] :=
  ⟨List.all_iff_forall_prop.mp (by decide), nofun⟩

/-! ## Texts of trees -/

/-- A tree, or what is left of the items or of the members of one behind the first. -/
inductive Part where
  | value (v : Json.Value)
  | items (vs : List Json.Value)
  | members (ms : List (String × Json.Value))

/-- The kinds of the tokens of a part. -/
def Part.kinds : Part → List TokenKind
  | .value v => tokenKinds v
  | .items vs => itemKinds vs
  | .members ms => memberKinds ms

/-- How deep in flow collections a part is, if what follows it is at some depth. -/
def Part.depth : Part → Nat → Nat
  | .value _, depth => depth
  | .items _, depth => depth + 1
  | .members _, depth => depth + 1

/-- A text renders a part without a blank between its tokens. Its strings may be spelled in any way
that YAML reads as JSON does, and its names are short enough to be keys. -/
inductive Renders : Part → List Char → Prop where
  | word {v : Json.Value} (hkinds : tokenKinds v = [.scalar v.write .plain])
      (hword : IsWord v.write) : Renders (.value v) v.write
  | string {text : String} {q : List Char} (hq : IsLiteral text q) : Renders (.value (.string text)) q
  | emptyArray : Renders (.value (.array [])) ['[', ']']
  | array {v : Json.Value} {vs : List Json.Value} {t ts : List Char} (hv : Renders (.value v) t)
      (hvs : Renders (.items vs) ts) : Renders (.value (.array (v :: vs))) ('[' :: (t ++ ts))
  | emptyObject : Renders (.value (.object [])) ['{', '}']
  | object {name : String} {v : Json.Value} {ms : List (String × Json.Value)} {q t ts : List Char}
      (hname : IsLiteral name q) (hshort : Text.byteLength q ≤ maxKeyLength)
      (hv : Renders (.value v) t) (hms : Renders (.members ms) ts) :
      Renders (.value (.object ((name, v) :: ms))) ('{' :: (q ++ ':' :: (t ++ ts)))
  | lastItem : Renders (.items []) [']']
  | item {v : Json.Value} {vs : List Json.Value} {t ts : List Char} (hv : Renders (.value v) t)
      (hvs : Renders (.items vs) ts) : Renders (.items (v :: vs)) (',' :: (t ++ ts))
  | lastMember : Renders (.members []) ['}']
  | member {name : String} {v : Json.Value} {ms : List (String × Json.Value)} {q t ts : List Char}
      (hname : IsLiteral name q) (hshort : Text.byteLength q ≤ maxKeyLength)
      (hv : Renders (.value v) t) (hms : Renders (.members ms) ts) :
      Renders (.members ((name, v) :: ms)) (',' :: (q ++ ':' :: (t ++ ts)))

mutual

/-- The compact text of a tree renders it. -/
theorem renders_write : ∀ {v : Json.Value}, Portable v.numbers v.strings v.names →
    Renders (.value v) v.write
  | .null, _ => .word rfl isWord_null
  | .bool true, _ => .word rfl isWord_true
  | .bool false, _ => .word rfl isWord_false
  | .number (.int i), _ => .word rfl (isWord_intText i)
  | .number (.float x), hv => absurd (hv.isWord _ (List.mem_singleton_self _)) id
  | .string text, hv => .string (isLiteral_quote (hv.legible text (List.mem_singleton_self _)))
  | .array [], _ => .emptyArray
  | .array (_ :: _), hv => .array (renders_write hv.append.1) (renders_writeItems hv.append.2)
  | .object [], _ => .emptyObject
  | .object ((name, v) :: ms), hv => by
    obtain ⟨hname, hv, hms⟩ := hv.member
    exact .object (isLiteral_quote hname.1) hname.2 (renders_write hv) (renders_writeMembers hms)

theorem renders_writeItems : ∀ {vs : List Json.Value},
    Portable (Json.Value.numbersOfItems vs) (Json.Value.stringsOfItems vs)
      (Json.Value.namesOfItems vs) → Renders (.items vs) (Json.Value.writeItems vs)
  | [], _ => .lastItem
  | _ :: _, hv => .item (renders_write hv.append.1) (renders_writeItems hv.append.2)

theorem renders_writeMembers : ∀ {ms : List (String × Json.Value)},
    Portable (Json.Value.numbersOfMembers ms) (Json.Value.stringsOfMembers ms)
      (Json.Value.namesOfMembers ms) → Renders (.members ms) (Json.Value.writeMembers ms)
  | [], _ => .lastMember
  | (name, v) :: ms, hv => by
    obtain ⟨hname, hv, hms⟩ := hv.member
    exact .member (isLiteral_quote hname.1) hname.2 (renders_write hv) (renders_writeMembers hms)

end

/-! ## Runs -/

/-- Scanning on from a state takes so many steps at most, and ends with tokens of some kinds. -/
def Scans (s : Scanner) (n : Nat) (kinds : List TokenKind) : Prop :=
  ∃ tokens, tokens.map Token.kind = kinds ∧ ∀ fuel settled, n ≤ fuel →
    Scanner.run none fuel settled s = { tokens, fault := none }

variable {s s' : Scanner} {n m : Nat} {kinds all : List TokenKind} {rest : List Char} {depth : Nat}
variable {ka : Bool} {p : Part} {t : List Char}

lemma Scans.mono (h : Scans s n kinds) (hle : n ≤ m) : Scans s m kinds := by
  obtain ⟨tokens, hkinds, hrun⟩ := h
  exact ⟨tokens, hkinds, fun fuel settled hfuel => hrun fuel settled (Nat.le_trans hle hfuel)⟩

lemma Scans.of_move (hmove : Move s s') (h : Scans s' n kinds) : Scans s (n + 1) kinds := by
  obtain ⟨t, hstep, hended, hdrop⟩ := hmove
  obtain ⟨tokens, hkinds, hrun⟩ := h
  refine ⟨tokens, hkinds, fun fuel settled hfuel => ?_⟩
  obtain ⟨fuel, rfl⟩ := Nat.exists_eq_add_of_le' (Nat.le_trans (Nat.le_add_left 1 n) hfuel)
  simp only [Scanner.run, Scanner.stepBefore, hstep, hended, Bool.false_eq_true, if_false, hdrop]
  exact hrun fuel _ (Nat.le_of_succ_le_succ hfuel)

/-- Scanning ends with the end of the text. -/
lemma Scans.of_end {t : Scanner} (hstep : s.step = .ok t)
    (hkinds : t.tokens.map Token.kind = .streamEnd :: kinds) :
    Scans s 1 (.streamEnd :: kinds).reverse := by
  have hended : t.ended = true := by
    unfold Scanner.ended
    cases htokens : t.tokens with
    | nil =>
      rw [htokens] at hkinds
      cases hkinds
    | cons token tokens =>
      rw [htokens, List.map_cons, List.cons.injEq] at hkinds
      simp [hkinds.1]
  refine ⟨t.tokens.reverse, by rw [List.map_reverse, hkinds], fun fuel settled hfuel => ?_⟩
  obtain ⟨fuel, rfl⟩ := Nat.exists_eq_add_of_le' hfuel
  simp only [Scanner.run, Scanner.stepBefore, hstep, hended, if_true]

/-- Scanning ends behind the text. -/
lemma scans_end (h : s.At [] kinds depth ka) : Scans s 1 (.streamEnd :: kinds).reverse := by
  obtain ⟨s', hstep, hat, -⟩ := h.step_eq nofun
  obtain ⟨t, hend, hkinds, -⟩ := hat.streamEnd
  exact Scans.of_end (hstep.trans hend) hkinds

/-! ## Scanning -/

/-- A word ends in front of what is left of the items or of the members. -/
lemma Renders.endsPlain (h : Renders p t) (hp : ∀ v, p ≠ .value v) (rest : List Char) :
    EndsPlain (decide (0 < depth + 1)) (t ++ rest) := by
  refine .inr (.inl ⟨decide_eq_true (Nat.succ_pos depth), ?_⟩)
  cases h with
  | lastItem => exact ⟨']', by simp, rfl⟩
  | lastMember => exact ⟨'}', by simp, rfl⟩
  | item | member => exact ⟨',', by simp, rfl⟩
  | _ => exact absurd rfl (hp _)

lemma IsLiteral.two_le_length {text : String} {q : List Char} (hq : IsLiteral text q) :
    2 ≤ q.length := by
  obtain ⟨ps, -, -, rfl⟩ := hq
  simp

/-- A name and the colon behind it are scanned if what follows them is. -/
lemma scans_name {name : String} {q : List Char} (hname : IsLiteral name q)
    (hshort : Text.byteLength q ≤ maxKeyLength)
    (h : s.At (q ++ ':' :: rest) kinds (depth + 1) true)
    (hnext : ∀ s' : Scanner,
      s'.At rest (.value :: .scalar name.toList .quoted :: .key :: kinds) (depth + 1) false →
        Scans s' n all) :
    Scans s (n + 2) all := by
  obtain ⟨s₁, s₂, hmove, hmove', hat⟩ := h.key hname hshort
  exact ((hnext s₂ hat).of_move hmove').of_move hmove

/-- The text of a part is scanned if what follows it is. -/
theorem Renders.scans (h : Renders p t) : ∀ {s : Scanner} {rest : List Char} {kinds : List TokenKind}
    {depth : Nat} {ka : Bool} {n : Nat}, s.At (t ++ rest) kinds (p.depth depth) ka →
    EndsPlain (decide (0 < depth)) rest →
    (∀ s' : Scanner, s'.At rest (p.kinds.reverse ++ kinds) depth false → Scans s' n all) →
    Scans s (n + t.length) all := by
  -- what follows the text is left open, so that the parts of a collection can be scanned in turn
  induction h with
  | @word v hkinds hword =>
    intro s rest kinds depth ka n h hrest hnext
    obtain ⟨s', hmove, hat⟩ := h.word hword hrest
    rw [Part.kinds, hkinds] at hnext
    have hpos : 0 < v.write.length := by
      rw [List.length_pos_iff]
      intro hnil
      rw [hnil] at hword
      exact hword
    exact ((hnext s' hat).of_move hmove).mono (by omega)
  | string hq =>
    intro s rest kinds depth ka n h _ hnext
    obtain ⟨s', hmove, hat, -⟩ := h.string hq
    have hlength := hq.two_le_length
    exact ((hnext s' hat).of_move hmove).mono (by omega)
  | emptyArray =>
    intro s rest kinds depth ka n h _ hnext
    obtain ⟨s₁, hmove, hat⟩ := Scanner.At.openSequence h
    obtain ⟨s₂, hmove', hat'⟩ := Scanner.At.closeSequence hat
    exact ((hnext s₂ hat').of_move hmove').of_move hmove
  | array _ hvs ihv ihvs =>
    intro s rest kinds depth ka n h hrest hnext
    rw [List.cons_append, List.append_assoc] at h
    obtain ⟨s₁, hmove, hat⟩ := h.openSequence
    have hscan := ihv hat (hvs.endsPlain nofun rest) fun s₂ hat₂ =>
      ihvs hat₂ hrest fun s₃ hat₃ => hnext s₃ (by simpa [Part.kinds, Part.depth, tokenKinds] using hat₃)
    refine (hscan.of_move hmove).mono ?_
    simp only [List.length_cons, List.length_append]
    omega
  | emptyObject =>
    intro s rest kinds depth ka n h _ hnext
    obtain ⟨s₁, hmove, hat⟩ := Scanner.At.openMapping h
    obtain ⟨s₂, hmove', hat'⟩ := Scanner.At.closeMapping hat
    exact ((hnext s₂ hat').of_move hmove').of_move hmove
  | object hname hshort _ hms ihv ihms =>
    intro s rest kinds depth ka n h hrest hnext
    have hlength := hname.two_le_length
    rw [List.cons_append, List.append_assoc, List.cons_append, List.append_assoc] at h
    obtain ⟨s₁, hmove, hat⟩ := h.openMapping
    have hscan := scans_name hname hshort hat fun s₂ hat₂ =>
      ihv hat₂ (hms.endsPlain nofun rest) fun s₃ hat₃ => ihms hat₃ hrest fun s₄ hat₄ =>
        hnext s₄ (by simpa [Part.kinds, Part.depth, tokenKinds] using hat₄)
    refine (hscan.of_move hmove).mono ?_
    simp only [List.length_cons, List.length_append]
    omega
  | lastItem =>
    intro s rest kinds depth ka n h _ hnext
    obtain ⟨s', hmove, hat⟩ := Scanner.At.closeSequence h
    exact (hnext s' hat).of_move hmove
  | item _ hvs ihv ihvs =>
    intro s rest kinds depth ka n h hrest hnext
    rw [List.cons_append, List.append_assoc] at h
    obtain ⟨s₁, hmove, hat⟩ := h.comma
    have hscan := ihv hat (hvs.endsPlain nofun rest) fun s₂ hat₂ =>
      ihvs hat₂ hrest fun s₃ hat₃ => hnext s₃ (by simpa [Part.kinds, itemKinds] using hat₃)
    refine (hscan.of_move hmove).mono ?_
    simp only [List.length_cons, List.length_append]
    omega
  | lastMember =>
    intro s rest kinds depth ka n h _ hnext
    obtain ⟨s', hmove, hat⟩ := Scanner.At.closeMapping h
    exact (hnext s' hat).of_move hmove
  | member hname hshort _ hms ihv ihms =>
    intro s rest kinds depth ka n h hrest hnext
    have hlength := hname.two_le_length
    rw [List.cons_append, List.append_assoc, List.cons_append, List.append_assoc] at h
    obtain ⟨s₁, hmove, hat⟩ := h.comma
    have hscan := scans_name hname hshort hat fun s₂ hat₂ =>
      ihv hat₂ (hms.endsPlain nofun rest) fun s₃ hat₃ => ihms hat₃ hrest fun s₄ hat₄ =>
        hnext s₄ (by simpa [Part.kinds, memberKinds] using hat₄)
    refine (hscan.of_move hmove).mono ?_
    simp only [List.length_cons, List.length_append]
    omega

/-! ## Characters -/

/-- A legible character may stand in a text, unless it is a control character. -/
lemma isAllowed_of_legible {ch : Char} (h : Legible ch) (hcontrol : 0x20 ≤ ch.toNat) :
    isAllowed ch = true := by
  obtain ⟨hrange, hnone⟩ := h
  simp only [List.mem_cons, List.not_mem_nil, or_false, not_or] at hnone
  have hvalid : ch.toNat < 0xD800 ∨ 0xDFFF < ch.toNat ∧ ch.toNat < 0x110000 := ch.valid
  simp only [isAllowed, Bool.or_eq_true, Bool.and_eq_true, beq_iff_eq, decide_eq_true_eq]
  omega

/-- No control character stands in the spelling of a character. -/
lemma le_of_mem_spelling {ch : Char} {u : List Char} (hu : Json.Spells ch u) :
    ∀ x ∈ u, 0x20 ≤ x.toNat := by
  cases hu with
  | plain hlow => simpa using hlow
  | @escape name _ h =>
    have hname : 0x20 ≤ name.toNat := by
      unfold Json.simpleEscape at h
      split at h <;> cases h <;> decide
    exact List.forall_mem_cons.mpr ⟨by decide, List.forall_mem_singleton.mpr hname⟩
  | code h =>
    have hhex {x : Char} (hx : Text.isHex x = true) : 0x20 ≤ x.toNat :=
      Nat.le_trans (by decide) (isHex_range hx).1
    simp only [List.forall_mem_cons, List.not_mem_nil, false_implies, implies_true, and_true] at h ⊢
    exact ⟨by decide, by decide, hhex h.1, hhex h.2.1, hhex h.2.2.1, hhex h.2.2.2⟩

lemma IsLiteral.isAllowed {text : String} {q : List Char} (hq : IsLiteral text q) :
    ∀ c ∈ q, isAllowed c = true := by
  obtain ⟨ps, hps, -, rfl⟩ := hq
  rw [List.forall_mem_cons, List.forall_mem_append, List.forall_mem_singleton]
  refine ⟨by decide, fun c hc => ?_, by decide⟩
  obtain ⟨p, hp, hc⟩ := List.mem_flatMap.mp hc
  obtain ⟨hspells, hlegible⟩ := hps p hp
  exact isAllowed_of_legible (hlegible c hc) (le_of_mem_spelling hspells c hc)

lemma isAllowed_of_isPlainChar {ch : Char} (h : IsPlainChar ch) : isAllowed ch = true := by
  have hrange := h.toNat_range
  simp only [isAllowed, Bool.or_eq_true, Bool.and_eq_true, beq_iff_eq, decide_eq_true_eq]
  omega

lemma isAllowed_of_isWord {word : List Char} (h : IsWord word) :
    ∀ c ∈ word, isAllowed c = true := by
  cases word with
  | nil => exact absurd h id
  | cons => exact fun c hc => isAllowed_of_isPlainChar (h.1 c hc)

/-- All characters of the text of a part may stand in a text. -/
theorem Renders.isAllowed (h : Renders p t) : ∀ c ∈ t, isAllowed c = true := by
  induction h with
  | word _ hword => exact isAllowed_of_isWord hword
  | string hq => exact hq.isAllowed
  | emptyArray | emptyObject | lastItem | lastMember => exact List.all_eq_true.mp (by decide)
  | array _ _ ihv ihvs | item _ _ ihv ihvs =>
    rw [List.forall_mem_cons, List.forall_mem_append]
    exact ⟨by decide, ihv, ihvs⟩
  | object hname _ _ _ ihv ihms | member hname _ _ _ ihv ihms =>
    rw [List.forall_mem_cons, List.forall_mem_append, List.forall_mem_cons, List.forall_mem_append]
    exact ⟨by decide, hname.isAllowed, by decide, ihv, ihms⟩

/-! ## Whole texts -/

/-- The text of a tree does not start with the marker of a document. -/
lemma Renders.not_marker {v : Json.Value} (h : Renders (.value v) t) :
    (Scanner.start t).cursor.atDocumentMarker = false := by
  cases h with
  | word _ hword => exact hword.atDocumentMarker_eq_false (List.append_nil _).symm
  | string hq =>
    obtain ⟨ps, -, -, rfl⟩ := hq
    rfl
  | emptyArray | array | emptyObject | object => rfl

/-- A text that may stand as a whole is taken in as a whole. -/
lemma intake_of_allowed {text : List Char} (hallowed : ∀ c ∈ text, isAllowed c = true) :
    Intake.of text = { text, fault := none } := by
  have htake : text.takeWhile isAllowed = text := List.takeWhile_eq_self_iff.mpr hallowed
  simp only [Intake.of, htake, if_true]

/-- The tokens of a text that may stand as a whole are those that are scanned from its start. -/
lemma tokensOf_of_scans {text : List Char} (hallowed : ∀ c ∈ text, isAllowed c = true)
    (h : Scans (Scanner.start text) n kinds) (hle : n ≤ text.length + 2) :
    ∃ tokens, tokensOf text = { tokens, fault := none } ∧ tokens.map Token.kind = kinds := by
  obtain ⟨tokens, hkinds, hrun⟩ := h
  refine ⟨tokens, ?_, hkinds⟩
  simp only [tokensOf, intake_of_allowed hallowed]
  exact hrun _ _ hle

/-- The tokens of the text of a tree are those of the tree, between the start and the end of the
text. -/
theorem Renders.tokensOf_eq {v : Json.Value} (h : Renders (.value v) t) :
    ∃ tokens, tokensOf t = { tokens, fault := none } ∧
      tokens.map Token.kind = .streamStart :: (tokenKinds v ++ [.streamEnd]) := by
  have hstart : (Scanner.start t).At (t ++ []) [.streamStart] 0 true :=
    ⟨(List.append_nil _).symm, h.not_marker, rfl, rfl, rfl, rfl, rfl, nofun, nofun⟩
  have hscan := h.scans hstart (.inl rfl) fun s' hat => scans_end hat
  obtain ⟨tokens, htokens, hkinds⟩ := tokensOf_of_scans h.isAllowed hscan (by omega)
  refine ⟨tokens, htokens, ?_⟩
  rw [hkinds, Part.kinds]
  simp

end AgentManifest.Yaml
