import AgentManifest.Proofs.Yaml.Nodes

/-!
# The nodes of block collections

Tokens that stand for a node are read as that node whatever stands behind them. A block collection
is read entry by entry up to the token that ends it.
-/

namespace AgentManifest.Yaml

/-- Tokens of some kinds are read as the entries of a block mapping that are left. -/
def ReadsEntries (fuel : Nat) (kinds : List TokenKind) (P : List (Node × Node) → Prop) : Prop :=
  ∀ (start : Mark) (s : Source) (more : List TokenKind), s.tokens.map Token.kind = kinds ++ more →
    ∃ es s', blockMapping fuel start s = (es, some s') ∧ s'.tokens.map Token.kind = more ∧ P es

/-- Tokens of some kinds are read as the items of a block sequence that are left. -/
def ReadsItems (fuel : Nat) (kinds : List TokenKind) (P : List Node → Prop) : Prop :=
  ∀ (start : Mark) (s : Source) (more : List TokenKind), s.tokens.map Token.kind = kinds ++ more →
    ∃ ns s', blockSequence fuel start s = (ns, some s') ∧ s'.tokens.map Token.kind = more ∧ P ns

/-- A token at which a node of a block collection starts. -/
def OpensBlockNode (kind : TokenKind) : Prop :=
  (∃ text style, kind = .scalar text style) ∨ kind = .blockSequenceStart ∨
    kind = .blockMappingStart

lemma OpensBlockNode.not_ends {kind : TokenKind} (h : OpensBlockNode kind) :
    endsBlockEntry kind = false ∧ endsSequenceEntry kind = false := by
  rcases h with ⟨text, style, rfl⟩ | rfl | rfl <;> exact ⟨rfl, rfl⟩

variable {place : NodePlace} {fuel : Nat} {kinds kinds' : List TokenKind} {kind : TokenKind}
variable {text : List Char} {style : Style}

/-! ## Nodes -/

lemma readsNode_scalar (place : NodePlace) (fuel : Nat) (text : List Char) (style : Style) :
    ReadsNode place (fuel + 1) [.scalar text style]
      fun n => ∃ p : Properties, p.Bare ∧ n = .scalar p text style := by
  intro s more h
  obtain ⟨p, hp, hnode, hmore⟩ := node_scalarKinds place h (Nat.le_add_left 1 fuel)
  exact ⟨_, s.next, hnode, hmore, p, hp, rfl⟩

lemma readsNode_mapping {P : List (Node × Node) → Prop} (hplace : place ≠ .flow)
    (h : ReadsEntries fuel kinds P) :
    ReadsNode place (fuel + 1) (.blockMappingStart :: kinds)
      fun n => ∃ (p : Properties) (es : List (Node × Node)), p.Bare ∧ n = .mapping p es ∧ P es := by
  intro s more hkinds
  obtain ⟨token, tokens, htokens, hkind, -, hnext⟩ := kinds_next hkinds
  obtain ⟨es, s', hread, hmore, hes⟩ := h token.start s.next more hnext
  refine ⟨.mapping (bareAt token) es, s', ?_, hmore, bareAt token, es, bare_bareAt token, rfl, hes⟩
  simp only [node, Source.peek, htokens, hkind, Source.preamble, Source.resolveTag, Source.register,
    bind, Except.bind, hplace, if_false, hread]
  rfl

lemma readsNode_sequence {P : List Node → Prop} (hplace : place ≠ .flow)
    (h : ReadsItems fuel kinds P) :
    ReadsNode place (fuel + 1) (.blockSequenceStart :: kinds)
      fun n => ∃ (p : Properties) (ns : List Node), p.Bare ∧ n = .sequence p ns ∧ P ns := by
  intro s more hkinds
  obtain ⟨token, tokens, htokens, hkind, -, hnext⟩ := kinds_next hkinds
  obtain ⟨ns, s', hread, hmore, hns⟩ := h token.start s.next more hnext
  refine ⟨.sequence (bareAt token) ns, s', ?_, hmore, bareAt token, ns, bare_bareAt token, rfl, hns⟩
  simp only [node, Source.peek, htokens, hkind, Source.preamble, Source.resolveTag, Source.register,
    bind, Except.bind, hplace, if_false, hread]
  rfl

/-- What stands behind an indicator is read as a node if one starts there. -/
lemma itemAfter_of_opens {left : TokenKind → Bool} {s : Source} {mark : Mark}
    {more : List TokenKind} (hkinds : s.tokens.map Token.kind = kind :: more)
    (hleft : left kind = false) :
    itemAfter place left (fuel + 1) mark s = node place fuel s := by
  obtain ⟨token, tokens, htokens, hkind, -⟩ := kinds_next hkinds
  rw [itemAfter]
  simp only [Source.peek, htokens, hkind, hleft, Bool.false_eq_true, if_false]

/-! ## Collections -/

lemma readsEntries_end (fuel : Nat) : ReadsEntries (fuel + 1) [.blockEnd] fun es => es = [] := by
  intro start s more hkinds
  obtain ⟨token, tokens, htokens, hkind, -, hnext⟩ := kinds_next hkinds
  refine ⟨[], s.next, ?_, hnext, rfl⟩
  simp only [blockMapping, Source.peek, htokens, hkind]

/-- An entry whose key is a plain scalar is read in front of the others. -/
lemma readsEntries_entry {P : Node → Prop} {Q : List (Node × Node) → Prop} (name : List Char)
    (hopens : OpensBlockNode kind) (hnode : ReadsNode .blockEntry fuel (kind :: kinds) P)
    (hentries : ReadsEntries (fuel + 2) kinds' Q) :
    ReadsEntries (fuel + 3)
      (.key :: .scalar name .plain :: .value :: (kind :: kinds ++ kinds')) fun es =>
        ∃ (p : Properties) (n : Node) (es' : List (Node × Node)), p.Bare ∧
          es = (.scalar p name .plain, n) :: es' ∧ P n ∧ Q es' := by
  intro start s more hkinds
  obtain ⟨keyToken, tokens, htokens, hkey, -, hname⟩ := kinds_next hkinds
  have hfuel : 1 ≤ fuel + 1 := Nat.le_add_left 1 fuel
  obtain ⟨p, hp, hscalar, hvalue⟩ := node_scalarKinds .blockEntry hname hfuel
  obtain ⟨valueToken, tokens', htokens', hvalueKind, -, hafter⟩ := kinds_next hvalue
  have hbehind := hafter.trans (List.append_assoc (kind :: kinds) kinds' more)
  obtain ⟨n, s₁, hread, hmore₁, hn⟩ := hnode s.next.next.next (kinds' ++ more) hbehind
  obtain ⟨es, s₂, hreads, hmore₂, hes⟩ := hentries start s₁ more hmore₁
  refine ⟨(.scalar p name .plain, n) :: es, s₂, ?_, hmore₂, p, n, es, hp, rfl, hn, hes⟩
  have hkeyNode : itemAfter .blockEntry endsBlockEntry (fuel + 2) keyToken.stop s.next =
      (.scalar p name .plain, some s.next.next) := by
    rw [itemAfter_of_opens hname rfl, hscalar]
  have hvalueNode : blockValue (fuel + 2) s.next.next = (n, some s₁) := by
    rw [blockValue]
    simp only [Source.peek, htokens', hvalueKind]
    rw [itemAfter_of_opens hbehind hopens.not_ends.1, hread]
  rw [blockMapping]
  simp only [Source.peek, htokens, hkey, hkeyNode, hvalueNode, hreads]

lemma readsItems_end (fuel : Nat) : ReadsItems (fuel + 1) [.blockEnd] fun ns => ns = [] := by
  intro start s more hkinds
  obtain ⟨token, tokens, htokens, hkind, -, hnext⟩ := kinds_next hkinds
  refine ⟨[], s.next, ?_, hnext, rfl⟩
  simp only [blockSequence, Source.peek, htokens, hkind]

/-- An item is read in front of the others. -/
lemma readsItems_item {P : Node → Prop} {Q : List Node → Prop} (hopens : OpensBlockNode kind)
    (hnode : ReadsNode .block fuel (kind :: kinds) P) (hitems : ReadsItems (fuel + 1) kinds' Q) :
    ReadsItems (fuel + 2) (.blockEntry :: (kind :: kinds ++ kinds')) fun ns =>
      ∃ (n : Node) (ns' : List Node), ns = n :: ns' ∧ P n ∧ Q ns' := by
  intro start s more hkinds
  obtain ⟨token, tokens, htokens, hentry, -, hafter⟩ := kinds_next hkinds
  have hbehind := hafter.trans (List.append_assoc (kind :: kinds) kinds' more)
  obtain ⟨n, s₁, hread, hmore₁, hn⟩ := hnode s.next (kinds' ++ more) hbehind
  obtain ⟨ns, s₂, hreads, hmore₂, hns⟩ := hitems start s₁ more hmore₁
  refine ⟨n :: ns, s₂, ?_, hmore₂, n, ns, rfl, hn, hns⟩
  have hitem : itemAfter .block endsSequenceEntry (fuel + 1) token.stop s.next = (n, some s₁) := by
    rw [itemAfter_of_opens hbehind hopens.not_ends.2, hread]
  rw [blockSequence]
  simp only [Source.peek, htokens, hentry, hitem, hreads]

end AgentManifest.Yaml
