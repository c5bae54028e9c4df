import AgentManifest.Proofs.Yaml.Tokens
import AgentManifest.Yaml.Node.Grammar

/-!
# The nodes of a tree

The tokens of a tree are read as a node that depicts the tree: sequences for arrays, mappings for
objects, quoted scalars for strings and plain ones for all else, without tags and anchors.
-/

namespace AgentManifest.Yaml

open Json (quote)

/-! ## Nodes -/

/-- Nothing is said about a node beside its content. -/
def Properties.Bare (p : Properties) : Prop := p.tag = none ∧ p.anchor = none

mutual

/-- A node is what the tokens of a tree make. -/
def Depicts : Json.Value → Node → Prop
  | .string s, n => ∃ p : Properties, p.Bare ∧ n = .scalar p s.toList .quoted
  | .array vs, n => ∃ (p : Properties) (ns : List Node), p.Bare ∧ n = .sequence p ns ∧ DepictsItems vs ns
  | .object ms, n =>
    ∃ (p : Properties) (es : List (Node × Node)), p.Bare ∧ n = .mapping p es ∧ DepictsMembers ms es
  | v, n => ∃ p : Properties, p.Bare ∧ n = .scalar p v.write .plain

/-- Nodes are what the tokens of items make. -/
def DepictsItems : List Json.Value → List Node → Prop
  | [], ns => ns = []
  | v :: vs, ns => ∃ n ns', ns = n :: ns' ∧ Depicts v n ∧ DepictsItems vs ns'

/-- Pairs of nodes are what the tokens of members make. -/
def DepictsMembers : List (String × Json.Value) → List (Node × Node) → Prop
  | [], es => es = []
  | (k, v) :: ms, es =>
    ∃ (p : Properties) (n : Node) (es' : List (Node × Node)), p.Bare ∧
      es = (.scalar p k.toList .quoted, n) :: es' ∧ Depicts v n ∧ DepictsMembers ms es'

end

/-! ## Single nodes -/

variable {place : NodePlace} {fuel : Nat} {s s' : Source} {token : Token} {tokens : List Token}
variable {more : List TokenKind}

/-- The properties of a node that starts at a token without a preamble. -/
def bareAt (token : Token) : Properties := { mark := token.start, tag := none, anchor := none }

lemma bare_bareAt (token : Token) : (bareAt token).Bare := ⟨rfl, rfl⟩

lemma node_scalar {text : List Char} {style : Style} (h : s.tokens = token :: tokens)
    (hkind : token.kind = .scalar text style) :
    node place (fuel + 1) s = (.scalar (bareAt token) text style, some s.next) := by
  simp only [node, Source.peek, h, hkind, Source.preamble, Source.resolveTag, Source.register, bind,
    Except.bind]
  rfl

lemma node_sequence (h : s.tokens = token :: tokens) (hkind : token.kind = .flowSequenceStart) :
    node place (fuel + 1) s = (.sequence (bareAt token) (flowSequence fuel true token.start s.next).1,
      (flowSequence fuel true token.start s.next).2) := by
  simp only [node, Source.peek, h, hkind, Source.preamble, Source.resolveTag, Source.register, bind,
    Except.bind]
  rfl

lemma node_mapping (h : s.tokens = token :: tokens) (hkind : token.kind = .flowMappingStart) :
    node place (fuel + 1) s = (.mapping (bareAt token) (flowMapping fuel true token.start s.next).1,
      (flowMapping fuel true token.start s.next).2) := by
  simp only [node, Source.peek, h, hkind, Source.preamble, Source.resolveTag, Source.register, bind,
    Except.bind]
  rfl

/-- The first token of a node in a flow collection. -/
def OpensNode (kind : TokenKind) : Prop :=
  (∃ text style, kind = .scalar text style) ∨ kind = .flowSequenceStart ∨ kind = .flowMappingStart

lemma exists_tokenKinds_eq_cons (v : Json.Value) :
    ∃ kind kinds, tokenKinds v = kind :: kinds ∧ OpensNode kind := by
  cases v with
  | null => exact ⟨_, _, rfl, .inl ⟨_, _, rfl⟩⟩
  | bool => exact ⟨_, _, rfl, .inl ⟨_, _, rfl⟩⟩
  | number => exact ⟨_, _, rfl, .inl ⟨_, _, rfl⟩⟩
  | string => exact ⟨_, _, rfl, .inl ⟨_, _, rfl⟩⟩
  | array vs => cases vs <;> exact ⟨_, _, rfl, .inr (.inl rfl)⟩
  | object ms => cases ms <;> exact ⟨_, _, rfl, .inr (.inr rfl)⟩

/-! ## Collections -/

lemma flowSequence_end {first : Bool} {start : Mark} (h : s.tokens = token :: tokens)
    (hkind : token.kind = .flowSequenceEnd) :
    flowSequence (fuel + 1) first start s = ([], some s.next) := by
  simp [flowSequence, separated, Source.peek, h, hkind, bind, Except.bind]

/-- An item is read behind a comma, or as the first one. -/
lemma flowSequence_item {first : Bool} {start : Mark} {item : Node} {items : List Node}
    {s₁ s₂ : Source} {end' : Option Source}
    (hsep : separated first .flowSequenceEnd .sequenceCommaExpected .flowSequence start s =
      .ok (token, s₁)) (hkind : OpensNode token.kind)
    (hitem : node .flow fuel s₁ = (item, some s₂))
    (hitems : flowSequence fuel false start s₂ = (items, end')) :
    flowSequence (fuel + 1) first start s = (item :: items, end') := by
  rcases hkind with ⟨text, style, hkind⟩ | hkind | hkind <;>
    simp only [flowSequence, hsep, hkind, hitem, hitems]

lemma separated_first {close : TokenKind} {problem : Problem} {construct : Construct} {start : Mark}
    (h : s.tokens = token :: tokens) :
    separated true close problem construct start s = .ok (token, s) := by
  simp [separated, Source.peek, h, bind, Except.bind]

lemma separated_comma {close : TokenKind} {problem : Problem} {construct : Construct} {start : Mark}
    {comma : Token} (h : s.tokens = comma :: token :: tokens) (hkind : comma.kind = .flowEntry)
    (hclose : close ≠ .flowEntry) :
    separated false close problem construct start s = .ok (token, s.next) := by
  have hne : (TokenKind.flowEntry == close) = false := beq_eq_false_iff_ne.mpr hclose.symm
  simp [separated, Source.peek, h, hkind, hne, Source.next, bind, Except.bind]

lemma flowMapping_end {first : Bool} {start : Mark} (h : s.tokens = token :: tokens)
    (hkind : token.kind = .flowMappingEnd) :
    flowMapping (fuel + 1) first start s = ([], some s.next) := by
  simp [flowMapping, separated, Source.peek, h, hkind, bind, Except.bind]

lemma OpensNode.not_endsFlowValue {kind : TokenKind} (h : OpensNode kind) :
    endsFlowValue .flowMappingEnd kind = false := by
  rcases h with ⟨text, style, rfl⟩ | rfl | rfl <;> simp [endsFlowValue]

/-- A member is read behind a comma, or as the first one. -/
lemma flowMapping_member {first : Bool} {start : Mark} {name : List Char} {after : Token}
    {nameToken valueToken : Token} {value : Node} {entries : List (Node × Node)}
    {s₁ s₂ : Source} {end' : Option Source}
    (hsep : separated first .flowMappingEnd .mappingCommaExpected .flowMapping start s =
      .ok (token, s₁))
    (htokens : s₁.tokens = token :: nameToken :: valueToken :: after :: tokens)
    (hkey : token.kind = .key) (hname : nameToken.kind = .scalar name .quoted)
    (hvalue : valueToken.kind = .value) (hafter : OpensNode after.kind)
    (hnode : node .flow (fuel + 1) s₁.next.next.next = (value, some s₂))
    (hentries : flowMapping (fuel + 2) false start s₂ = (entries, end')) :
    flowMapping (fuel + 3) first start s =
      ((.scalar (bareAt nameToken) name .quoted, value) :: entries, end') := by
  have hends : endsFlowKey .flowMappingEnd nameToken.kind = false := by
    rw [hname]
    simp [endsFlowKey, endsFlowValue]
  have hflowKey : flowKey (fuel + 2) s₁.next =
      (.scalar (bareAt nameToken) name .quoted, some s₁.next.next) := by
    have hpeek : s₁.next.tokens = nameToken :: valueToken :: after :: tokens := by
      rw [Source.next, htokens]
      rfl
    rw [flowKey]
    simp only [Source.peek, hpeek, hends, Bool.false_eq_true, if_false]
    exact node_scalar hpeek hname
  have hflowValue : flowValue .flowMappingEnd (fuel + 2) s₁.next.next = (value, some s₂) := by
    have hpeek : s₁.next.next.tokens = valueToken :: after :: tokens := by
      rw [Source.next, Source.next, htokens]
      rfl
    have hpeek' : s₁.next.next.next.tokens = after :: tokens := by
      rw [Source.next, hpeek]
      rfl
    rw [flowValue]
    simp only [Source.peek, hpeek, hvalue, hpeek', hafter.not_endsFlowValue, Bool.false_eq_true,
      if_false, hnode]
  rw [flowMapping]
  simp only [hsep, hkey, hflowKey, hflowValue, hentries]

/-! ## Trees -/

/-- What is left behind the first token. -/
lemma kinds_next {kind : TokenKind} (h : s.tokens.map Token.kind = kind :: more) :
    ∃ token tokens, s.tokens = token :: tokens ∧ token.kind = kind ∧ s.next.tokens = tokens ∧
      s.next.tokens.map Token.kind = more := by
  cases htokens : s.tokens with
  | nil =>
    rw [htokens] at h
    cases h
  | cons token tokens =>
    rw [htokens, List.map_cons, List.cons.injEq] at h
    have hnext : s.next.tokens = tokens := by
      rw [Source.next, htokens]
      rfl
    exact ⟨token, tokens, rfl, h.1, hnext, by rw [hnext]; exact h.2⟩

/-- The first token of a tree opens a node. -/
lemma kinds_opens {v : Json.Value} (h : s.tokens.map Token.kind = tokenKinds v ++ more) :
    ∃ token tokens, s.tokens = token :: tokens ∧ OpensNode token.kind := by
  obtain ⟨kind, kinds, hkinds, hopens⟩ := exists_tokenKinds_eq_cons v
  rw [hkinds, List.cons_append] at h
  obtain ⟨token, tokens, htokens, hkind, -⟩ := kinds_next h
  exact ⟨token, tokens, htokens, hkind ▸ hopens⟩

/-- The first tokens of a member. -/
lemma kinds_member {name : List Char} {v : Json.Value}
    (h : s.tokens.map Token.kind =
      .key :: .scalar name .quoted :: .value :: (tokenKinds v ++ more)) :
    ∃ token nameToken valueToken after tokens,
      s.tokens = token :: nameToken :: valueToken :: after :: tokens ∧ token.kind = .key ∧
        nameToken.kind = .scalar name .quoted ∧ valueToken.kind = .value ∧ OpensNode after.kind ∧
        s.next.next.next.tokens.map Token.kind = tokenKinds v ++ more := by
  obtain ⟨token, t₁, h₁, hkey, hnext₁, hkinds₁⟩ := kinds_next h
  obtain ⟨nameToken, t₂, h₂, hname, hnext₂, hkinds₂⟩ := kinds_next hkinds₁
  obtain ⟨valueToken, t₃, h₃, hvalue, hnext₃, hkinds₃⟩ := kinds_next hkinds₂
  obtain ⟨after, t₄, h₄, hafter⟩ := kinds_opens hkinds₃
  refine ⟨token, nameToken, valueToken, after, t₄, ?_, hkey, hname, hvalue, hafter, hkinds₃⟩
  rw [h₁, ← hnext₁, h₂, ← hnext₂, h₃, ← hnext₃, h₄]

lemma node_scalarKinds {text : List Char} {style : Style} (place : NodePlace)
    (h : s.tokens.map Token.kind = .scalar text style :: more) (hfuel : 1 ≤ fuel) :
    ∃ p : Properties, p.Bare ∧ node place fuel s = (.scalar p text style, some s.next) ∧
      s.next.tokens.map Token.kind = more := by
  obtain ⟨token, tokens, htokens, hkind, -, hmore⟩ := kinds_next h
  obtain ⟨fuel, rfl⟩ := Nat.exists_eq_add_of_le' hfuel
  exact ⟨bareAt token, bare_bareAt token, node_scalar htokens hkind, hmore⟩

lemma itemKinds_pos (vs : List Json.Value) : 1 ≤ (itemKinds vs).length := by
  cases vs <;> simp [itemKinds]

lemma memberKinds_pos (ms : List (String × Json.Value)) : 1 ≤ (memberKinds ms).length := by
  cases ms <;> simp [memberKinds]

lemma tokenKinds_pos (v : Json.Value) : 1 ≤ (tokenKinds v).length := by
  obtain ⟨kind, kinds, hkinds, -⟩ := exists_tokenKinds_eq_cons v
  rw [hkinds]
  exact Nat.succ_pos _

mutual

/-- The tokens of a tree are read as a node that depicts it. -/
theorem node_tokenKinds : ∀ (v : Json.Value) (place : NodePlace) {fuel : Nat} {s : Source}
    {more : List TokenKind}, s.tokens.map Token.kind = tokenKinds v ++ more →
    (tokenKinds v).length ≤ fuel →
    ∃ n s', node place fuel s = (n, some s') ∧ s'.tokens.map Token.kind = more ∧ Depicts v n
  | .null, place, _, s, _, h, hfuel => by
    obtain ⟨p, hp, hnode, hmore⟩ := node_scalarKinds place h hfuel
    exact ⟨_, s.next, hnode, hmore, p, hp, rfl⟩
  | .bool b, place, _, s, _, h, hfuel => by
    obtain ⟨p, hp, hnode, hmore⟩ := node_scalarKinds place h hfuel
    exact ⟨_, s.next, hnode, hmore, p, hp, rfl⟩
  | .number n, place, _, s, _, h, hfuel => by
    obtain ⟨p, hp, hnode, hmore⟩ := node_scalarKinds place h hfuel
    exact ⟨_, s.next, hnode, hmore, p, hp, rfl⟩
  | .string text, place, _, s, _, h, hfuel => by
    obtain ⟨p, hp, hnode, hmore⟩ := node_scalarKinds place h hfuel
    exact ⟨_, s.next, hnode, hmore, p, hp, rfl⟩
  | .array [], place, fuel, s, more, h, hfuel => by
    obtain ⟨token, tokens, htokens, hkind, -, hnext⟩ := kinds_next h
    obtain ⟨token', tokens', htokens', hkind', -, hmore⟩ := kinds_next hnext
    obtain ⟨fuel, rfl⟩ := Nat.exists_eq_add_of_le' (show 2 ≤ fuel from hfuel)
    refine ⟨_, s.next.next, ?_, hmore, bareAt token, [], bare_bareAt token, rfl, rfl⟩
    rw [node_sequence htokens hkind, flowSequence_end htokens' hkind']
  | .array (v :: vs), place, fuel, s, more, h, hfuel => by
    rw [tokenKinds, List.length_cons, List.length_append] at hfuel
    have hv := tokenKinds_pos v
    have hvs := itemKinds_pos vs
    obtain ⟨fuel, rfl⟩ := Nat.exists_eq_add_of_le' (show 2 ≤ fuel by omega)
    rw [tokenKinds, List.cons_append, List.append_assoc] at h
    obtain ⟨token, tokens, htokens, hkind, -, hnext⟩ := kinds_next h
    obtain ⟨token', tokens', htokens', hopens⟩ := kinds_opens hnext
    obtain ⟨n, s₁, hnode, hmore₁, hn⟩ :=
      node_tokenKinds v .flow hnext (show (tokenKinds v).length ≤ fuel by omega)
    obtain ⟨ns, s₂, hitems, hmore₂, hns⟩ :=
      flowSequence_itemKinds vs token.start hmore₁ (show (itemKinds vs).length ≤ fuel by omega)
    refine ⟨_, s₂, ?_, hmore₂, bareAt token, n :: ns, bare_bareAt token, rfl, n, ns, rfl, hn, hns⟩
    rw [node_sequence htokens hkind,
      flowSequence_item (separated_first htokens') hopens hnode hitems]
  | .object [], place, fuel, s, more, h, hfuel => by
    obtain ⟨token, tokens, htokens, hkind, -, hnext⟩ := kinds_next h
    obtain ⟨token', tokens', htokens', hkind', -, hmore⟩ := kinds_next hnext
    obtain ⟨fuel, rfl⟩ := Nat.exists_eq_add_of_le' (show 2 ≤ fuel from hfuel)
    refine ⟨_, s.next.next, ?_, hmore, bareAt token, [], bare_bareAt token, rfl, rfl⟩
    rw [node_mapping htokens hkind, flowMapping_end htokens' hkind']
  | .object ((name, v) :: ms), place, fuel, s, more, h, hfuel => by
    simp only [tokenKinds, List.length_cons, List.length_append] at hfuel
    have hms := memberKinds_pos ms
    obtain ⟨fuel, rfl⟩ := Nat.exists_eq_add_of_le' (show 4 ≤ fuel by omega)
    simp only [tokenKinds, List.cons_append, List.append_assoc] at h
    obtain ⟨token, tokens, htokens, hkind, -, hnext⟩ := kinds_next h
    obtain ⟨keyToken, nameToken, valueToken, after, tokens', htokens', hkey, hname, hvalue, hafter,
      hrest⟩ := kinds_member hnext
    obtain ⟨n, s₁, hnode, hmore₁, hn⟩ :=
      node_tokenKinds v .flow hrest (show (tokenKinds v).length ≤ fuel + 1 by omega)
    obtain ⟨es, s₂, hentries, hmore₂, hes⟩ :=
      flowMapping_memberKinds ms token.start hmore₁
        (show (memberKinds ms).length ≤ fuel + 2 by omega)
    refine ⟨_, s₂, ?_, hmore₂, bareAt token,
      (.scalar (bareAt nameToken) name.toList .quoted, n) :: es, bare_bareAt token, rfl,
      bareAt nameToken, n, es, bare_bareAt nameToken, rfl, hn, hes⟩
    rw [node_mapping htokens hkind, flowMapping_member (separated_first htokens') htokens' hkey
      hname hvalue hafter hnode hentries]

theorem flowSequence_itemKinds : ∀ (vs : List Json.Value) (start : Mark) {fuel : Nat} {s : Source}
    {more : List TokenKind}, s.tokens.map Token.kind = itemKinds vs ++ more →
    (itemKinds vs).length ≤ fuel →
    ∃ ns s', flowSequence fuel false start s = (ns, some s') ∧ s'.tokens.map Token.kind = more ∧
      DepictsItems vs ns
  | [], start, fuel, s, more, h, hfuel => by
    obtain ⟨token, tokens, htokens, hkind, -, hmore⟩ := kinds_next h
    obtain ⟨fuel, rfl⟩ := Nat.exists_eq_add_of_le' hfuel
    exact ⟨[], s.next, flowSequence_end htokens hkind, hmore, rfl⟩
  | v :: vs, start, fuel, s, more, h, hfuel => by
    rw [itemKinds, List.length_cons, List.length_append] at hfuel
    have hvs := itemKinds_pos vs
    obtain ⟨fuel, rfl⟩ := Nat.exists_eq_add_of_le' (show 1 ≤ fuel by omega)
    rw [itemKinds, List.cons_append, List.append_assoc] at h
    obtain ⟨comma, tokens, htokens, hkind, hrest, hnext⟩ := kinds_next h
    obtain ⟨token, tokens', htokens', hopens⟩ := kinds_opens hnext
    rw [← hrest, htokens'] at htokens
    obtain ⟨n, s₁, hnode, hmore₁, hn⟩ :=
      node_tokenKinds v .flow hnext (show (tokenKinds v).length ≤ fuel by omega)
    obtain ⟨ns, s₂, hitems, hmore₂, hns⟩ :=
      flowSequence_itemKinds vs start hmore₁ (show (itemKinds vs).length ≤ fuel by omega)
    exact ⟨n :: ns, s₂,
      flowSequence_item (separated_comma htokens hkind nofun) hopens hnode hitems, hmore₂, n, ns,
      rfl, hn, hns⟩

theorem flowMapping_memberKinds : ∀ (ms : List (String × Json.Value)) (start : Mark) {fuel : Nat}
    {s : Source} {more : List TokenKind}, s.tokens.map Token.kind = memberKinds ms ++ more →
    (memberKinds ms).length ≤ fuel →
    ∃ es s', flowMapping fuel false start s = (es, some s') ∧ s'.tokens.map Token.kind = more ∧
      DepictsMembers ms es
  | [], start, fuel, s, more, h, hfuel => by
    obtain ⟨token, tokens, htokens, hkind, -, hmore⟩ := kinds_next h
    obtain ⟨fuel, rfl⟩ := Nat.exists_eq_add_of_le' hfuel
    exact ⟨[], s.next, flowMapping_end htokens hkind, hmore, rfl⟩
  | (name, v) :: ms, start, fuel, s, more, h, hfuel => by
    simp only [memberKinds, List.length_cons, List.length_append] at hfuel
    have hms := memberKinds_pos ms
    obtain ⟨fuel, rfl⟩ := Nat.exists_eq_add_of_le' (show 3 ≤ fuel by omega)
    simp only [memberKinds, List.cons_append, List.append_assoc] at h
    obtain ⟨comma, tokens, htokens, hkind, hrest, hnext⟩ := kinds_next h
    obtain ⟨keyToken, nameToken, valueToken, after, tokens', htokens', hkey, hname, hvalue, hafter,
      hbehind⟩ := kinds_member hnext
    rw [← hrest, htokens'] at htokens
    obtain ⟨n, s₁, hnode, hmore₁, hn⟩ :=
      node_tokenKinds v .flow hbehind (show (tokenKinds v).length ≤ fuel + 1 by omega)
    obtain ⟨es, s₂, hentries, hmore₂, hes⟩ :=
      flowMapping_memberKinds ms start hmore₁
        (show (memberKinds ms).length ≤ fuel + 2 by omega)
    exact ⟨(.scalar (bareAt nameToken) name.toList .quoted, n) :: es, s₂,
      flowMapping_member (separated_comma htokens hkind nofun) htokens' hkey hname hvalue hafter
        hnode hentries, hmore₂, bareAt nameToken, n, es, bare_bareAt nameToken, rfl, hn, hes⟩

end

/-! ## Documents -/

/-- Tokens of some kinds are read as a node with some property, whatever stands behind them. -/
def ReadsNode (place : NodePlace) (fuel : Nat) (kinds : List TokenKind) (P : Node → Prop) : Prop :=
  ∀ (s : Source) (more : List TokenKind), s.tokens.map Token.kind = kinds ++ more →
    ∃ n s', node place fuel s = (n, some s') ∧ s'.tokens.map Token.kind = more ∧ P n

/-- Whether a document may start at a token with its root. -/
def OpensRoot : TokenKind → Prop
  | .streamEnd | .version _ _ | .tagHandle _ _ | .documentStart => False
  | _ => True

lemma OpensNode.opensRoot {kind : TokenKind} (h : OpensNode kind) : OpensRoot kind := by
  rcases h with ⟨text, style, rfl⟩ | rfl | rfl <;> trivial

/-- A text whose tokens are those of a node has that node for its document. -/
lemma document_of_readsNode {text : List Char} {tokens : List Token} {kind : TokenKind}
    {kinds : List TokenKind} {P : Node → Prop}
    (hscan : tokensOf text = { tokens, fault := none })
    (hkinds : tokens.map Token.kind = .streamStart :: (kind :: kinds ++ [.streamEnd]))
    (hopens : OpensRoot kind)
    (hreads : ReadsNode .block (2 * (kinds.length + 2) + 4) (kind :: kinds) P) :
    ∃ root, Document.ofText text = { root := some root, fault := none, followed := false } ∧
      P root := by
  have hstart : (Source.ofText text).tokens.map Token.kind =
      .streamStart :: (kind :: kinds ++ [.streamEnd]) := by
    rw [Source.ofText, hscan]
    exact hkinds
  obtain ⟨-, -, -, -, -, hnext⟩ := kinds_next hstart
  obtain ⟨first, others, hfirst, rfl, -⟩ := kinds_next hnext
  have hlength : (Source.ofText text).next.tokens.length = kinds.length + 2 := by
    have hcount := congrArg List.length hnext
    rwa [List.length_map, List.length_append] at hcount
  obtain ⟨root, s, hnode, hmore, hroot⟩ := hreads _ _ hnext
  obtain ⟨last, behind, hlast, hend, -⟩ := kinds_next hmore
  refine ⟨root, ?_, hroot⟩
  have hclose : closeDocument (root, some s) =
      { root := some root, fault := none, followed := false } := by
    simp [closeDocument, Source.peek, hlast, hend, followed]
  rw [← hclose, ← hnode, ← hlength, Document.ofText]
  simp only [Source.peek, hfirst]
  cases hkind : first.kind with
  | streamEnd | version | tagHandle | documentStart =>
    rw [hkind] at hopens
    exact hopens.elim
  | _ => rfl

/-- The document in a text of a tree has a root that depicts the tree, and nothing more. -/
theorem Renders.document {v : Json.Value} {t : List Char} (h : Renders (.value v) t) :
    ∃ root, Document.ofText t = { root := some root, fault := none, followed := false } ∧
      Depicts v root := by
  obtain ⟨tokens, hscan, hkinds⟩ := h.tokensOf_eq
  obtain ⟨kind, kinds, hcons, hopens⟩ := exists_tokenKinds_eq_cons v
  have hlength : (tokenKinds v).length ≤ 2 * (kinds.length + 2) + 4 := by
    rw [hcons, List.length_cons]
    omega
  have hreads : ReadsNode .block (2 * (kinds.length + 2) + 4) (tokenKinds v) (Depicts v) :=
    fun s more h => node_tokenKinds v .block h hlength
  rw [hcons] at hkinds hreads
  exact document_of_readsNode hscan hkinds hopens.opensRoot hreads

end AgentManifest.Yaml
