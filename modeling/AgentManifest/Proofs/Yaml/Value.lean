import AgentManifest.Proofs.Yaml.Meaning
import AgentManifest.Proofs.Yaml.Nodes
import AgentManifest.Yaml.Reader
import AgentManifest.Yaml.Value

/-!
# The value of a tree

A node that depicts a tree has the tree for its value, and turned into JSON that value is the tree
again. The names of an object stay apart and in order, so that no member is lost.
-/

namespace AgentManifest.Yaml

mutual

/-- A JSON value as a YAML value. -/
def Value.ofJson : Json.Value → Value
  | .null => .null
  | .bool b => .bool b
  | .number n => .number n
  | .string s => .string s
  | .array vs => .sequence (Value.ofItems vs)
  | .object ms => .mapping (Value.ofMembers ms)

/-- Items as YAML values. -/
def Value.ofItems : List Json.Value → List Value
  | [] => []
  | v :: vs => Value.ofJson v :: Value.ofItems vs

/-- Members as entries of a mapping. -/
def Value.ofMembers : List (String × Json.Value) → List (Value × Value)
  | [] => []
  | (k, v) :: ms => (.string k, Value.ofJson v) :: Value.ofMembers ms

end

/-! ## The value of a node -/

variable {anchors : Anchors} {depth : Nat} {path : List Step} {p : Properties}

lemma Properties.Bare.withTag (h : p.Bare) (v : Value) : Yaml.withTag p v = v := by
  rw [Yaml.withTag, h.1]
  rfl

lemma nodeValue_scalar {text : List Char} {style : Style} {m : Meaning} {v : Value} (hp : p.Bare)
    (hm : (if style = .plain then plainMeaning text else .text) = m) (hv : m.value text = .ok v) :
    nodeValue anchors depth path (.scalar p text style) = pure v := by
  have hvalue : scalarValue p text style = .ok v := by
    have htag : localTag? none = none := rfl
    simp only [scalarValue, hp.1, htag, meaning, Option.isSome_none, Bool.false_eq_true, if_false,
      hm, hv, bind, Except.bind, hp.withTag]
  cases depth with
  | zero => simp only [nodeValue, Anchors.follow, pure_bind, contentValue, hvalue]
  | succ depth => simp only [nodeValue, Anchors.follow, pure_bind, contentValue, hvalue]

lemma nodeValue_quoted (hp : p.Bare) (s : String) :
    nodeValue anchors depth path (.scalar p s.toList .quoted) = pure (.string s) := by
  refine nodeValue_scalar hp rfl ?_
  rw [if_neg (by decide), Meaning.value, String.ofList_toList]

lemma nodeValue_plain (hp : p.Bare) {s : String} (hmeaning : plainMeaning s.toList = .text) :
    nodeValue anchors depth path (.scalar p s.toList .plain) = pure (.string s) := by
  apply nodeValue_scalar hp rfl
  rw [if_pos rfl, hmeaning, Meaning.value, String.ofList_toList]

lemma nodeValue_literal (hp : p.Bare) (text : List Char) :
    nodeValue anchors depth path (.scalar p text .literal) = pure (.string (String.ofList text)) :=
  nodeValue_scalar hp rfl rfl

lemma nodeValue_sequence {ns : List Node} {vs : List Value} (hp : p.Bare)
    (h : itemValues (nodeValue anchors depth) path 0 ns = pure vs) :
    nodeValue anchors (depth + 1) path (.sequence p ns) = pure (.sequence vs) := by
  simp only [nodeValue, Anchors.follow, pure_bind, contentValue, h, hp.withTag]

lemma nodeValue_mapping {es : List (Node × Node)} {entries : List (Value × Value)} (hp : p.Bare)
    (h : entryValues (nodeValue anchors depth) path p.mark [] es = pure entries) :
    nodeValue anchors (depth + 1) path (.mapping p es) = pure (.mapping entries) := by
  simp only [nodeValue, Anchors.follow, pure_bind, contentValue, h, hp.withTag]

mutual

/-- A node that depicts a tree has the tree for its value. -/
theorem nodeValue_depicts : ∀ (v : Json.Value) {depth : Nat} {path : List Step} {n : Node},
    v.WellFormed → v.nesting ≤ depth → (∀ m ∈ v.numbers, m.IsWord) → Depicts v n →
    nodeValue anchors depth path n = pure (Value.ofJson v)
  | .null, _, _, _, _, _, _, ⟨p, hp, hn⟩ => by
    rw [hn]
    exact nodeValue_scalar hp rfl rfl
  | .bool true, _, _, _, _, _, _, ⟨p, hp, hn⟩ => by
    rw [hn]
    exact nodeValue_scalar hp rfl rfl
  | .bool false, _, _, _, _, _, _, ⟨p, hp, hn⟩ => by
    rw [hn]
    exact nodeValue_scalar hp rfl rfl
  | .number (.int i), _, _, _, _, _, hi, ⟨p, hp, hn⟩ => by
    rw [hn]
    exact nodeValue_scalar hp (plainMeaning_intText (hi _ (List.mem_singleton_self _))) rfl
  | .number (.float x), _, _, _, _, _, hx, _ => absurd (hx _ (List.mem_singleton_self _)) id
  | .string s, _, _, _, _, _, _, ⟨p, hp, hn⟩ => by
    rw [hn]
    exact nodeValue_quoted hp s
  | .array vs, depth, path, _, hwf, hdepth, hi, ⟨p, ns, hp, hn, hns⟩ => by
    obtain ⟨depth, rfl⟩ := Nat.exists_eq_add_of_le' (Nat.le_trans (Nat.le_add_left 1 _) hdepth)
    rw [hn]
    exact nodeValue_sequence hp
      (itemValues_depicts vs hwf (Nat.le_of_succ_le_succ hdepth) hi hns)
  | .object ms, depth, path, _, hwf, hdepth, hi, ⟨p, es, hp, hn, hes⟩ => by
    obtain ⟨depth, rfl⟩ := Nat.exists_eq_add_of_le' (Nat.le_trans (Nat.le_add_left 1 _) hdepth)
    have hnodup : (ms.map Prod.fst).Nodup := by
      refine hwf.1.imp ?_
      rintro a _ hlt rfl
      exact String.lt_irrefl a hlt
    rw [hn]
    exact nodeValue_mapping hp (entryValues_depicts ms hwf.2 hnodup nofun
      (Nat.le_of_succ_le_succ hdepth) hi hes)

theorem itemValues_depicts : ∀ (vs : List Json.Value) {depth i : Nat} {path : List Step}
    {ns : List Node}, Json.Value.WellFormedItems vs → Json.Value.nestingItems vs ≤ depth →
    (∀ m ∈ Json.Value.numbersOfItems vs, m.IsWord) → DepictsItems vs ns →
    itemValues (nodeValue anchors depth) path i ns = pure (Value.ofItems vs)
  | [], _, _, _, _, _, _, _, hns => by
    rw [DepictsItems] at hns
    rw [hns]
    rfl
  | v :: vs, depth, i, path, _, hwf, hdepth, hi, ⟨n, ns, hns, hn, hrest⟩ => by
    rw [Json.Value.nestingItems, Nat.max_le] at hdepth
    rw [Json.Value.numbersOfItems, List.forall_mem_append] at hi
    simp only [hns, itemValues, pure_bind, nodeValue_depicts v hwf.1 hdepth.1 hi.1 hn,
      itemValues_depicts vs hwf.2 hdepth.2 hi.2 hrest, Value.ofItems]

theorem entryValues_depicts : ∀ (ms : List (String × Json.Value)) {depth : Nat} {path : List Step}
    {mark : Mark} {seen : List (Value × Value)} {es : List (Node × Node)},
    Json.Value.WellFormedMembers ms → (ms.map Prod.fst).Nodup →
    (∀ e ∈ seen, ∃ name, e.1 = .string name ∧ name ∉ ms.map Prod.fst) →
    Json.Value.nestingMembers ms ≤ depth → (∀ m ∈ Json.Value.numbersOfMembers ms, m.IsWord) →
    DepictsMembers ms es →
    entryValues (nodeValue anchors depth) path mark seen es =
      pure (seen.reverse ++ Value.ofMembers ms)
  | [], _, _, _, seen, _, _, _, _, _, _, hes => by
    rw [DepictsMembers] at hes
    rw [hes, Value.ofMembers, List.append_nil]
    rfl
  | (name, v) :: ms, depth, path, mark, seen, _, hwf, hnodup, hseen, hdepth, hi,
      ⟨p, n, es, hp, hes, hn, hrest⟩ => by
    rw [Json.Value.nestingMembers, Nat.max_le] at hdepth
    rw [Json.Value.numbersOfMembers, List.forall_mem_append] at hi
    rw [List.map_cons, List.nodup_cons] at hnodup
    have hkey : nodeValue anchors depth path (.scalar p name.toList .quoted) =
        pure (Value.string name) := nodeValue_quoted hp name
    have hnew : seen.find? (fun e => e.1.same (.string name)) = none := by
      rw [List.find?_eq_none]
      intro e he hsame
      obtain ⟨other, hother, hnot⟩ := hseen e he
      rw [hother, Value.same, beq_iff_eq] at hsame
      exact hnot (hsame ▸ List.mem_cons_self)
    have hseen' : ∀ e ∈ (Value.string name, Value.ofJson v) :: seen,
        ∃ other, e.1 = .string other ∧ other ∉ ms.map Prod.fst := by
      refine List.forall_mem_cons.mpr ⟨⟨name, rfl, hnodup.1⟩, fun e he => ?_⟩
      obtain ⟨other, hother, hnot⟩ := hseen e he
      exact ⟨other, hother, fun hmem => hnot (List.mem_cons_of_mem _ hmem)⟩
    simp only [hes, entryValues, hkey, pure_bind, hnew,
      nodeValue_depicts v hwf.1 hdepth.1 hi.1 hn]
    rw [entryValues_depicts ms hwf.2 hnodup.2 hseen' hdepth.2 hi.2 hrest, List.reverse_cons,
      List.append_assoc, Value.ofMembers, List.singleton_append]

end

/-! ## Back to JSON -/

mutual

/-- Turned into JSON the value is the tree again. -/
theorem toJson_ofJson : ∀ {v : Json.Value}, v.WellFormed → (∀ n ∈ v.numbers, n.IsWord) →
    (Value.ofJson v).toJson = .ok v
  | .null, _, _ => rfl
  | .bool _, _, _ => rfl
  | .number (.int _), _, _ => rfl
  | .number (.float x), _, hn => absurd (hn _ (List.mem_singleton_self _)) id
  | .string _, _, _ => rfl
  | .array vs, hwf, hn => by
    rw [Value.ofJson, Value.toJson, toJsonItems_ofItems hwf hn]
  | .object ms, hwf, hn => by
    have hnames : ((([] : Json.Members) ++ ms).map Prod.fst).Pairwise (· < ·) := hwf.1
    rw [Value.ofJson, Value.toJson, toJsonEntries_ofMembers hnames hwf.2 hn, List.nil_append]

theorem toJsonItems_ofItems : ∀ {vs : List Json.Value}, Json.Value.WellFormedItems vs →
    (∀ n ∈ Json.Value.numbersOfItems vs, n.IsWord) →
    Value.toJsonItems (Value.ofItems vs) = .ok vs
  | [], _, _ => rfl
  | v :: vs, hwf, hn => by
    rw [Json.Value.numbersOfItems, List.forall_mem_append] at hn
    rw [Value.ofItems, Value.toJsonItems, toJson_ofJson hwf.1 hn.1,
      toJsonItems_ofItems hwf.2 hn.2]

theorem toJsonEntries_ofMembers : ∀ {ms : List (String × Json.Value)} {before : Json.Members},
    ((before ++ ms).map Prod.fst).Pairwise (· < ·) → Json.Value.WellFormedMembers ms →
    (∀ n ∈ Json.Value.numbersOfMembers ms, n.IsWord) →
    Value.toJsonEntries before (Value.ofMembers ms) = .ok (.object (before ++ ms))
  | [], before, _, _, _ => by
    rw [List.append_nil]
    rfl
  | (name, v) :: ms, before, hnames, hwf, hn => by
    rw [Json.Value.numbersOfMembers, List.forall_mem_append] at hn
    have hlast : ∀ k ∈ before.map Prod.fst, k < name := by
      rw [List.map_append, List.map_cons, List.pairwise_append] at hnames
      exact fun k hk => hnames.2.2 k hk name List.mem_cons_self
    have hassoc : before ++ (name, v) :: ms = before ++ [(name, v)] ++ ms := by
      rw [List.append_assoc, List.singleton_append]
    rw [hassoc] at hnames
    rw [Value.ofMembers, Value.toJsonEntries, toJson_ofJson hwf.1 hn.1]
    simp only [Value.keyName?, Json.Members.insert_of_forall_lt v hlast]
    rw [toJsonEntries_ofMembers hnames hwf.2 hn.2, hassoc]

end

/-! ## Texts -/

/-- A tree is read from its compact text. -/
theorem readChars_write {v : Json.Value} (hwf : v.WellFormed) (hnesting : v.nesting ≤ maxDepth)
    (hv : Portable v.numbers v.strings v.names) :
    readChars v.write = .ok (Value.ofJson v) := by
  obtain ⟨root, hdocument, hroot⟩ := (renders_write hv).document
  have hvalue : nodeValue (Anchors.ofRoot root) maxDepth [] root = pure (Value.ofJson v) :=
    nodeValue_depicts v hwf hnesting hv.isWord hroot
  rw [readChars, hdocument, Document.value]
  simp only [hvalue]
  rfl

end AgentManifest.Yaml
