import AgentManifest.Proofs.Json.Members
import AgentManifest.Proofs.Schema.Steps
import AgentManifest.Schema.Interpretation

/-!
# Reading schemas without references

A schema that refers to nothing is read in draft 7 the same way wherever it stands: what comes out
does not depend on the resources there are, on the base, or on the place. An identifier decides at
most whether the schema can be read. The induction follows the schemas inside the schema; each
keyword reads those that it holds and puts the forms together in its own way, so it is read in
related ways wherever they are.
-/

namespace AgentManifest.Schema

open Json (Value Members Location)
open Compiling (Alike Congruence wrongType)

variable {r r' : Reader} {c c' : Context} {ms : Members}

/-! ## Schemas without references -/

/-- The schemas right below a value. -/
def schemasBelow : Value → List Value
  | .array vs => vs
  | .object ms => ms.map Prod.snd
  | _ => []

/-- The schemas that a keyword with a value holds. -/
def schemasOf (keyword : String) (v : Value) : List Value :=
  match (Word.named? keyword).map (Word.shape v) with
  | some .one => [v]
  | some .many | some .named => schemasBelow v
  | _ => []

/-- The keywords that refer to other schemas, give a schema a name, or say what draft it is in. -/
def linkingKeywords : List String := ["$id", "$ref", "$schema"]

/-- None of the schemas inside a schema refers to another, names itself or its draft. -/
inductive SelfContained : Value → Prop
  | plain {v : Value} (h : ∀ ms, v ≠ .object ms) : SelfContained v
  | object {ms : Members} (hkeys : ∀ m ∈ ms, m.1 ∉ linkingKeywords)
      (hparts : ∀ m ∈ ms, ∀ w ∈ schemasOf m.1 m.2, SelfContained w) : SelfContained (.object ms)

/-- Whether draft 7 knows a keyword. -/
def inDraft7 (keyword : String) : Bool := (Word.of? .draft7 [] keyword).isSome

/-- A schema names draft 7, if it names any draft. -/
def NamesDraft7 (ms : Members) : Prop :=
  ∀ v, Members.get? ms "$schema" = some v →
    ∃ text, v = .string text ∧ Draft.ofIdentifier? text = some .draft7

/-- A schema in draft 7, and none of the schemas inside it refers to another. -/
inductive ReferenceFree : Value → Prop
  | plain {v : Value} (h : ∀ ms, v ≠ .object ms) : ReferenceFree v
  | object {ms : Members} (href : ∀ m ∈ ms, m.1 ≠ "$ref") (hdraft : NamesDraft7 ms)
      (hparts : ∀ m ∈ ms, inDraft7 m.1 = true → ∀ w ∈ schemasOf m.1 m.2, ReferenceFree w) :
      ReferenceFree (.object ms)

lemma get?_linkingKeyword (hkeys : ∀ m ∈ ms, m.1 ∉ linkingKeywords) {keyword : String}
    (hkeyword : keyword ∈ linkingKeywords) : Members.get? ms keyword = none := by
  rw [Option.eq_none_iff_forall_ne_some]
  exact fun v hv => hkeys _ (Members.mem_of_get? hv) hkeyword

lemma namesDraft7_of_keys (hkeys : ∀ m ∈ ms, m.1 ∉ linkingKeywords) : NamesDraft7 ms := by
  intro v hv
  rw [get?_linkingKeyword hkeys (by decide)] at hv
  cases hv

lemma SelfContained.referenceFree {v : Value} (h : SelfContained v) : ReferenceFree v := by
  induction h with
  | plain h => exact .plain h
  | @object ms hkeys hparts ih =>
    refine .object (fun m hm href => hkeys m hm ?_) (namesDraft7_of_keys hkeys)
      fun m hm _ w hw => ih m hm w hw
    rw [href]
    decide

/-! ## The schemas that a keyword holds -/

@[simp] lemma written_of (r : Reader) (v : Value) : (Part.of r v).written = v := by
  cases v <;> rfl

lemma itemParts_eq_map (r : Reader) (vs : List Value) : itemParts r vs = vs.map (Part.of r) := by
  induction vs with
  | nil => rfl
  | cons v vs ih => rw [itemParts, ih, List.map_cons]

lemma memberParts_eq_map (r : Reader) (ms : Members) :
    memberParts r ms = ms.map fun m => (m.1, Part.of r m.2) := by
  induction ms with
  | nil => rfl
  | cons m ms ih => rw [memberParts, ih, List.map_cons]

/-- What a keyword with a value holds. -/
def pieceOf (r : Reader) (keyword : String) (v : Value) : Piece :=
  match (Word.named? keyword).map (Word.shape v) with
  | some .one => .one (Part.of r v)
  | some .many | some .named => partsOf r v
  | _ => .none

lemma piecesOf_cons (r : Reader) (m : String × Value) (ms : Members) :
    piecesOf r (m :: ms) = (m.1, pieceOf r m.1 m.2) :: piecesOf r ms := rfl

lemma lookup_piecesOf (r : Reader) (ms : Members) (keyword : String) :
    (piecesOf r ms).lookup keyword = (Members.get? ms keyword).map (pieceOf r keyword) := by
  induction ms with
  | nil => rfl
  | cons m ms ih =>
    obtain ⟨k, v⟩ := m
    rw [piecesOf_cons, Members.get?]
    split
    case isTrue hk =>
      subst hk
      rw [List.lookup_cons_self, Option.map_some]
    case isFalse hk =>
      have hne : (keyword == k) = false := beq_eq_false_iff_ne.mpr (Ne.symm hk)
      rw [List.lookup_cons, hne, ih]

/-- What a keyword holds: nothing, one schema, a list of schemas, or schemas by name. -/
inductive Holding (keyword : String) (v : Value) : Prop
  | nothing (h : ∀ r, pieceOf r keyword v = .none)
  | one (hv : v ∈ schemasOf keyword v) (h : ∀ r, pieceOf r keyword v = .one (Part.of r v))
  | many (vs : List Value) (hvs : ∀ w ∈ vs, w ∈ schemasOf keyword v)
      (h : ∀ r, pieceOf r keyword v = .many (vs.map (Part.of r)))
  | named (ns : Members) (hns : ∀ n ∈ ns, n.2 ∈ schemasOf keyword v)
      (h : ∀ r, pieceOf r keyword v = .named (ns.map fun n => (n.1, Part.of r n.2)))

lemma Holding.below {keyword : String} {v : Value} (hschemas : schemasOf keyword v = schemasBelow v)
    (h : ∀ r, pieceOf r keyword v = partsOf r v) : Holding keyword v := by
  cases v with
  | array vs =>
    refine many vs (fun w hw => ?_) fun r => ?_
    · rwa [hschemas]
    · rw [h, partsOf, itemParts_eq_map]
  | object ns =>
    refine named ns (fun n hn => ?_) fun r => ?_
    · rw [hschemas]
      exact List.mem_map_of_mem hn
    · rw [h, partsOf, memberParts_eq_map]
  | _ => exact nothing h

lemma holding (keyword : String) (v : Value) : Holding keyword v := by
  cases hshape : (Word.named? keyword).map (Word.shape v) with
  | none => exact .nothing fun r => by rw [pieceOf, hshape]
  | some shape =>
    cases shape with
    | plain => exact .nothing fun r => by rw [pieceOf, hshape]
    | one =>
      have hschemas : schemasOf keyword v = [v] := by rw [schemasOf, hshape]
      refine .one ?_ fun r => by rw [pieceOf, hshape]
      rw [hschemas]
      exact List.mem_singleton_self v
    | many => exact .below (by rw [schemasOf, hshape]) fun r => by rw [pieceOf, hshape]
    | named => exact .below (by rw [schemasOf, hshape]) fun r => by rw [pieceOf, hshape]

/-- A keyword of a schema holds a schema. -/
def IsPart (ms : Members) (keyword : String) (w : Value) : Prop :=
  ∃ v, (keyword, v) ∈ ms ∧ w ∈ schemasOf keyword v

/-- A keyword holds one schema whatever reads it, or none. -/
lemma one?_piecesOf (ms : Members) (keyword : String) :
    (∀ r, (piecesOf r ms).one? keyword = none) ∨
      ∃ v, IsPart ms keyword v ∧
        ∀ r, (piecesOf r ms).one? keyword = some (Part.of r v) := by
  simp only [Pieces.one?, lookup_piecesOf]
  cases hget : Members.get? ms keyword with
  | none => exact .inl fun _ => rfl
  | some v =>
    have hmem := Members.mem_of_get? hget
    cases holding keyword v with
    | nothing h => exact .inl fun r => by rw [Option.map_some, h]
    | one hv h => exact .inr ⟨v, ⟨_, hmem, hv⟩, fun r => by rw [Option.map_some, h]⟩
    | many vs hvs h => exact .inl fun r => by rw [Option.map_some, h]
    | named ns hns h => exact .inl fun r => by rw [Option.map_some, h]

/-- A keyword holds a list of schemas whatever reads them, or none. -/
lemma many?_piecesOf (ms : Members) (keyword : String) :
    (∀ r, (piecesOf r ms).many? keyword = none) ∨
      ∃ vs : List Value, (∀ w ∈ vs, IsPart ms keyword w) ∧
        ∀ r, (piecesOf r ms).many? keyword = some (vs.map (Part.of r)) := by
  simp only [Pieces.many?, lookup_piecesOf]
  cases hget : Members.get? ms keyword with
  | none => exact .inl fun _ => rfl
  | some v =>
    have hmem := Members.mem_of_get? hget
    cases holding keyword v with
    | nothing h => exact .inl fun r => by rw [Option.map_some, h]
    | one hv h => exact .inl fun r => by rw [Option.map_some, h]
    | many vs hvs h =>
      exact .inr ⟨vs, fun w hw => ⟨_, hmem, hvs w hw⟩, fun r => by rw [Option.map_some, h]⟩
    | named ns hns h => exact .inl fun r => by rw [Option.map_some, h]

/-- A keyword holds schemas by name whatever reads them, or none. -/
lemma named?_piecesOf (ms : Members) (keyword : String) :
    (∀ r, (piecesOf r ms).named? keyword = none) ∨
      ∃ ns : Members, (∀ n ∈ ns, IsPart ms keyword n.2) ∧
        ∀ r, (piecesOf r ms).named? keyword = some (ns.map fun n => (n.1, Part.of r n.2)) := by
  simp only [Pieces.named?, lookup_piecesOf]
  cases hget : Members.get? ms keyword with
  | none => exact .inl fun _ => rfl
  | some v =>
    have hmem := Members.mem_of_get? hget
    cases holding keyword v with
    | nothing h => exact .inl fun r => by rw [Option.map_some, h]
    | one hv h => exact .inl fun r => by rw [Option.map_some, h]
    | many vs hvs h => exact .inl fun r => by rw [Option.map_some, h]
    | named ns hns h =>
      exact .inr ⟨ns, fun n hn => ⟨_, hmem, hns n hn⟩, fun r => by rw [Option.map_some, h]⟩

/-! ## Keywords that hold schemas -/

/-- A schema inside others is read in related ways, wherever it stands in them. -/
def RelatedIn (L : Congruence) (r r' : Reader) (c c' : Context) (v : Value) : Prop :=
  ∀ way, L.rel ((Part.of r v).within (c.down way)) ((Part.of r' v).within (c'.down way))

/-- The schemas that some keywords of a schema hold are read in related ways. -/
def RelatedBelow (L : Congruence) (r r' : Reader) (c c' : Context) (keywords : String → Prop)
    (ms : Members) : Prop :=
  ∀ ⦃keyword⦄, keywords keyword → ∀ w, IsPart ms keyword w → RelatedIn L r r' c c' w

/-- The keywords whose schemas other keywords read as well. -/
def siblingKeywords : List String := ["else", "patternProperties", "properties", "then"]

/-- The keywords that refer to other schemas, or look at what these look at. -/
def referringWords : List Word :=
  [.dynamicReference, .recursiveReference, .reference, .unevaluatedItems, .unevaluatedProperties]

section

variable {L : Congruence}

lemma readNamed_related {ns : Members} (h : ∀ n ∈ ns, RelatedIn L r r' c c' n.2)
    (keyword : String) :
    L.rel (readNamed c keyword (ns.map fun n => (n.1, Part.of r n.2)))
      (readNamed c' keyword (ns.map fun n => (n.1, Part.of r' n.2))) := by
  rw [readNamed, readNamed, List.mapM_map, List.mapM_map]
  exact L.mapM fun n hn => L.bind_pure (h n hn _) _

lemma readMatching_related {ns : Members} (h : ∀ n ∈ ns, RelatedIn L r r' c c' n.2)
    (keyword : String) :
    L.rel (readMatching c keyword (ns.map fun n => (n.1, Part.of r n.2)))
      (readMatching c' keyword (ns.map fun n => (n.1, Part.of r' n.2))) := by
  rw [readMatching, readMatching, List.mapM_map, List.mapM_map]
  refine L.mapM fun n hn => ?_
  simp only [Function.comp_apply]
  split
  · exact L.bind_pure (h n hn _) _
  · exact L.badPattern _ _ _ _

lemma readList_map (c : Context) (keyword : String) (vs : List Value) :
    readList c keyword (vs.map (Part.of r)) =
      vs.zipIdx.mapM fun p => (Part.of r p.1).within (c.down [.key keyword, .index p.2]) := by
  rw [readList, List.mapIdx_eq_zipIdx_map, List.zipIdx_map, List.map_map, List.mapM_map]
  rfl

lemma readList_related {vs : List Value} (h : ∀ v ∈ vs, RelatedIn L r r' c c' v)
    (keyword : String) :
    L.rel (readList c keyword (vs.map (Part.of r)))
      (readList c' keyword (vs.map (Part.of r'))) := by
  rw [readList_map, readList_map]
  exact L.mapM fun p hp => h p.1 (List.fst_mem_of_mem_zipIdx hp) _

lemma readDependency_related {v : Value} (h : RelatedIn L r r' c c' v) (keyword name : String) :
    L.rel (readDependency c keyword (name, Part.of r v))
      (readDependency c' keyword (name, Part.of r' v)) := by
  have hschema (way : Location) : L.rel
      (do pure (Keyword.dependent keyword way name (← (Part.of r v).within (c.down way))))
      (do pure (Keyword.dependent keyword way name (← (Part.of r' v).within (c'.down way)))) :=
    L.bind_pure (h way) _
  unfold readDependency
  simp only [written_of]
  split
  · split
    · exact L.bind_pure (readNames_related L _ _ _) _
    · exact hschema _
  · exact hschema _

/-- Reads what a condition leads to, one way or the other. -/
def readBranch (c : Context) (ps : Pieces) (name : String) : Compiling Form :=
  match ps.one? name with
  | some p => p.within (c.down [.key name])
  | none => pure .always

variable {keywords : String → Prop} (hms : RelatedBelow L r r' c c' keywords ms) {keyword : String}
  (hkeyword : keywords keyword)
include hms hkeyword

lemma readOne_related (f : Form → Keyword) :
    L.rel (readOne c (piecesOf r ms) keyword f) (readOne c' (piecesOf r' ms) keyword f) := by
  obtain h | ⟨v, hv, h⟩ := one?_piecesOf ms keyword
  · rw [readOne, readOne, h, h]
    exact L.pure []
  · rw [readOne, readOne, h, h]
    exact L.bind_pure (hms hkeyword v hv _) _

lemma readBranch_related :
    L.rel (readBranch c (piecesOf r ms) keyword) (readBranch c' (piecesOf r' ms) keyword) := by
  unfold readBranch
  obtain h | ⟨w, hw, h⟩ := one?_piecesOf ms keyword
  · rw [h, h]
    exact L.pure _
  · rw [h, h]
    exact hms hkeyword w hw _

lemma readMany_related (v : Value) (f : List Form → Keyword) :
    L.rel (readMany c (piecesOf r ms) keyword v f)
      (readMany c' (piecesOf r' ms) keyword v f) := by
  obtain h | ⟨vs, hvs, h⟩ := many?_piecesOf ms keyword
  · rw [readMany, readMany, h, h]
    exact L.wrongType _ _ _ _ _
  · rw [readMany, readMany, h, h]
    exact L.bind_pure (readList_related (fun w hw => hms hkeyword w (hvs w hw)) keyword) _

/-- Reads the schemas by name that a keyword holds, or fails because there are none. -/
lemma named_related (v : Value) {f f' : List (String × Part) → Compiling (List Keyword)}
    (hf : ∀ ns : Members, (∀ n ∈ ns, RelatedIn L r r' c c' n.2) →
      L.rel (f (ns.map fun n => (n.1, Part.of r n.2)))
        (f' (ns.map fun n => (n.1, Part.of r' n.2)))) :
    L.rel
      (match (piecesOf r ms).named? keyword with
        | some parts => f parts
        | none => wrongType c.place v [.object])
      (match (piecesOf r' ms).named? keyword with
        | some parts => f' parts
        | none => wrongType c'.place v [.object]) := by
  obtain h | ⟨ns, hns, h⟩ := named?_piecesOf ms keyword
  · rw [h, h]
    exact L.wrongType _ _ _ _ _
  · rw [h, h]
    exact hf ns fun n hn => hms hkeyword n.2 (hns n hn)

lemma readAdditionalItems_related (v : Value) :
    L.rel (readAdditionalItems c (piecesOf r ms) ms keyword v)
      (readAdditionalItems c' (piecesOf r' ms) ms keyword v) := by
  unfold readAdditionalItems
  split
  · split
    · exact L.test _ _
    · exact readOne_related hms hkeyword _
    · exact L.pure []
  · exact L.test _ _
  · exact L.pure []
  · exact L.pure []
  · exact L.pure []
  · exact L.wrongType _ _ _ _ _

lemma readItems_related (v : Value) :
    L.rel (readItems c (piecesOf r ms) ms keyword v)
      (readItems c' (piecesOf r' ms) ms keyword v) := by
  unfold readItems
  dsimp only
  split
  · obtain h | ⟨vs, hvs, h⟩ := many?_piecesOf ms keyword
    · rw [h, h]
      exact L.pure _
    · rw [h, h]
      exact L.bind_pure (readList_related (fun w hw => hms hkeyword w (hvs w hw)) keyword) _
  · exact readOne_related hms hkeyword _
  · exact readOne_related hms hkeyword _
  · exact L.wrongType _ _ _ _ _

lemma readContains_related (hdraft : c.draft = c'.draft) :
    L.rel (readContains c (piecesOf r ms) ms keyword)
      (readContains c' (piecesOf r' ms) ms keyword) := by
  unfold readContains
  rw [hdraft]
  split
  · exact L.bind (containsLimit_related L _ _ _ _) fun least =>
      L.bind (containsLimit_related L _ _ _ _) fun most => readOne_related hms hkeyword _
  · exact readOne_related hms hkeyword _

variable (hsiblings : ∀ name ∈ siblingKeywords, keywords name)
include hsiblings

lemma readAdditional_related (v : Value) :
    L.rel (readAdditional c (piecesOf r ms) ms keyword v)
      (readAdditional c' (piecesOf r' ms) ms keyword v) := by
  have hnamed {name : String} (hname : keywords name) : L.rel
      (readNamed c name (((piecesOf r ms).named? name).getD []))
      (readNamed c' name (((piecesOf r' ms).named? name).getD [])) := by
    obtain h | ⟨ns, hns, h⟩ := named?_piecesOf ms name
    · rw [h, h]
      exact L.pure []
    · rw [h, h]
      exact readNamed_related (fun n hn => hms hname n.2 (hns n hn)) name
  have hmatching {name : String} (hname : keywords name) : L.rel
      (readMatching c name (((piecesOf r ms).named? name).getD []))
      (readMatching c' name (((piecesOf r' ms).named? name).getD [])) := by
    obtain h | ⟨ns, hns, h⟩ := named?_piecesOf ms name
    · rw [h, h]
      exact L.pure []
    · rw [h, h]
      exact readMatching_related (fun n hn => hms hname n.2 (hns n hn)) name
  have hproperties : keywords "properties" := hsiblings _ (by decide)
  have hpatterns : keywords "patternProperties" := hsiblings _ (by decide)
  unfold readAdditional
  refine L.bind (hmatching hpatterns) fun matching => ?_
  split
  · exact L.pure []
  · split
    · exact L.bind_pure (hnamed hproperties) _
    · exact L.test _ _
  · obtain h | ⟨w, hw, h⟩ := one?_piecesOf ms keyword
    · rw [h, h]
      exact L.pure []
    · rw [h, h]
      exact L.bind (hnamed hproperties) fun named => L.bind_pure (hms hkeyword w hw _) _

lemma readConditional_related :
    L.rel (readConditional c (piecesOf r ms) keyword)
      (readConditional c' (piecesOf r' ms) keyword) := by
  have hnone (name : String) :
      ((piecesOf r ms).one? name).isNone = ((piecesOf r' ms).one? name).isNone := by
    obtain h | ⟨w, hw, h⟩ := one?_piecesOf ms name
    · rw [h, h]
    · rw [h, h, Option.isNone_some, Option.isNone_some]
  have hthen : keywords "then" := hsiblings _ (by decide)
  have helse : keywords "else" := hsiblings _ (by decide)
  unfold readConditional
  dsimp only
  obtain h | ⟨w, hw, h⟩ := one?_piecesOf ms keyword
  · rw [h, h]
    exact L.pure []
  · rw [h, h, hnone "then", hnone "else"]
    dsimp only
    split
    · exact L.pure []
    · exact L.bind (hms hkeyword w hw _) fun s =>
        L.bind (readBranch_related hms hthen) fun t =>
          L.bind_pure (readBranch_related hms helse) _

/-- A keyword that does not refer to other schemas is read in related ways, if the schemas that it
holds are. -/
lemma read_related (hdraft : c.draft = c'.draft) (v : Value) {w : Word}
    (hw : w ∉ referringWords) :
    L.rel (w.read r c ms (piecesOf r ms) keyword v)
      (w.read r' c' ms (piecesOf r' ms) keyword v) := by
  have hdependencies : L.rel
      (match (piecesOf r ms).named? keyword with
        | some parts => parts.mapM (readDependency c keyword)
        | none => wrongType c.place v [.object])
      (match (piecesOf r' ms).named? keyword with
        | some parts => parts.mapM (readDependency c' keyword)
        | none => wrongType c'.place v [.object]) := by
    refine named_related hms hkeyword v fun ns hns => ?_
    rw [List.mapM_map, List.mapM_map]
    exact L.mapM fun n hn => readDependency_related (hns n hn) keyword n.1
  cases w with
  | additionalItems => exact readAdditionalItems_related hms hkeyword v
  | additionalProperties => exact readAdditional_related hms hkeyword hsiblings v
  | allOf | anyOf | oneOf | prefixItems => exact readMany_related hms hkeyword v _
  -- what a condition leads to is read together with the condition
  | alternative | consequence => exact L.pure []
  | condition => exact readConditional_related hms hkeyword hsiblings
  | contains => exact readContains_related hms hkeyword hdraft
  | dependencies | dependentSchemas => exact hdependencies
  | items => exact readItems_related hms hkeyword v
  | not => exact readOne_related hms hkeyword _
  | patternProperties =>
    simp only [Word.read]
    split
    · exact L.pure []
    · exact named_related hms hkeyword v fun ns hns =>
        L.bind_pure (readMatching_related hns keyword) _
  | properties =>
    simp only [Word.read]
    split
    · exact L.pure []
    · exact named_related hms hkeyword v fun ns hns =>
        L.bind_pure (readNamed_related hns keyword) _
  | propertyNames =>
    simp only [Word.read]
    split
    · exact L.pure []
    · exact L.test _ _
    · exact readOne_related hms hkeyword _
    · exact L.wrongType _ _ _ _ _
  | dynamicReference | recursiveReference | reference | unevaluatedItems
  | unevaluatedProperties => exact absurd (by decide) hw
  | _ =>
    simp only [Word.read]
    exact readCondition_related L hdraft keyword v _

end

/-! ## Schemas of draft 7 -/

/-- A schema is read in draft 7 the same way wherever it stands. -/
def Steady (v : Value) : Prop :=
  ∀ ⦃r r' : Reader⦄ ⦃c c' : Context⦄, c.draft = .draft7 → c'.draft = .draft7 →
    Alike ((Part.of r v).within c) ((Part.of r' v).within c')

/-- The schemas that the keywords of a schema hold are read the same way wherever they stand. -/
def SteadyBelow (ms : Members) : Prop :=
  ∀ ⦃keyword⦄, inDraft7 keyword = true → ∀ w, IsPart ms keyword w → Steady w

lemma SteadyBelow.related (h : SteadyBelow ms) (hc : c.draft = .draft7) (hc' : c'.draft = .draft7) :
    RelatedBelow Compiling.alike r r' c c' (fun keyword => inDraft7 keyword = true) ms :=
  fun _ hkeyword w hw _ => h hkeyword w hw hc hc'

/-- Draft 7 has one way to refer to schemas. -/
lemma eq_of_referring {vocabularies : List Vocabulary} {keyword : String} {w : Word}
    (h : Word.of? .draft7 vocabularies keyword = some w) (hw : w ∈ referringWords) :
    keyword = "$ref" := by
  have hknown : ∀ e ∈ Word.known, Draft.since .draft7 e.2.1 && e.2.2.1.since .draft7 →
      e.2.2.2 ∈ referringWords → e.1 = "$ref" := by decide
  unfold Word.of? at h
  split at h
  case h_1 first last w' hlookup =>
    have hmem : (keyword, first, last, w') ∈ Word.known := by
      obtain ⟨front, back, heq, -⟩ := List.lookup_eq_some_iff.mp hlookup
      rw [heq]
      exact List.mem_append_right front List.mem_cons_self
    split at h
    case isTrue hin =>
      cases h
      exact hknown _ hmem (Bool.and_eq_true_iff.mp hin).1 hw
    case isFalse => cases h
  case h_2 => cases h

/-- In draft 7 a keyword other than a reference is read the same way wherever the schema stands. -/
lemma read_alike (hc : c.draft = .draft7) (hc' : c'.draft = .draft7) (hms : SteadyBelow ms)
    {vocabularies : List Vocabulary} {keyword : String} {w : Word}
    (hw : Word.of? .draft7 vocabularies keyword = some w) (href : keyword ≠ "$ref") (v : Value) :
    Alike (w.read r c ms (piecesOf r ms) keyword v)
      (w.read r' c' ms (piecesOf r' ms) keyword v) := by
  -- the vocabularies do not matter up to draft 7
  have hkeyword : inDraft7 keyword = true := by
    rw [inDraft7, Option.isSome_iff_exists]
    exact ⟨w, hw⟩
  have hsiblings : ∀ name ∈ siblingKeywords, inDraft7 name = true := by decide
  exact read_related (hms.related hc hc') hkeyword hsiblings (hc.trans hc'.symm) v
    fun hreferring => href (eq_of_referring hw hreferring)

/-- The draft that a schema is entered in is the one of the context inside. -/
lemma draft_of_enterAs {draft : Draft} {v : Value} (h : c.enterAs draft v = .ok c') :
    c'.draft = draft := by
  rw [Context.enterAs] at h
  cases hbase : innerBase draft c.base v with
  | error fault =>
    rw [hbase] at h
    cases h
  | ok base =>
    rw [hbase] at h
    cases h
    rfl

/-- A schema inside another is read in draft 7 if it names no other draft. -/
lemma draft_of_enter {v : Value} (hdraft : ∀ ms, v = .object ms → NamesDraft7 ms)
    (hc : c.draft = .draft7) (h : c.enter v = .ok c') : c'.draft = .draft7 := by
  have hinner : innerDraft .draft7 v = .draft7 := by
    rw [innerDraft, draftOf]
    cases v with
    | object ms =>
      cases hschema : Members.get? ms "$schema" with
      | none => simp only [Value.get?, hschema, Option.bind_none]
      | some w =>
        obtain ⟨text, rfl, htext⟩ := hdraft ms rfl w hschema
        simp only [Value.get?, hschema, Option.bind_some, Value.string?, htext]
    | _ => rfl
  rw [Context.enter, hc, hinner] at h
  exact draft_of_enterAs h

lemma ReferenceFree.namesDraft7 {v : Value} (h : ReferenceFree v) :
    ∀ ms, v = .object ms → NamesDraft7 ms := by
  rintro ms rfl
  cases h with
  | plain h => exact absurd rfl (h ms)
  | object _ hdraft _ => exact hdraft

/-- A schema in draft 7 is read the same way inside other schemas if it is so by itself. -/
lemma ReferenceFree.within_alike {v : Value} (h : ReferenceFree v)
    (hform : ∀ ⦃r r' : Reader⦄ ⦃c c' : Context⦄, c.draft = .draft7 → c'.draft = .draft7 →
      Alike ((Part.of r v).form c) ((Part.of r' v).form c')) : Steady v := by
  intro r r' c c' hc hc'
  rw [Part.within, Part.within, written_of, written_of]
  exact Alike.lift_bind fun inner inner' he he' =>
    hform (draft_of_enter h.namesDraft7 hc he) (draft_of_enter h.namesDraft7 hc' he')

/-- Without a reference all members of a schema count. -/
lemma effectiveMembers_draft7 (href : ∀ m ∈ ms, m.1 ≠ "$ref") :
    effectiveMembers .draft7 ms = ms := by
  have hnone : Members.get? ms "$ref" = none := by
    rw [Option.eq_none_iff_forall_ne_some]
    exact fun v hv => href _ (Members.mem_of_get? hv) rfl
  have hnew : Draft.since .draft7 .draft2019 = false := rfl
  rw [effectiveMembers, hnew, hnone]
  rfl

lemma assemble_alike (hc : c.draft = .draft7) (hc' : c'.draft = .draft7)
    (href : ∀ m ∈ ms, m.1 ≠ "$ref") (hms : SteadyBelow ms) :
    Alike (assemble r ms (piecesOf r ms) c) (assemble r' ms (piecesOf r' ms) c') := by
  have hwords (keyword : String) : Word.of? .draft7 c'.vocabularies keyword =
      Word.of? .draft7 c.vocabularies keyword := rfl
  rw [assemble, assemble, hc, hc', effectiveMembers_draft7 href]
  refine Compiling.alike.bind_pure (Compiling.alike.mapM fun m hm => ?_) _
  rw [hwords]
  split
  · rename_i w hw
    exact read_alike hc hc' hms hw (href m hm) m.2
  · exact Alike.pure []

/-- A schema without references is read the same way wherever it stands. -/
theorem ReferenceFree.form_alike {v : Value} (h : ReferenceFree v) :
    ∀ ⦃r r' : Reader⦄ ⦃c c' : Context⦄, c.draft = .draft7 → c'.draft = .draft7 →
      Alike ((Part.of r v).form c) ((Part.of r' v).form c') := by
  induction h with
  | @plain v hplain =>
    intro r r' c c' hc hc'
    cases v with
    | object ms => exact absurd rfl (hplain ms)
    | bool b => exact Alike.pure _
    | _ => exact Compiling.alike.wrongType _ _ _ _ _
  | @object ms href hdraft hparts ih =>
    intro r r' c c' hc hc'
    refine assemble_alike hc hc' href fun keyword hkeyword w hw => ?_
    obtain ⟨v, hv, hw⟩ := hw
    exact (hparts _ hv hkeyword w hw).within_alike (ih _ hv hkeyword w hw)

end AgentManifest.Schema
