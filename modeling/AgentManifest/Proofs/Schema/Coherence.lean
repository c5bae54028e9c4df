import AgentManifest.Proofs.Schema.Ownership
import AgentManifest.Proofs.Schema.Reading

/-!
# Schemas are read as coherent ones

Each keyword is read as keywords that say the same of every document, if the schemas that it holds
are, and if what references lead to is. The induction follows the schemas inside the schema. Double
names are excluded: schemas under one name would report under one path.
-/

namespace AgentManifest.Schema

open Json (Value Members Location)
open Compiling (Ensures)

variable {ms : Members} {keyword : String} {w : Word}

/-! ## Parts of a schema -/

/-- A schema is read as a coherent one wherever it stands. -/
structure Part.Sound (D : Deferred → Prop) (p : Part) : Prop where
  form : ∀ c, Ensures D (p.form c) Form.Coherent
  coverage : ∀ focus c, Ensures D (p.coverage focus c) fun _ => True

/-- Where a reference leads. -/
def Registry.Reaches (reg : Registry) (l : Landing) : Prop :=
  (∃ c text, reg.follow c text = .ok l) ∨ ∃ c, reg.followRecursive c = .ok l

/-- What references lead to is well formed and is read as a coherent schema, and what is put off
keeps a property. -/
structure Reader.Sound (D : Deferred → Prop) (r : Reader) : Prop where
  form : ∀ v c, v.WellFormed → Ensures D (r.form v c) Form.Coherent
  coverage : ∀ focus v c, v.WellFormed → Ensures D (r.coverage focus v c) fun _ => True
  wellFormed : ∀ l, r.registry.Reaches l → l.contents.WellFormed
  deferred : ∀ l, r.registry.Reaches l → ∀ (c : Context) focus? scopes context,
    c.detached { l with scopes } = .ok context →
      D { focus?, target := context.target l, contents := l.contents, context }

variable {D : Deferred → Prop} {r : Reader} {c : Context}

lemma Part.Sound.within {p : Part} (h : p.Sound D) (c : Context) :
    Ensures D (p.within c) Form.Coherent :=
  .bind (.lift fun _ _ => trivial) fun c' _ => h.form c'

/-- The parts of a schema are read as coherent schemas. -/
def SoundBelow (D : Deferred → Prop) (r : Reader) (ms : Members) : Prop :=
  ∀ keyword w, IsPart ms keyword w → (Part.of r w).Sound D

section

variable (hms : SoundBelow D r ms)
include hms

lemma one?_sound {p : Part} (h : (piecesOf r ms).one? keyword = some p) : p.Sound D := by
  obtain hnone | ⟨v, hv, hsome⟩ := one?_piecesOf ms keyword
  · rw [hnone] at h
    cases h
  · rw [hsome] at h
    cases h
    exact hms keyword v hv

lemma many?_sound {parts : List Part} (h : (piecesOf r ms).many? keyword = some parts) :
    ∀ p ∈ parts, p.Sound D := by
  obtain hnone | ⟨vs, hvs, hsome⟩ := many?_piecesOf ms keyword
  · rw [hnone] at h
    cases h
  · rw [hsome] at h
    cases h
    exact List.forall_mem_map.mpr fun v hv => hms keyword v (hvs v hv)

lemma named?_sound {parts : List (String × Part)}
    (h : (piecesOf r ms).named? keyword = some parts) : ∀ p ∈ parts, p.2.Sound D := by
  obtain hnone | ⟨ns, hns, hsome⟩ := named?_piecesOf ms keyword
  · rw [hnone] at h
    cases h
  · rw [hsome] at h
    cases h
    exact List.forall_mem_map.mpr fun n hn => hms keyword n.2 (hns n hn)

omit hms

lemma pieceOf_cases (r : Reader) (keyword : String) (v : Value) :
    pieceOf r keyword v = .none ∨ pieceOf r keyword v = .one (Part.of r v) ∨
      pieceOf r keyword v = partsOf r v := by
  unfold pieceOf
  split
  · exact .inr (.inl rfl)
  · exact .inr (.inr rfl)
  · exact .inr (.inr rfl)
  · exact .inl rfl

/-- Schemas by name have different names in a well-formed schema. -/
lemma named?_nodup (hwf : (Value.object ms).WellFormed) {parts : List (String × Part)}
    (h : (piecesOf r ms).named? keyword = some parts) : (parts.map Prod.fst).Nodup := by
  simp only [Pieces.named?, lookup_piecesOf] at h
  cases hget : Members.get? ms keyword with
  | none =>
    rw [hget] at h
    cases h
  | some v =>
    have hv : v.WellFormed :=
      Value.wellFormed_of_mem_members hwf.2 (Members.mem_of_get? hget)
    rw [hget, Option.map_some] at h
    -- only an object holds schemas by name
    obtain hpiece | hpiece | hpiece := pieceOf_cases r keyword v
    · rw [hpiece] at h
      cases h
    · rw [hpiece] at h
      cases h
    · rw [hpiece] at h
      cases v with
      | object ns =>
        rw [partsOf, memberParts_eq_map] at h
        cases h
        rw [List.map_map]
        exact Json.Members.nodup_of_increasing hv.1
      | _ => cases h

end

/-! ## Keywords that hold schemas -/

/-- What is made one by one, each with the name of what it is made from, is one for each name. -/
lemma eq_of_forall₂_key {α β : Type} (key : β → String) {Q : β → Prop} {as : List (String × α)}
    {bs : List β} (hnames : (as.map Prod.fst).Nodup)
    (h : List.Forall₂ (fun a b => key b = a.1 ∧ Q b) as bs) :
    ∀ b ∈ bs, ∀ b' ∈ bs, key b = key b' → b = b' ∧ Q b := by
  have hall : bs.map key = as.map Prod.fst ∧ ∀ b ∈ bs, Q b := by
    clear hnames
    induction h with
    | nil => exact ⟨rfl, nofun⟩
    | cons hab _ ih =>
      rw [List.map_cons, List.map_cons, hab.1, ih.1]
      exact ⟨rfl, List.forall_mem_cons.mpr ⟨hab.2, ih.2⟩⟩
  intro b hb b' hb' hkey
  exact ⟨List.inj_on_of_nodup_map (hall.1 ▸ hnames) hb hb' hkey, hall.2 b hb⟩

lemma readNamed_ensures {parts : List (String × Part)} (hparts : ∀ p ∈ parts, p.2.Sound D)
    (hnames : (parts.map Prod.fst).Nodup) (keyword : String) :
    Ensures D (readNamed c keyword parts) NamedCoherent := by
  have hread : Ensures D (readNamed c keyword parts)
      (List.Forall₂ (fun p n => n.1 = p.1 ∧ n.2.Coherent) parts) :=
    .mapM fun p hp => ((hparts p hp).within _).bind_pure fun s hs => ⟨rfl, hs⟩
  refine hread.imp fun named h n hn n' hn' hname => ?_
  obtain ⟨rfl, hs⟩ := eq_of_forall₂_key Prod.fst hnames h n hn n' hn' hname
  exact hs

lemma readMatching_ensures {parts : List (String × Part)} (hparts : ∀ p ∈ parts, p.2.Sound D)
    (hnames : (parts.map Prod.fst).Nodup) (keyword : String) :
    Ensures D (readMatching c keyword parts) MatchingCoherent := by
  have hread : Ensures D (readMatching c keyword parts)
      (List.Forall₂ (fun p n => n.1.text = p.1 ∧ n.2.Coherent) parts) := by
    refine .mapM fun p hp => ?_
    split
    · exact ((hparts p hp).within _).bind_pure fun s hs => ⟨rfl, hs⟩
    · exact .badPattern _ _
  refine hread.imp fun matching h n hn n' hn' hname => ?_
  obtain ⟨rfl, hs⟩ := eq_of_forall₂_key (fun n => n.1.text) hnames h n hn n' hn' hname
  exact hs

lemma readList_ensures {parts : List Part} (hparts : ∀ p ∈ parts, p.Sound D) (keyword : String) :
    Ensures D (readList c keyword parts) fun schemas => ∀ s ∈ schemas, s.Coherent := by
  refine .mapM_all fun p hp => ?_
  obtain ⟨i, hi, rfl⟩ := List.mem_mapIdx.mp hp
  exact (hparts _ (List.getElem_mem hi)).within _

section

variable (hms : SoundBelow D r ms)
include hms

lemma readOne_ensures {P : String → Prop} {f : Form → Keyword}
    (hf : ∀ s, s.Coherent → Family P [f s]) (keyword : String) :
    Ensures D (readOne c (piecesOf r ms) keyword f) (Family P) := by
  unfold readOne
  split
  case h_1 p hp => exact ((one?_sound hms hp).within _).bind_pure hf
  case h_2 => exact .pure .nil

lemma readMany_ensures {P : String → Prop} {f : List Form → Keyword}
    (hf : ∀ schemas, (∀ s ∈ schemas, s.Coherent) → Family P [f schemas]) (keyword : String)
    (v : Value) : Ensures D (readMany c (piecesOf r ms) keyword v f) (Family P) := by
  unfold readMany
  split
  case h_1 parts hparts =>
    exact (readList_ensures (many?_sound hms hparts) keyword).bind_pure hf
  case h_2 => exact .wrongType _ _ _

lemma readAdditionalItems_ensures (keyword : String) (v : Value) :
    Ensures D (readAdditionalItems c (piecesOf r ms) ms keyword v) (Family (· = keyword)) := by
  unfold readAdditionalItems
  split
  · split
    · exact .pure (.test _ _)
    · exact readOne_ensures hms (fun s hs => .itemsFrom _ hs) keyword
    · exact .pure .nil
  · exact .pure (.test _ _)
  · exact .pure .nil
  · exact .pure .nil
  · exact .pure .nil
  · exact .wrongType _ _ _

lemma readItems_ensures (keyword : String) (v : Value) :
    Ensures D (readItems c (piecesOf r ms) ms keyword v) (Family (· = keyword)) := by
  unfold readItems
  dsimp only
  split
  · refine (readList_ensures (fun p hp => ?_) keyword).bind_pure fun schemas hs => .tuple hs
    cases hmany : (piecesOf r ms).many? keyword with
    | none =>
      rw [hmany] at hp
      exact absurd hp List.not_mem_nil
    | some parts =>
      rw [hmany] at hp
      exact many?_sound hms hmany p hp
  · exact readOne_ensures hms (fun s hs => .itemsFrom _ hs) keyword
  · exact readOne_ensures hms (fun s hs => .itemsFrom _ hs) keyword
  · exact .wrongType _ _ _

lemma readContains_ensures (keyword : String) :
    Ensures D (readContains c (piecesOf r ms) ms keyword)
      (Family (· ∈ ["contains", "minContains", "maxContains"])) := by
  unfold readContains
  split
  · exact (containsLimit_ensures _ _ _).bind fun least _ =>
      (containsLimit_ensures _ _ _).bind fun most _ =>
        readOne_ensures hms (fun s _ => .contains _ s) keyword
  · exact readOne_ensures hms (fun s _ => .contains _ s) keyword

lemma readConditional_ensures (keyword : String) :
    Ensures D (readConditional c (piecesOf r ms) keyword) (Family (· ∈ ["then", "else"])) := by
  have hbranch (name : String) :
      Ensures D (readBranch c (piecesOf r ms) name) Form.Coherent := by
    unfold readBranch
    split
    case h_1 p hp => exact (one?_sound hms hp).within _
    case h_2 => exact .pure Form.coherent_always
  unfold readConditional
  dsimp only
  split
  case h_1 p hp =>
    split
    · exact .pure .nil
    · exact ((one?_sound hms hp).within _).bind fun s _ =>
        (hbranch "then").bind fun t ht => (hbranch "else").bind_pure fun e he =>
          .conditional s ht he
  case h_2 => exact .pure .nil

lemma readUnevaluated_ensures {P : String → Prop} {focus : Focus} {f : Coverage → Form → Keyword}
    (hcover : Ensures D (coverAll r ms (piecesOf r ms) focus c) fun _ => True)
    (hf : ∀ seen s, Family P [f seen s]) (keyword : String) :
    Ensures D (readUnevaluated r c ms (piecesOf r ms) keyword focus f) (Family P) := by
  unfold readUnevaluated
  split
  case h_1 p hp =>
    split
    · exact .pure .nil
    · exact hcover.bind fun seen _ => ((one?_sound hms hp).within _).bind_pure fun s _ => hf seen s
  case h_2 => exact .pure .nil

end

lemma readDependency_ensures {dep : String × Part} (hdep : dep.2.Sound D) (keyword : String) :
    Ensures D (readDependency c keyword dep) (Family.IsDependent keyword dep.1) := by
  have hschema : Ensures D (do
      let way : Location := [.key keyword, .key dep.1]
      pure (Keyword.dependent keyword way dep.1 (← dep.2.within (c.down way))))
      (Family.IsDependent keyword dep.1) :=
    (hdep.within _).bind_pure fun s hs => .schema dep.1 hs
  unfold readDependency
  dsimp only
  split
  · split
    · exact (readNames_ensures _ _).bind_pure fun names _ => .names dep.1 names
    · exact hschema
  · exact hschema

/-- A keyword about dependent members is read from the parts that it names. -/
lemma readDependent_ensures (hms : SoundBelow D r ms) (hwf : (Value.object ms).WellFormed)
    (keyword : String) (v : Value) :
    Ensures D (match (piecesOf r ms).named? keyword with
      | some parts => parts.mapM (readDependency c keyword)
      | none => Compiling.wrongType c.place v [.object])
      (Family (· = keyword)) := by
  split
  case h_1 parts hparts =>
    exact (Ensures.mapM fun p hp => readDependency_ensures (named?_sound hms hparts p hp)
      keyword).imp fun ks h =>
        .dependents (named?_nodup hwf hparts) (List.forall₂_map_left_iff.mpr h)
  case h_2 => exact .wrongType _ _ _

/-- The keyword about other members takes care of named and matching ones where it says
something. -/
lemma readAdditional_ensures (hms : SoundBelow D r ms) (hwf : (Value.object ms).WellFormed)
    {v : Value} (hget : Members.get? ms "additionalProperties" = some v) (d : Draft) :
    Ensures D (readAdditional c (piecesOf r ms) ms "additionalProperties" v)
      (Family (Owned d ms "additionalProperties")) := by
  have hparts (keyword : String) : ∀ p ∈ ((piecesOf r ms).named? keyword).getD [],
      p.2.Sound D := by
    cases hnamed : (piecesOf r ms).named? keyword with
    | none => exact fun p hp => absurd hp List.not_mem_nil
    | some parts => exact named?_sound hms hnamed
  have hnames (keyword : String) :
      ((((piecesOf r ms).named? keyword).getD []).map Prod.fst).Nodup := by
    cases hnamed : (piecesOf r ms).named? keyword with
    | none => exact List.nodup_nil
    | some parts => exact named?_nodup hwf hnamed
  unfold readAdditional
  refine (readMatching_ensures (hparts _) (hnames _) _).bind fun matching hmatching => ?_
  split
  · exact .pure .nil
  · have htakes : takesOverMembers ms = true := by rw [takesOverMembers, hget]
    split
    · exact (readNamed_ensures (hparts _) (hnames _) _).bind_pure fun named hnamed =>
        (Family.closed hnamed hmatching).imp fun name => owned_additional htakes
    · exact .pure ((Family.test _ _).imp (by rintro _ rfl; exact owned_additional htakes (by decide)))
  case h_3 =>
    split
    case h_1 p hp =>
      refine (readNamed_ensures (hparts _) (hnames _) _).bind fun named hnamed => ?_
      cases v with
      | object ns =>
        have htakes : takesOverMembers ms = true := by rw [takesOverMembers, hget]
        exact ((one?_sound hms hp).within _).bind_pure fun s hs =>
          (Family.additional hnamed hmatching hs).imp fun name => owned_additional htakes
      | bool b => cases b <;> contradiction
      | _ =>
        -- what is no schema cannot be read
        rw [Pieces.one?, lookup_piecesOf, hget] at hp
        cases hp
        exact .bind (P := fun _ => False) (.bind (.lift fun _ _ => trivial) fun _ _ => .wrongType _ _ _)
          fun _ h => h.elim
    case h_2 => exact .pure .nil

/-! ## References -/

section

variable (hr : r.Sound D)
include hr

lemma defer_ensures {l : Landing} (hl : r.registry.Reaches l) (focus? : Option Focus)
    (scopes : List String) : Ensures D (Compiling.defer c focus? l scopes) fun _ => True :=
  .defer fun context hcontext => hr.deferred l hl c focus? scopes context hcontext

lemma readReference_ensures (keyword text : String) :
    Ensures D (readReference r c keyword text) (Family (· = keyword)) := by
  unfold readReference
  refine .bind (.lift fun _ _ => trivial) fun id _ => ?_
  refine .bind (.visit id) fun known _ => ?_
  refine .bind (.land fun l hl => (⟨c, text, hl⟩ : ∃ c text, r.registry.follow c text = .ok l))
    fun l hl => ?_
  split
  · exact (hr.form _ _ (hr.wellFormed l (.inl hl))).bind_pure fun s hs => .nested hs
  · split
    · exact .pure .nil
    · exact (defer_ensures hr (.inl hl) _ _).bind_pure fun t _ => .reference keyword t

lemma readRecursive_ensures (keyword : String) :
    Ensures D (readRecursive r c keyword) (Family (· = keyword)) := by
  unfold readRecursive
  refine .bind (.lift fun l hl => (⟨c, hl⟩ : ∃ c, r.registry.followRecursive c = .ok l))
    fun l hl => ?_
  exact (defer_ensures hr (.inr hl) _ _).bind_pure fun t _ => .reference keyword t

omit hr in
lemma meetsAgain_ensures (puttingOff : Bool) (text : String) :
    Ensures D (meetsAgain c puttingOff text) fun _ => True := by
  unfold meetsAgain
  split
  · exact .bind (.lift fun _ _ => trivial) fun id _ => .visit id
  · exact .pure trivial

lemma coverReference_ensures (focus : Focus) (puttingOff : Bool) (text : String) :
    Ensures D (coverReference r focus c puttingOff text) fun _ => True := by
  unfold coverReference
  refine (meetsAgain_ensures puttingOff text).bind fun known _ => ?_
  refine .bind (.lift fun l hl => (⟨c, text, hl⟩ : ∃ c text, r.registry.follow c text = .ok l))
    fun l hl => ?_
  split
  case h_1 ms hcontents =>
    split
    · exact (defer_ensures hr (.inl hl) _ _).bind_pure fun _ _ => trivial
    · have hwf := hr.wellFormed l (.inl hl)
      rw [hcontents] at hwf
      exact (hr.coverage focus _ c hwf).bind_pure fun _ _ => trivial
  case h_2 => exact .pure trivial

lemma coverReferred_ensures (focus : Focus) (puttingOff : Bool) (v? : Option Value) :
    Ensures D (coverReferred r focus c puttingOff v?) fun _ => True := by
  unfold coverReferred
  split
  · exact coverReference_ensures hr focus puttingOff _
  · exact .pure trivial

lemma coverRecursive_ensures (focus : Focus) :
    Ensures D (coverRecursive r focus c) fun _ => True := by
  unfold coverRecursive
  refine .bind (.lift fun l hl => (⟨c, hl⟩ : ∃ c, r.registry.followRecursive c = .ok l))
    fun l hl => ?_
  exact (defer_ensures hr (.inr hl) _ _).bind_pure fun t _ => trivial

lemma coverReferences_ensures (focus : Focus) (ms : Members) :
    Ensures D (coverReferences r focus c ms) fun _ => True := by
  unfold coverReferences
  refine (coverReferred_ensures hr focus _ _).bind fun plain _ => ?_
  split
  · exact (coverReferred_ensures hr focus false _).bind_pure fun _ _ => trivial
  · split
    · exact (coverRecursive_ensures hr focus).bind_pure fun _ _ => trivial
    · exact .pure trivial

end

/-! ## What a schema looks at -/

section

variable (hms : SoundBelow D r ms)
include hms

lemma coverPart_ensures (focus : Focus) (keyword : String) :
    Ensures D (coverPart focus c ((piecesOf r ms).one? keyword)) fun _ => True := by
  unfold coverPart
  split
  case h_1 p hp => exact (one?_sound hms hp).coverage focus c
  case h_2 => exact .pure trivial

lemma coverConditional_ensures (focus : Focus) :
    Ensures D (coverConditional focus c (piecesOf r ms)) fun _ => True := by
  unfold coverConditional
  split
  case h_1 p hp =>
    split
    · refine (coverPart_ensures hms focus "then").bind fun _ _ => ?_
      refine (coverPart_ensures hms focus "else").bind fun _ _ => ?_
      refine ((one?_sound hms hp).within c).bind fun _ _ => ?_
      exact ((one?_sound hms hp).coverage focus c).bind_pure fun _ _ => trivial
    · exact .pure trivial
  case h_2 => exact .pure trivial

lemma coverBranches_ensures (focus : Focus) (rule : BranchRule) (keyword : String) :
    Ensures D (coverBranches focus c rule ((piecesOf r ms).many? keyword)) fun _ => True := by
  unfold coverBranches
  split
  case h_1 => exact .pure trivial
  case h_2 parts hparts =>
    have hsound := many?_sound hms hparts
    refine (Ensures.mapM_all (Q := fun _ => True) fun p hp => ?_).bind_pure fun _ _ => trivial
    have hp := hsound p (List.mem_filter.mp hp).1
    exact (hp.within c).bind fun _ _ => (hp.coverage focus c).bind_pure fun _ _ => trivial

lemma coverCombinations_ensures (focus : Focus) :
    Ensures D (coverCombinations focus c (piecesOf r ms)) fun _ => True :=
  (coverBranches_ensures hms focus _ _).bind fun _ _ =>
    (coverBranches_ensures hms focus _ _).bind fun _ _ =>
      (coverBranches_ensures hms focus _ _).bind_pure fun _ _ => trivial

lemma coverSatisfying_ensures (keyword : String) :
    Ensures D (coverSatisfying c (piecesOf r ms) keyword) fun _ => True := by
  unfold coverSatisfying
  split
  case h_1 p hp => exact ((one?_sound hms hp).within c).bind_pure fun _ _ => trivial
  case h_2 => exact .pure trivial

lemma coverMembers_ensures : Ensures D (coverMembers c (piecesOf r ms)) fun _ => True := by
  have hnamed : Ensures D (coverNamed c ((piecesOf r ms).named? "properties")) fun _ => True := by
    unfold coverNamed
    split
    case h_1 parts hparts =>
      have hsound := named?_sound hms hparts
      exact (Ensures.mapM_all (Q := fun _ => True) fun p hp =>
        ((hsound p hp).within c).bind_pure fun _ _ => trivial).bind_pure fun _ _ => trivial
    case h_2 => exact .pure trivial
  have hdependent :
      Ensures D (coverDependent c ((piecesOf r ms).named? "dependentSchemas")) fun _ => True := by
    unfold coverDependent
    split
    case h_1 parts hparts =>
      have hsound := named?_sound hms hparts
      exact (Ensures.mapM_all (Q := fun _ => True) fun p hp =>
        ((hsound p hp).coverage _ c).bind_pure fun _ _ => trivial).imp fun _ _ => trivial
    case h_2 => exact .pure trivial
  have hmatching :
      Ensures D (coverMatching c ((piecesOf r ms).named? "patternProperties")) fun _ => True := by
    unfold coverMatching
    split
    case h_1 parts hparts =>
      have hsound := named?_sound hms hparts
      refine (Ensures.mapM_all (Q := fun _ => True) fun p hp => ?_).bind_pure fun _ _ => trivial
      split
      · exact ((hsound p hp).within c).bind_pure fun _ _ => trivial
      · exact .badPattern _ _
    case h_2 => exact .pure trivial
  exact hnamed.bind fun _ _ => hdependent.bind fun _ _ =>
    (coverSatisfying_ensures hms _).bind fun _ _ => hmatching.bind fun _ _ =>
      (coverSatisfying_ensures hms _).bind_pure fun _ _ => trivial

lemma coverItems_ensures (ms' : Members) :
    Ensures D (coverItems c ms' (piecesOf r ms)) fun _ => True :=
  (coverSatisfying_ensures hms _).bind fun _ _ =>
    (coverSatisfying_ensures hms _).bind_pure fun _ _ => trivial

lemma coverAll_ensures (hr : r.Sound D) (focus : Focus) (c : Context) :
    Ensures D (coverAll r ms (piecesOf r ms) focus c) fun _ => True := by
  unfold coverAll
  refine (coverReferences_ensures hr focus ms).bind fun _ _ => ?_
  refine (coverConditional_ensures hms focus).bind fun _ _ => ?_
  have hown : Ensures D (coverOwn c ms (piecesOf r ms) focus) fun _ => True := by
    cases focus with
    | members => exact coverMembers_ensures hms
    | items => exact coverItems_ensures hms ms
  refine hown.bind fun _ _ => ?_
  exact (coverCombinations_ensures hms focus).bind_pure fun _ _ => trivial

end

/-! ## Schemas -/

/-- Each keyword of a schema reports under names that belong to its member. -/
lemma read_ensures (hr : r.Sound D) (hms : SoundBelow D r ms)
    (hwf : (Value.object ms).WellFormed) {v : Value} (hget : Members.get? ms keyword = some v)
    (hw : Word.of? c.draft c.vocabularies keyword = some w) :
    Ensures D (w.read r c ms (piecesOf r ms) keyword v) (Family (Owned c.draft ms keyword)) := by
  have hv : v.WellFormed := Value.wellFormed_of_mem_members hwf.2 (Members.mem_of_get? hget)
  have hown {ks : List Keyword} (hmoved : w ∉ movedWords) (h : Family (· = keyword) ks) :
      Family (Owned c.draft ms keyword) ks := h.owned hw hmoved
  cases w with
  | additionalItems =>
    exact (readAdditionalItems_ensures hms keyword v).imp fun ks h => hown (by decide) h
  | additionalProperties =>
    cases Word.name_eq hw "additionalProperties" (by decide)
    exact readAdditional_ensures hms hwf hget c.draft
  | allOf =>
    cases Word.name_eq hw "allOf" (by decide)
    exact readMany_ensures hms (fun schemas h => hown (by decide) (.allOf h)) _ v
  | anyOf =>
    cases Word.name_eq hw "anyOf" (by decide)
    exact readMany_ensures hms (fun schemas h => hown (by decide) (.anyOf schemas)) _ v
  | oneOf =>
    cases Word.name_eq hw "oneOf" (by decide)
    exact readMany_ensures hms (fun schemas h => hown (by decide) (.oneOf schemas)) _ v
  | prefixItems => exact readMany_ensures hms (fun schemas h => hown (by decide) (.tuple h)) _ v
  -- what a condition leads to is read together with the condition
  | alternative | consequence => exact .pure .nil
  | condition =>
    cases Word.name_eq hw "if" (by decide)
    exact (readConditional_ensures hms _).imp fun ks h => h.imp fun name => owned_condition
  | contains =>
    cases Word.name_eq hw "contains" (by decide)
    exact (readContains_ensures hms _).imp fun ks h => h.imp fun name => owned_contains
  | dependencies | dependentSchemas =>
    exact (readDependent_ensures hms hwf keyword v).imp fun ks h => hown (by decide) h
  | dynamicReference | reference =>
    rw [Word.read.eq_def]
    dsimp only
    split
    · exact (readReference_ensures hr keyword _).imp fun ks h => hown (by decide) h
    · exact .wrongType _ _ _
  | recursiveReference =>
    rw [Word.read.eq_def]
    dsimp only
    split
    · exact (readRecursive_ensures hr keyword).imp fun ks h => hown (by decide) h
    · exact .wrongType _ _ _
  | items => exact (readItems_ensures hms keyword v).imp fun ks h => hown (by decide) h
  | not =>
    cases Word.name_eq hw "not" (by decide)
    exact readOne_ensures hms (fun s _ => hown (by decide) (.not v s)) _
  -- these two are read together with the keyword about further members, if there is one
  | patternProperties =>
    cases Word.name_eq hw "patternProperties" (by decide)
    rw [Word.read.eq_def]
    dsimp only
    split
    case isTrue => exact .pure .nil
    case isFalse htakes =>
      split
      case h_1 parts hparts =>
        refine (readMatching_ensures (named?_sound hms hparts) (named?_nodup hwf hparts) _).bind_pure
          fun matching hmatching => (Family.patternProperties hmatching).imp ?_
        rintro _ rfl
        exact owned_members (Bool.not_eq_true _ ▸ htakes) (by decide)
      case h_2 => exact .wrongType _ _ _
  | properties =>
    cases Word.name_eq hw "properties" (by decide)
    rw [Word.read.eq_def]
    dsimp only
    split
    case isTrue => exact .pure .nil
    case isFalse htakes =>
      split
      case h_1 parts hparts =>
        refine (readNamed_ensures (named?_sound hms hparts) (named?_nodup hwf hparts) _).bind_pure
          fun named hnamed => (Family.properties hnamed).imp ?_
        rintro _ rfl
        exact owned_members (Bool.not_eq_true _ ▸ htakes) (by decide)
      case h_2 => exact .wrongType _ _ _
  | propertyNames =>
    rw [Word.read.eq_def]
    dsimp only
    split
    · exact .pure .nil
    · exact .pure (hown (by decide) (.test _ _))
    · exact readOne_ensures hms (fun s _ => .propertyNames s) _
    · exact .wrongType _ _ _
  | unevaluatedItems =>
    exact readUnevaluated_ensures hms (coverAll_ensures hms hr _ c)
      (fun seen s => .unevaluatedItems seen s) keyword
  | unevaluatedProperties =>
    exact readUnevaluated_ensures hms (coverAll_ensures hms hr _ c)
      (fun seen s => .unevaluatedProperties seen s) keyword
  -- what is left holds no schema
  | bound o => exact readCondition_ensures hw hv (by simp [movedWords])
  | count m atLeast => exact readCondition_ensures hw hv (by simp [movedWords])
  | _ => exact readCondition_ensures hw hv (by decide)

/-- The members of a schema that count are members of it, each name once. -/
lemma effectiveMembers_sublist (d : Draft) (hwf : (Value.object ms).WellFormed) :
    ((effectiveMembers d ms).map Prod.fst).Nodup ∧
      ∀ m ∈ effectiveMembers d ms, Members.get? ms m.1 = some m.2 := by
  have hall : (ms.map Prod.fst).Nodup ∧ ∀ m ∈ ms, Members.get? ms m.1 = some m.2 :=
    ⟨Json.Members.nodup_of_increasing hwf.1, fun m hm => Members.get?_of_mem hwf.1 hm⟩
  unfold effectiveMembers
  split
  · exact hall
  · split
    case h_1 v hv =>
      refine ⟨List.nodup_singleton _, ?_⟩
      rw [List.forall_mem_singleton]
      exact hv
    case h_2 => exact hall

lemma assemble_ensures (hr : r.Sound D) (hms : SoundBelow D r ms)
    (hwf : (Value.object ms).WellFormed) (c : Context) :
    Ensures D (assemble r ms (piecesOf r ms) c) Form.Coherent := by
  obtain ⟨hnodup, hget⟩ := effectiveMembers_sublist c.draft hwf
  unfold assemble
  refine (Ensures.mapM fun m hm => ?_).bind_pure fun kss hkss =>
    Form.coherent_all (ownerOf c.draft ms) hnodup hkss
  split
  case h_1 w hw => exact read_ensures hr hms hwf (hget m hm) hw
  case h_2 => exact .pure .nil

/-- A part of a schema is smaller. -/
lemma sizeOf_of_isPart {keyword : String} {v : Value} (h : IsPart ms keyword v) :
    sizeOf v < sizeOf (Value.object ms) := by
  obtain ⟨u, hu, hv⟩ := h
  have hmember : sizeOf u < sizeOf ms := by
    have hlt := List.sizeOf_lt_of_mem hu
    rw [Prod.mk.sizeOf_spec] at hlt
    omega
  have hpart : v = u ∨ sizeOf v < sizeOf u := by
    have hbelow (hv : v ∈ schemasBelow u) : sizeOf v < sizeOf u := by
      cases u with
      | array vs =>
        have hlt : sizeOf v < sizeOf vs := List.sizeOf_lt_of_mem hv
        rw [Value.array.sizeOf_spec]
        omega
      | object ns =>
        obtain ⟨n, hn, rfl⟩ := List.mem_map.mp hv
        have hlt := List.sizeOf_lt_of_mem hn
        rw [← Prod.eta n, Prod.mk.sizeOf_spec] at hlt
        rw [Value.object.sizeOf_spec]
        omega
      | _ => exact absurd hv List.not_mem_nil
    unfold schemasOf at hv
    split at hv
    · exact .inl (List.eq_of_mem_singleton hv)
    · exact .inr (hbelow hv)
    · exact .inr (hbelow hv)
    · exact absurd hv List.not_mem_nil
  rw [Value.object.sizeOf_spec]
  obtain rfl | hpart := hpart <;> omega

lemma wellFormed_of_isPart (hwf : (Value.object ms).WellFormed) {v : Value}
    (h : IsPart ms keyword v) : v.WellFormed := by
  obtain ⟨u, hu, hv⟩ := h
  have hwfu : u.WellFormed := Value.wellFormed_of_mem_members hwf.2 hu
  have hbelow (hv : v ∈ schemasBelow u) : v.WellFormed := by
    cases u with
    | array vs => exact Value.wellFormed_of_mem_items hwfu hv
    | object ns =>
      obtain ⟨n, hn, rfl⟩ := List.mem_map.mp hv
      exact Value.wellFormed_of_mem_members hwfu.2 hn
    | _ => exact absurd hv List.not_mem_nil
  unfold schemasOf at hv
  split at hv
  · exact List.eq_of_mem_singleton hv ▸ hwfu
  · exact hbelow hv
  · exact hbelow hv
  · exact absurd hv List.not_mem_nil

/-- A schema without double names is read as a coherent one wherever it stands. -/
theorem Part.sound_of (hr : r.Sound D) : ∀ {v : Value}, v.WellFormed → (Part.of r v).Sound D
  | .bool b, _ => by
    refine ⟨fun c => .pure ?_, fun focus c => .pure trivial⟩
    cases b
    · exact Form.coherent_never
    · exact Form.coherent_always
  | .object ms, hwf => by
    have hms : SoundBelow D r ms := fun keyword w hw =>
      Part.sound_of hr (wellFormed_of_isPart hwf hw)
    exact ⟨assemble_ensures hr hms hwf, coverAll_ensures hms hr⟩
  | .null, _ => ⟨fun c => .wrongType _ _ _, fun focus c => .pure trivial⟩
  | .number n, _ => ⟨fun c => .wrongType _ _ _, fun focus c => .pure trivial⟩
  | .string s, _ => ⟨fun c => .wrongType _ _ _, fun focus c => .pure trivial⟩
  | .array vs, _ => ⟨fun c => .wrongType _ _ _, fun focus c => .pure trivial⟩
termination_by v => sizeOf v
decreasing_by exact sizeOf_of_isPart hw

end AgentManifest.Schema
