import AgentManifest.Proofs.Schema.Coherence
import AgentManifest.Proofs.Schema.Twins

/-!
# Schemas are read the same way among twins

A schema is read step by step, and each step gives the same when twins take the place of the
resources: it meets the same references and puts off twins. Only the keywords that refer to other
schemas can see the resources, and what they lead to is read the same way by assumption.
-/

namespace AgentManifest.Schema

open Json (Value Members Location)

variable {α β γ : Type}

/-! ## Steps -/

/-- What is put off at twins. -/
structure Deferred.Twin (d d' : Deferred) : Prop where
  contents : Schema.Twin d.contents d'.contents
  rest : d' = { d with contents := d'.contents }

/-- The same was met, and twins were put off. -/
structure Progress.Twin (p p' : Progress) : Prop where
  seen_eq : p.seen = p'.seen
  deferred : List.Forall₂ Deferred.Twin p.deferred p'.deferred

lemma Progress.Twin.start : Progress.start.Twin Progress.start := ⟨rfl, .nil⟩

namespace Compiling

/-- What a step gives, another gives as well, and keeps the progress of both alike. -/
def Mirrors (x y : Compiling α) : Prop :=
  ∀ ⦃p p'⦄, p.Twin p' → Carries (fun r r' => r.1 = r'.1 ∧ r.2.Twin r'.2) (x.run p) (y.run p')

namespace Mirrors

lemma pure (a : α) : Mirrors (Pure.pure a) (Pure.pure a) := fun _ _ hp => .ok ⟨rfl, hp⟩

lemma fail (place : Location) (f : Fault) (y : Compiling α) :
    Mirrors (Compiling.fail place f) y := fun _ _ _ => .error _ _

lemma bind {x y : Compiling α} {f g : α → Compiling β} (h : Mirrors x y)
    (hf : ∀ a, Mirrors (f a) (g a)) : Mirrors (x >>= f) (y >>= g) := by
  intro p p' hp
  refine Carries.bind (h hp) ?_
  rintro ⟨a, q⟩ ⟨_, q'⟩ ⟨rfl, hq⟩
  exact hf a hq

/-- Steps that need something first, which is related in both. -/
lemma lift_bind {R : α → β → Prop} {r : Except Fault α} {r' : Except Fault β}
    {f : α → Compiling γ} {g : β → Compiling γ} (h : Carries R r r')
    (hf : ∀ a b, R a b → Mirrors (f a) (g b)) : Mirrors (lift r >>= f) (lift r' >>= g) := by
  cases r with
  | error fault => exact fun _ _ _ => .error _ _
  | ok a =>
    obtain ⟨b, rfl, hab⟩ := h rfl
    exact hf a b hab

lemma lift (r : Except Fault α) : Mirrors (Compiling.lift r) (Compiling.lift r) := by
  cases r with
  | error fault => exact fail _ _ _
  | ok a => exact pure a

lemma land_bind {place : Location} {R : Landing → Landing → Prop} {r r' : Except Fault Landing}
    {f g : Landing → Compiling γ} (h : Carries R r r')
    (hf : ∀ a b, R a b → Mirrors (f a) (g b)) :
    Mirrors (land place r >>= f) (land place r' >>= g) := by
  cases r with
  | error fault =>
    cases fault <;> exact fun _ _ _ => .error _ _
  | ok a =>
    obtain ⟨b, rfl, hab⟩ := h rfl
    exact hf a b hab

lemma visit (id : String) : Mirrors (Compiling.visit id) (Compiling.visit id) := by
  intro p p' hp
  rw [run_visit, run_visit, ← hp.seen_eq]
  split
  · exact .ok ⟨rfl, hp⟩
  · exact .ok ⟨rfl, rfl, hp.deferred⟩

/-- Putting off what lies at twins. -/
lemma defer {l l' : Landing} (h : l.Twin l') (c : Context) (focus? : Option Focus)
    (scopes : List String) :
    Mirrors (Compiling.defer c focus? l scopes) (Compiling.defer c focus? l' scopes) := by
  unfold Compiling.defer
  rw [← h.detached_eq]
  refine (lift _).bind fun context => ?_
  intro p p' hp
  rw [← h.target_eq]
  exact .ok ⟨rfl, hp.seen_eq, .cons ⟨h.contents, rfl⟩ hp.deferred⟩

end Mirrors

/-- Mirroring, as a relation that steps keep. -/
def mirrors : Congruence where
  rel := Mirrors
  pure := Mirrors.pure
  fail _ _ _ _ := .fail _ _ _
  bind := Mirrors.bind

end Compiling

open Compiling (Mirrors mirrors)

/-! ## Readers -/

/-- Readers of twin registries that read twins the same way. -/
structure Reader.Mirrors (r r' : Reader) : Prop where
  registry : r.registry.Twin r'.registry
  form : ∀ ⦃v v'⦄, Twin v v' → ∀ c, Compiling.Mirrors (r.form v c) (r'.form v' c)
  coverage : ∀ ⦃v v'⦄, Twin v v' → ∀ focus c,
    Compiling.Mirrors (r.coverage focus v c) (r'.coverage focus v' c)

/-- Readers read a schema the same way. -/
structure ReadAlike (r r' : Reader) (v : Value) : Prop where
  form : ∀ c, Mirrors ((Part.of r v).form c) ((Part.of r' v).form c)
  coverage : ∀ focus c, Mirrors ((Part.of r v).coverage focus c) ((Part.of r' v).coverage focus c)

variable {r r' : Reader} {c : Context} {ms : Members}

lemma ReadAlike.within {v : Value} (h : ReadAlike r r' v) (c : Context) :
    Mirrors ((Part.of r v).within c) ((Part.of r' v).within c) := by
  rw [Part.within, Part.within, written_of, written_of]
  exact (Mirrors.lift _).bind h.form

/-- Readers read the schemas that the keywords of a schema hold the same way. -/
def ReadAlikeBelow (r r' : Reader) (ms : Members) : Prop :=
  ∀ keyword w, IsPart ms keyword w → ReadAlike r r' w

lemma ReadAlikeBelow.related (h : ReadAlikeBelow r r' ms) :
    RelatedBelow mirrors r r' c c (fun _ => True) ms :=
  fun keyword _ w hw _ => (h keyword w hw).within _

/-- The name of the draft is no keyword. -/
lemma Word.of?_schema (d : Draft) (vocabularies : List Vocabulary) :
    Word.of? d vocabularies "$schema" = none := by
  have hlookup : Word.known.lookup "$schema" = none := by decide
  rw [Word.of?, hlookup]

/-! ## References -/

section

variable (hr : r.Mirrors r')
include hr

/-- A reference leads to twins, which are read the same way. -/
lemma readReference_mirrors {keyword : String} (hkeyword : keyword ≠ "$schema") (text : String) :
    Mirrors (readReference r c keyword text) (readReference r' c keyword text) := by
  unfold readReference
  refine (Mirrors.lift _).bind fun id => (Mirrors.visit id).bind fun known => ?_
  refine .land_bind (hr.registry.follow c text) fun l l' hl => ?_
  rw [← hl.contents.get?_eq hkeyword, ← hl.landed_eq hr.registry]
  split
  · exact mirrors.bind_pure (hr.form hl.contents _) _
  · split
    · exact .pure []
    · have hscopes : l'.scopes = l.scopes := by rw [hl.rest]
      rw [hscopes]
      exact mirrors.bind_pure (Mirrors.defer hl c none l.scopes) _

lemma readRecursive_mirrors (keyword : String) :
    Mirrors (readRecursive r c keyword) (readRecursive r' c keyword) :=
  .lift_bind (hr.registry.followRecursive c) fun _ _ hl =>
    mirrors.bind_pure (Mirrors.defer hl c none c.scopes) _

lemma coverReference_mirrors (focus : Focus) (puttingOff : Bool) (text : String) :
    Mirrors (coverReference r focus c puttingOff text)
      (coverReference r' focus c puttingOff text) := by
  have hmeets : Mirrors (meetsAgain c puttingOff text) (meetsAgain c puttingOff text) := by
    unfold meetsAgain
    split
    · exact (Mirrors.lift _).bind fun id => .visit id
    · exact .pure false
  unfold coverReference
  refine hmeets.bind fun known => ?_
  refine .lift_bind (hr.registry.follow c text) fun l l' hl => ?_
  have hscopes : l'.scopes = l.scopes := by rw [hl.rest]
  have hdefer := mirrors.bind_pure (Mirrors.defer hl c (some focus) l.scopes)
    fun t => [Coverage.reference focus t]
  have hcover := hr.coverage hl.contents focus c
  have hcontents := hl.contents
  rw [hscopes]
  generalize l.contents = v, l'.contents = v' at hcover hcontents
  -- twins that differ are both objects, so both count or neither does
  cases hcontents with
  | refl =>
    cases v with
    | object ms =>
      dsimp only
      split
      · exact hdefer
      · exact mirrors.bind_pure hcover _
    | _ => exact .pure []
  | marked =>
    dsimp only
    split
    · exact hdefer
    · exact mirrors.bind_pure hcover _

lemma coverReferences_mirrors (focus : Focus) (ms : Members) :
    Mirrors (coverReferences r focus c ms) (coverReferences r' focus c ms) := by
  have hreferred (puttingOff : Bool) (v? : Option Value) :
      Mirrors (coverReferred r focus c puttingOff v?) (coverReferred r' focus c puttingOff v?) := by
    unfold coverReferred
    split
    · exact coverReference_mirrors hr focus puttingOff _
    · exact .pure []
  unfold coverReferences
  refine (hreferred _ _).bind fun plain => ?_
  split
  · exact mirrors.bind_pure (hreferred false _) _
  · split
    · refine mirrors.bind_pure ?_ _
      exact .lift_bind (hr.registry.followRecursive c) fun _ _ hl =>
        mirrors.bind_pure (Mirrors.defer hl c (some focus) c.scopes) _
    · exact .pure plain

end

/-! ## What a schema looks at -/

section

variable (hms : ReadAlikeBelow r r' ms)
include hms

lemma coverConditional_mirrors (focus : Focus) :
    Mirrors (coverConditional focus c (piecesOf r ms))
      (coverConditional focus c (piecesOf r' ms)) := by
  have hpart (name : String) : Mirrors (coverPart focus c ((piecesOf r ms).one? name))
      (coverPart focus c ((piecesOf r' ms).one? name)) := by
    obtain h | ⟨v, hv, h⟩ := one?_piecesOf ms name
    · rw [h, h]
      exact .pure _
    · rw [h, h]
      exact (hms name v hv).coverage focus c
  unfold coverConditional
  obtain h | ⟨v, hv, h⟩ := one?_piecesOf ms "if"
  · rw [h, h]
    exact .pure []
  · rw [h, h]
    simp only [written_of]
    split
    · exact (hpart "then").bind fun t => (hpart "else").bind fun e =>
        ((hms "if" _ hv).within c).bind fun s =>
          mirrors.bind_pure ((hms "if" _ hv).coverage focus c) _
    · exact .pure []

lemma coverBranches_mirrors (focus : Focus) (rule : BranchRule) (keyword : String) :
    Mirrors (coverBranches focus c rule ((piecesOf r ms).many? keyword))
      (coverBranches focus c rule ((piecesOf r' ms).many? keyword)) := by
  obtain h | ⟨vs, hvs, h⟩ := many?_piecesOf ms keyword
  · rw [h, h]
    exact .pure []
  · rw [h, h, coverBranches, coverBranches]
    simp only [List.filter_map, List.mapM_map, Function.comp_def, written_of]
    refine mirrors.bind_pure (mirrors.mapM fun v hv => ?_) _
    have hread := hms keyword v (hvs v (List.mem_filter.mp hv).1)
    exact (hread.within c).bind fun s => mirrors.bind_pure (hread.coverage focus c) _

lemma coverCombinations_mirrors (focus : Focus) :
    Mirrors (coverCombinations focus c (piecesOf r ms))
      (coverCombinations focus c (piecesOf r' ms)) :=
  (coverBranches_mirrors hms focus _ _).bind fun _ =>
    (coverBranches_mirrors hms focus _ _).bind fun _ =>
      mirrors.bind_pure (coverBranches_mirrors hms focus _ _) _

lemma coverSatisfying_mirrors (keyword : String) :
    Mirrors (coverSatisfying c (piecesOf r ms) keyword)
      (coverSatisfying c (piecesOf r' ms) keyword) := by
  unfold coverSatisfying
  obtain h | ⟨v, hv, h⟩ := one?_piecesOf ms keyword
  · rw [h, h]
    exact .pure []
  · rw [h, h]
    exact mirrors.bind_pure ((hms keyword v hv).within c) _

lemma coverMembers_mirrors :
    Mirrors (coverMembers c (piecesOf r ms)) (coverMembers c (piecesOf r' ms)) := by
  have hnamed : Mirrors (coverNamed c ((piecesOf r ms).named? "properties"))
      (coverNamed c ((piecesOf r' ms).named? "properties")) := by
    obtain h | ⟨ns, hns, h⟩ := named?_piecesOf ms "properties"
    · rw [h, h]
      exact .pure []
    · rw [h, h, coverNamed, coverNamed, List.mapM_map, List.mapM_map]
      exact mirrors.bind_pure (mirrors.mapM fun n hn =>
        mirrors.bind_pure ((hms _ n.2 (hns n hn)).within c) _) _
  have hdependent : Mirrors (coverDependent c ((piecesOf r ms).named? "dependentSchemas"))
      (coverDependent c ((piecesOf r' ms).named? "dependentSchemas")) := by
    obtain h | ⟨ns, hns, h⟩ := named?_piecesOf ms "dependentSchemas"
    · rw [h, h]
      exact .pure []
    · rw [h, h, coverDependent, coverDependent, List.mapM_map, List.mapM_map]
      exact mirrors.mapM fun n hn =>
        mirrors.bind_pure ((hms _ n.2 (hns n hn)).coverage .members c) _
  have hmatching : Mirrors (coverMatching c ((piecesOf r ms).named? "patternProperties"))
      (coverMatching c ((piecesOf r' ms).named? "patternProperties")) := by
    obtain h | ⟨ns, hns, h⟩ := named?_piecesOf ms "patternProperties"
    · rw [h, h]
      exact .pure []
    · rw [h, h, coverMatching, coverMatching, List.mapM_map, List.mapM_map]
      refine mirrors.bind_pure (mirrors.mapM fun n hn => ?_) _
      simp only [Function.comp_apply]
      split
      · exact mirrors.bind_pure ((hms _ n.2 (hns n hn)).within c) _
      · exact .fail _ _ _
  exact hnamed.bind fun _ => hdependent.bind fun _ =>
    (coverSatisfying_mirrors hms _).bind fun _ => hmatching.bind fun _ =>
      mirrors.bind_pure (coverSatisfying_mirrors hms _) _

lemma coverAll_mirrors (hr : r.Mirrors r') (focus : Focus) (c : Context) :
    Mirrors (coverAll r ms (piecesOf r ms) focus c) (coverAll r' ms (piecesOf r' ms) focus c) := by
  have hown : Mirrors (coverOwn c ms (piecesOf r ms) focus)
      (coverOwn c ms (piecesOf r' ms) focus) := by
    cases focus with
    | members => exact coverMembers_mirrors hms
    | items =>
      exact (coverSatisfying_mirrors hms _).bind fun _ =>
        mirrors.bind_pure (coverSatisfying_mirrors hms _) _
  exact (coverReferences_mirrors hr focus ms).bind fun _ =>
    (coverConditional_mirrors hms focus).bind fun _ => hown.bind fun _ =>
      mirrors.bind_pure (coverCombinations_mirrors hms focus) _

lemma readUnevaluated_mirrors (hr : r.Mirrors r') (keyword : String) (focus : Focus)
    (f : Coverage → Form → Keyword) :
    Mirrors (readUnevaluated r c ms (piecesOf r ms) keyword focus f)
      (readUnevaluated r' c ms (piecesOf r' ms) keyword focus f) := by
  unfold readUnevaluated
  obtain h | ⟨v, hv, h⟩ := one?_piecesOf ms keyword
  · rw [h, h]
    exact .pure []
  · rw [h, h]
    simp only [written_of]
    split
    · exact .pure []
    · exact (coverAll_mirrors hms hr focus c).bind fun seen =>
        mirrors.bind_pure ((hms keyword _ hv).within _) _

/-- Each keyword is read the same way. -/
lemma read_mirrors (hr : r.Mirrors r') {keyword : String} (hkeyword : keyword ≠ "$schema")
    (v : Value) (w : Word) :
    Mirrors (w.read r c ms (piecesOf r ms) keyword v)
      (w.read r' c ms (piecesOf r' ms) keyword v) := by
  have hrelated (hw : w ∉ referringWords) :
      Mirrors (w.read r c ms (piecesOf r ms) keyword v)
        (w.read r' c ms (piecesOf r' ms) keyword v) :=
    read_related hms.related trivial (fun _ _ => trivial) rfl v hw
  cases w with
  | dynamicReference | reference =>
    simp only [Word.read]
    split
    · exact readReference_mirrors hr hkeyword _
    · exact .fail _ _ _
  | recursiveReference =>
    simp only [Word.read]
    split
    · exact readRecursive_mirrors hr keyword
    · exact .fail _ _ _
  | unevaluatedItems => exact readUnevaluated_mirrors hms hr keyword _ _
  | unevaluatedProperties => exact readUnevaluated_mirrors hms hr keyword _ _
  | _ => exact hrelated (by simp [referringWords])

lemma assemble_mirrors (hr : r.Mirrors r') (c : Context) :
    Mirrors (assemble r ms (piecesOf r ms) c) (assemble r' ms (piecesOf r' ms) c) := by
  unfold assemble
  refine mirrors.bind_pure (mirrors.mapM fun m hm => ?_) _
  split
  case h_1 w hw =>
    refine read_mirrors hms hr ?_ m.2 w
    intro hname
    rw [hname, Word.of?_schema] at hw
    cases hw
  case h_2 => exact .pure []

end

/-- A schema is read the same way by readers that read twins the same way. -/
theorem readAlike_of (hr : r.Mirrors r') : ∀ v : Value, ReadAlike r r' v
  | .bool b => ⟨fun _ => .pure _, fun _ _ => .pure _⟩
  | .object ms => by
    have hms : ReadAlikeBelow r r' ms := fun keyword w hw => readAlike_of hr w
    exact ⟨assemble_mirrors hms hr, coverAll_mirrors hms hr⟩
  | .null => ⟨fun _ => .fail _ _ _, fun _ _ => .pure _⟩
  | .number n => ⟨fun _ => .fail _ _ _, fun _ _ => .pure _⟩
  | .string s => ⟨fun _ => .fail _ _ _, fun _ _ => .pure _⟩
  | .array vs => ⟨fun _ => .fail _ _ _, fun _ _ => .pure _⟩
termination_by v => sizeOf v
decreasing_by exact sizeOf_of_isPart hw

end AgentManifest.Schema
