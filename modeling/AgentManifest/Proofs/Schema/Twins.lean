import Mathlib.Data.List.Forall2
import AgentManifest.Proofs.Json.Members
import AgentManifest.Proofs.Schema.Filling

/-!
# Schemas that differ in the draft that they name

A schema that names draft 7 and one that names no draft, but is the same otherwise, refer to the
same resources, give the same names, and hold the same schemas. So a registry that is filled from
the one is filled from the other in the same steps, and references lead to the same places in both.
-/

namespace AgentManifest.Schema

open Json (Value Members Segment Location)

/-! ## Results -/

/-- What one computation gives, another gives as well, up to a relation. -/
def Carries {ε α β : Type} (R : α → β → Prop) (x : Except ε α) (y : Except ε β) : Prop :=
  ∀ ⦃a⦄, x = .ok a → ∃ b, y = .ok b ∧ R a b

namespace Carries

variable {ε α β γ δ : Type} {R : α → β → Prop} {Q : γ → δ → Prop}

lemma ok {a : α} {b : β} (h : R a b) : Carries R (.ok a : Except ε α) (.ok b) := by
  rintro _ ⟨⟩
  exact ⟨b, rfl, h⟩

lemma error (e : ε) (y : Except ε β) : Carries R (.error e) y := nofun

lemma refl (x : Except ε α) : Carries Eq x x := fun a ha => ⟨a, ha, rfl⟩

lemma bind {x : Except ε α} {y : Except ε β} {f : α → Except ε γ} {g : β → Except ε δ}
    (h : Carries R x y) (hf : ∀ a b, R a b → Carries Q (f a) (g b)) :
    Carries Q (x >>= f) (y >>= g) := by
  intro c hc
  obtain ⟨a, hx, ha⟩ := exists_of_bind_eq_ok hc
  obtain ⟨b, rfl, hab⟩ := h hx
  exact hf a b hab ha

/-- What comes behind the same computation. -/
lemma bind_same {x : Except ε α} {f : α → Except ε γ} {g : α → Except ε δ}
    (hf : ∀ a, Carries Q (f a) (g a)) : Carries Q (x >>= f) (x >>= g) :=
  (refl x).bind fun a _ h => h ▸ hf a

end Carries

/-! ## Values -/

/-- Draft 7 as a schema names it. -/
def draft7Mark : Value := .string "http://json-schema.org/draft-07/schema#"

/-- An object names no draft but draft 7. -/
def Marked (ms : Members) : Prop := ∀ m ∈ ms, m.1 = "$schema" → m.2 = draft7Mark

/-- Two values are the same, or they are schemas that differ in whether they name draft 7. -/
inductive Twin : Value → Value → Prop
  | refl (v : Value) : Twin v v
  | marked {ms ms' : Members} (h : Marked ms) (h' : Marked ms')
      (hrest : Members.without ms "$schema" = Members.without ms' "$schema") :
      Twin (.object ms) (.object ms')

variable {v v' : Value} {ms ms' : Members} {d : Draft}

lemma Twin.symm (h : Twin v v') : Twin v' v := by
  cases h with
  | refl => exact .refl v
  | marked h h' hrest => exact .marked h' h hrest.symm

/-- Draft 7 is named, or none. -/
lemma Marked.get?_schema (h : Marked ms) :
    Members.get? ms "$schema" = none ∨ Members.get? ms "$schema" = some draft7Mark := by
  cases hget : Members.get? ms "$schema" with
  | none => exact .inl rfl
  | some v => exact .inr (congrArg some (h _ (Members.mem_of_get? hget) rfl))

lemma Marked.draftOf_eq (h : Marked ms) : draftOf .draft7 (.object ms) = .ok .draft7 := by
  obtain hget | hget := h.get?_schema
  · simp only [draftOf, Value.get?, hget, Option.bind_none]
  · simp only [draftOf, Value.get?, hget]
    rfl

namespace Twin

/-- Twins have the same under all names but that of the draft. -/
lemma get?_eq (h : Twin v v') {name : String} (hname : name ≠ "$schema") :
    v.get? name = v'.get? name := by
  cases h with
  | refl => rfl
  | marked _ _ hrest =>
    rw [Value.get?, Value.get?, ← Members.get?_without _ hname, hrest,
      Members.get?_without _ hname]

lemma draftOf_eq (h : Twin v v') : draftOf .draft7 v = draftOf .draft7 v' := by
  cases h with
  | refl => rfl
  | marked h h' => rw [h.draftOf_eq, h'.draftOf_eq]

lemma identifier?_eq (h : Twin v v') (d : Draft) : d.identifier? v = d.identifier? v' := by
  have hid : d.idKeyword ≠ "$schema" := by cases d <;> decide
  simp only [Draft.identifier?, h.get?_eq hid, h.get?_eq (show "$ref" ≠ "$schema" by decide)]

lemma innerBase_eq (h : Twin v v') (d : Draft) (base : String) :
    innerBase d base v = innerBase d base v' := by
  rw [innerBase, h.identifier?_eq, innerBase]

lemma anchors_eq (h : Twin v v') (d : Draft) : d.anchors v = d.anchors v' := by
  have hid : d.idKeyword ≠ "$schema" := by cases d <;> decide
  simp only [Draft.anchors, h.get?_eq hid, h.get?_eq (show "$anchor" ≠ "$schema" by decide),
    h.get?_eq (show "$dynamicAnchor" ≠ "$schema" by decide)]

lemma vocabulariesOf?_eq (h : Twin v v') : vocabulariesOf? v = vocabulariesOf? v' := by
  simp only [vocabulariesOf?, h.get?_eq (show "$id" ≠ "$schema" by decide),
    h.get?_eq (show "$vocabulary" ≠ "$schema" by decide)]

lemma isRecursiveAnchor_eq (h : Twin v v') :
    Registry.isRecursiveAnchor v = Registry.isRecursiveAnchor v' := by
  simp only [Registry.isRecursiveAnchor,
    h.get?_eq (show "$recursiveAnchor" ≠ "$schema" by decide)]

end Twin

/-! ## Sizes -/

lemma Marked.nestingMembers_without (h : Marked ms) :
    Value.nestingMembers (Members.without ms "$schema") = Value.nestingMembers ms := by
  induction ms with
  | nil => rfl
  | cons m ms ih =>
    obtain ⟨k, v⟩ := m
    obtain ⟨hv, hms⟩ := List.forall_mem_cons.mp h
    rw [Members.without_cons, Value.nestingMembers]
    by_cases hk : k = "$schema"
    · have hmark : v = draft7Mark := hv hk
      rw [if_pos hk, ih hms, hmark]
      exact (Nat.zero_max _).symm
    · rw [if_neg hk, Value.nestingMembers, ih hms]

lemma Marked.collections_without (h : Marked ms) :
    collectionsInMembers (Members.without ms "$schema") = collectionsInMembers ms := by
  induction ms with
  | nil => rfl
  | cons m ms ih =>
    obtain ⟨k, v⟩ := m
    obtain ⟨hv, hms⟩ := List.forall_mem_cons.mp h
    rw [Members.without_cons, collectionsInMembers]
    by_cases hk : k = "$schema"
    · have hmark : v = draft7Mark := hv hk
      rw [if_pos hk, ih hms, hmark]
      exact (Nat.zero_add _).symm
    · rw [if_neg hk, collectionsInMembers, ih hms]

lemma Twin.nesting_eq (h : Twin v v') : v.nesting = v'.nesting := by
  cases h with
  | refl => rfl
  | marked h h' hrest =>
    rw [Value.nesting, Value.nesting, ← h.nestingMembers_without, hrest,
      h'.nestingMembers_without]

lemma Twin.collections_eq (h : Twin v v') : collections v = collections v' := by
  cases h with
  | refl => rfl
  | marked h h' hrest =>
    rw [collections, collections, ← h.collections_without, hrest, h'.collections_without]

/-! ## Schemas inside -/

lemma subschemasOf_schema (d : Draft) (v : Value) : d.subschemasOf "$schema" v = [] := by
  cases v <;> cases d <;> rfl

/-- The name of the draft holds no schemas. -/
lemma Twin.subschemas_eq (h : Twin v v') (d : Draft) : d.subschemas v = d.subschemas v' := by
  cases h with
  | refl => rfl
  | @marked ms ms' _ _ hrest =>
    have hnone (v : Value) : d.subschemasOf "$schema" v = [] := subschemasOf_schema d v
    rw [Draft.subschemas, Draft.subschemas, ← Members.flatMap_without hnone ms, hrest,
      Members.flatMap_without hnone]

/-! ## References inside -/

/-- A pointer into a schema leads to the same value in its twin, unless it leads to the name of the
draft. -/
lemma Twin.followLocal_cases (h : Twin v v') {pointer : List Char} (hpointer : pointer ≠ []) :
    followLocal v pointer = followLocal v' pointer ∨
      (∀ w ∈ followLocal v pointer, w = draft7Mark) ∧
        ∀ w ∈ followLocal v' pointer, w = draft7Mark := by
  have hmark {ms : Members} (h : Marked ms) {part : List Char} {parts : List (List Char)}
      (hname : String.ofList (unescapeName part) = "$schema") :
      ∀ w ∈ followParts (.object ms) (part :: parts), w = draft7Mark := by
    intro w hw
    rw [followParts] at hw
    · obtain hget | hget := h.get?_schema
      · simp only [pointerStep, hname, Value.get?, hget] at hw
        cases hw
      · simp only [pointerStep, hname, Value.get?, hget] at hw
        cases parts with
        | nil =>
          cases hw
          rfl
        | cons part parts => cases hw
    · rintro _ _ ⟨⟩
    · rintro _ _ _ ⟨⟩
  cases h with
  | refl => exact .inl rfl
  | @marked ms ms' h h' hrest =>
    unfold followLocal
    split
    case h_1 => exact absurd rfl hpointer
    case h_3 => exact .inl rfl
    case h_2 rest =>
      cases hparts : Uri.splitOnChar '/' rest with
      | nil => exact absurd hparts (splitOnChar_ne_nil _ _)
      | cons part parts =>
        -- only the first part can tell the twins apart, as what is below is the same
        by_cases hname : String.ofList (unescapeName part) = "$schema"
        · exact .inr ⟨hmark h hname, hmark h' hname⟩
        · have hget := (Twin.marked h h' hrest).get?_eq hname
          left
          rw [followParts, followParts]
          · simp only [pointerStep, hget]
          · rintro _ _ ⟨⟩
          · rintro _ _ _ ⟨⟩
          · rintro _ _ ⟨⟩
          · rintro _ _ _ ⟨⟩

/-- What a string refers to is nothing. -/
lemma externalOf_string (depth : Nat) (base text : String) :
    externalOf depth base (.string text) = pure [] := by
  cases depth with
  | zero => rfl
  | succ depth =>
    rw [externalOf]
    split
    · rfl
    · rfl

/-- The name of draft 7 needs no fetching. -/
lemma Marked.externalUnder_schema (h : Marked ms) (below : Value → Meeting (List String))
    (base : String) : externalUnder below base (.object ms) "$schema" = pure [] := by
  have hknown : isWellKnown "http://json-schema.org/draft-07/schema#" = true := by decide
  obtain hget | hget := h.get?_schema
  · simp only [externalUnder, Value.get?, hget, Option.bind_none]
  · simp only [externalUnder, Value.get?, hget, draft7Mark, Option.bind_some, Value.string?,
      hknown, true_or, if_true]

/-- Nothing is met below the name of draft 7, or where nothing is. -/
lemma nothing_below_mark {below : Value → Meeting (List String)}
    (hbelow : below draft7Mark = pure []) {u : Option Value} (hu : ∀ w ∈ u, w = draft7Mark) :
    (match u with
      | some w => below w
      | none => pure []) = pure [] := by
  cases u with
  | none => rfl
  | some w =>
    cases hu w rfl
    exact hbelow

/-- Twins refer to the same resources under the keyword of references. -/
lemma Twin.externalUnder_eq (h : Twin v v') {below : Value → Meeting (List String)}
    (hbelow : below draft7Mark = pure []) (base : String) :
    externalUnder below base v "$ref" = externalUnder below base v' "$ref" := by
  unfold externalUnder
  rw [h.get?_eq (show "$ref" ≠ "$schema" by decide)]
  split
  case h_1 => rfl
  case h_2 reference _ =>
    split
    case isTrue => rfl
    case isFalse hlocal =>
      refine bind_congr fun new => ?_
      split
      case isTrue => rfl
      case isFalse =>
        split
        case h_1 pointer hpointer =>
          -- a reference to the whole was left out before
          have hne : pointer ≠ [] := by
            rintro rfl
            exact hlocal (.inr (String.toList_injective hpointer))
          obtain heq | ⟨hv, hv'⟩ := h.followLocal_cases hne
          · rw [heq]
          · exact (nothing_below_mark hbelow hv).trans (nothing_below_mark hbelow hv').symm
        case h_2 => rfl

/-- Twins refer to the same resources. -/
lemma Twin.externalOf_eq (h : Twin v v') (depth : Nat) (base : String) :
    externalOf depth base v = externalOf depth base v' := by
  cases depth with
  | zero => rfl
  | succ depth =>
    have href := h.externalUnder_eq (externalOf_string depth base _) base
    cases h with
    | refl => rfl
    | marked h h' =>
      rw [externalOf, externalOf, href, h.externalUnder_schema, h'.externalUnder_schema]

/-! ## Resources -/

/-- Resources in one draft that are the same, or whose schemas differ in whether they name
draft 7. -/
structure Resource.Twin (r r' : Resource) : Prop where
  draft_eq : r.draft = r'.draft
  contents : Schema.Twin r.contents r'.contents
  same : r.draft = .draft7 ∨ r.contents = r'.contents

lemma Resource.Twin.refl (r : Resource) : r.Twin r := ⟨rfl, .refl _, .inr rfl⟩

/-- Names for twins. -/
structure NamedPlace.Twin (p p' : NamedPlace) : Prop where
  resource : p.resource.Twin p'.resource
  dynamic_eq : p.dynamic = p'.dynamic

/-- Entries under the same keys, with values that are related. -/
def Entries {κ α β : Type} (R : α → β → Prop) : List (κ × α) → List (κ × β) → Prop :=
  List.Forall₂ fun e e' => e.1 = e'.1 ∧ R e.2 e'.2

lemma Entries.lookup {κ α β : Type} [BEq κ] {R : α → β → Prop} {es : List (κ × α)}
    {es' : List (κ × β)} (h : Entries R es es') (key : κ) :
    Option.Rel R (es.lookup key) (es'.lookup key) := by
  induction h with
  | nil => exact .none
  | @cons e e' es es' he _ ih =>
    rw [← Prod.eta e, ← Prod.eta e', List.lookup_cons, List.lookup_cons, ← he.1]
    split
    · exact .some he.2
    · exact ih

section

variable {α β γ : Type} {R : α → β → Prop} {o : Option α} {o' : Option β}

lemma isSome_eq_of_rel (h : Option.Rel R o o') : o.isSome = o'.isSome := by
  cases h with
  | none => rfl
  | some => rfl

lemma bind_eq_of_rel (h : Option.Rel R o o') {f : α → Option γ} {g : β → Option γ}
    (hfg : ∀ a b, R a b → f a = g b) : o.bind f = o'.bind g := by
  cases h with
  | none => rfl
  | some hab => exact hfg _ _ hab

end

/-- Registries with twins under the same identifiers and names. -/
structure Registry.Twin (reg reg' : Registry) : Prop where
  resources : Entries Resource.Twin reg.resources reg'.resources
  names : Entries NamedPlace.Twin reg.names reg'.names

namespace Registry.Twin

variable {reg reg' : Registry} {r r' : Resource}

lemma refl (reg : Registry) : reg.Twin reg :=
  ⟨List.forall₂_same.mpr fun e _ => ⟨rfl, .refl e.2⟩,
    List.forall₂_same.mpr fun e _ => ⟨rfl, .refl e.2.resource, rfl⟩⟩

lemma find? (h : reg.Twin reg') (id : String) :
    Option.Rel Resource.Twin (reg.find? id) (reg'.find? id) := h.resources.lookup id

lemma insert (h : reg.Twin reg') (hr : r.Twin r') (id : String) :
    (reg.insert id r).Twin (reg'.insert id r') :=
  ⟨.cons ⟨rfl, hr⟩ h.resources, h.names⟩

/-- Twins give the same names. -/
lemma insertNames (h : reg.Twin reg') (hr : r.Twin r') (id : String) :
    (reg.insertNames id r).Twin (reg'.insertNames id r') := by
  refine ⟨h.resources, List.rel_append ?_ h.names⟩
  rw [← hr.draft_eq, ← hr.contents.anchors_eq]
  exact List.forall₂_map_left_iff.mpr (List.forall₂_map_right_iff.mpr
    (List.forall₂_same.mpr fun a _ => ⟨rfl, hr, rfl⟩))

lemma size_eq (h : reg.Twin reg') : reg.size = reg'.size := by
  have hcollections {vs vs' : List Value} (h : List.Forall₂ Schema.Twin vs vs') :
      collectionsInItems vs = collectionsInItems vs' := by
    induction h with
    | nil => rfl
    | cons hv _ ih => rw [collectionsInItems, hv.collections_eq, ih, collectionsInItems]
  exact hcollections (List.forall₂_map_left_iff.mpr (List.forall₂_map_right_iff.mpr
    (h.resources.imp fun _ _ he => he.2.contents)))

/-- A schema brings the same vocabularies into force in both. -/
lemma vocabularies_eq (h : reg.Twin reg') (hv : Schema.Twin v v') (hsame : d = .draft7 ∨ v = v') :
    reg.vocabularies d v = reg'.vocabularies d v' := by
  have hdraft : draftOf d v = draftOf d v' := by
    obtain rfl | rfl := hsame
    · exact hv.draftOf_eq
    · rfl
  have hfound (id : String) : ((reg.find? id).bind fun r => vocabulariesOf? r.contents) =
      (reg'.find? id).bind fun r => vocabulariesOf? r.contents :=
    bind_eq_of_rel (h.find? id) fun r r' hr => hr.contents.vocabulariesOf?_eq
  unfold Registry.vocabularies
  rw [hdraft]
  split
  · rfl
  · split
    · rw [hfound]
    · rfl
  · rfl

end Registry.Twin

/-! ## Filling -/

/-- What waits in twins. -/
structure Waiting.Twin (w w' : Waiting) : Prop where
  base_eq : w.base = w'.base
  resource : w.resource.Twin w'.resource

/-- Registries that are being filled, with twins to look through and the same to fetch. -/
structure Filling.Twin (f f' : Filling) : Prop where
  registry : f.registry.Twin f'.registry
  waiting : List.Forall₂ Waiting.Twin f.waiting f'.waiting
  external_eq : f.external = f'.external
  seen_eq : f.seen = f'.seen

section

variable {f f' : Filling}

lemma Registry.Twin.settle {reg reg' : Registry} (h : reg.Twin reg') {r r' : Resource}
    (hr : r.Twin r') (base : String) :
    Carries (fun a b => a.1 = b.1 ∧ a.2.Twin b.2) (reg.settle base r) (reg'.settle base r') := by
  rw [Registry.settle, Registry.settle, ← hr.draft_eq, ← hr.contents.identifier?_eq]
  split
  · exact .bind_same fun own => .ok ⟨rfl, h.insert hr own⟩
  · exact .ok ⟨rfl, h⟩

lemma Resource.Twin.childrenOf_eq {r r' : Resource} (h : r.Twin r') (base : String) :
    childrenOf base r = childrenOf base r' := by
  rw [childrenOf, childrenOf, h.draft_eq, h.contents.subschemas_eq]

lemma Waiting.forall₂_refl (ws : List Waiting) : List.Forall₂ Waiting.Twin ws ws :=
  List.forall₂_same.mpr fun w _ => ⟨rfl, .refl w.resource⟩

lemma lookThrough_carries (h : f.Twin f') {w w' : Waiting} (hw : w.Twin w')
    {rest rest' : List Waiting} (hrest : List.Forall₂ Waiting.Twin rest rest') :
    Carries Filling.Twin (lookThrough f w rest) (lookThrough f' w' rest') := by
  have hcontents := hw.resource.contents
  unfold lookThrough
  rw [← hw.base_eq]
  refine (h.registry.settle hw.resource w.base).bind ?_
  rintro ⟨base, reg⟩ ⟨_, reg'⟩ ⟨rfl, hreg⟩
  dsimp only
  rw [← h.seen_eq, ← h.external_eq, ← hcontents.nesting_eq, ← hcontents.externalOf_eq,
    ← hw.resource.childrenOf_eq]
  exact .bind_same fun met => .ok ⟨hreg.insertNames hw.resource base,
    List.rel_append hrest (Waiting.forall₂_refl _), rfl, rfl⟩

lemma fetch_carries (h : f.Twin f') (hwaiting : f.waiting = []) (hwaiting' : f'.waiting = [])
    (supplied : List (String × Value)) (draft : Draft) (uri : String) (rest : List String) :
    Carries Filling.Twin (fetch supplied draft f uri rest) (fetch supplied draft f' uri rest) := by
  have hsome (id : String) :
      (f.registry.find? id).isSome = (f'.registry.find? id).isSome :=
    isSome_eq_of_rel (h.registry.find? id)
  unfold fetch
  dsimp only
  rw [← hsome, hwaiting, hwaiting']
  split
  · exact .ok ⟨h.registry, .nil, rfl, h.seen_eq⟩
  · split
    · exact .error _ _
    · exact .bind_same fun arrived => .ok ⟨h.registry.insert (.refl _) _,
        Waiting.forall₂_refl _, rfl, h.seen_eq⟩

/-- Registries that are filled from twins are twins. -/
lemma fill_carries (supplied : List (String × Value)) (draft : Draft) (h : f.Twin f') :
    Carries Registry.Twin (fill supplied draft f) (fill supplied draft f') := by
  induction f using fill.induct supplied draft generalizing f' with
  | case1 f w rest hwaiting fault hlook =>
    rw [fill_of_waiting hwaiting, hlook]
    exact .error _ _
  | case2 f w rest hwaiting next hlook ih =>
    -- both fillings look through twins, and go on as twins
    have hws := h.waiting
    rw [hwaiting] at hws
    obtain ⟨w', rest', hw, hrest, hwaiting'⟩ := List.forall₂_cons_left_iff.mp hws
    obtain ⟨next', hlook', hnext⟩ := lookThrough_carries h hw hrest hlook
    rw [fill_of_waiting hwaiting, fill_of_waiting hwaiting', hlook, hlook']
    exact ih hnext
  | case3 f uri rest hwaiting hexternal fault hfetch =>
    rw [fill_of_external hwaiting hexternal, hfetch]
    exact .error _ _
  | case4 f uri rest hwaiting hexternal next hfetch ih =>
    have hws := h.waiting
    rw [hwaiting] at hws
    have hwaiting' := List.forall₂_nil_left_iff.mp hws
    have hexternal' := h.external_eq.symm.trans hexternal
    obtain ⟨next', hfetch', hnext⟩ :=
      fetch_carries h hwaiting hwaiting' supplied draft uri rest hfetch
    rw [fill_of_external hwaiting hexternal, fill_of_external hwaiting' hexternal', hfetch,
      hfetch']
    exact ih hnext
  | case5 f hwaiting hexternal =>
    have hws := h.waiting
    rw [hwaiting] at hws
    rw [fill_of_nil hwaiting hexternal,
      fill_of_nil (List.forall₂_nil_left_iff.mp hws) (h.external_eq.symm.trans hexternal)]
    exact .ok h.registry

end

/-- Twins in draft 7 have twin registries. -/
lemma build_carries (start : Registry) (base : String) (h : Twin v v')
    (supplied : List (String × Value)) :
    Carries Registry.Twin (start.build base .draft7 v supplied)
      (start.build base .draft7 v' supplied) := by
  have hr : Resource.Twin { contents := v, draft := .draft7 }
      { contents := v', draft := .draft7 } := ⟨rfl, h, .inl rfl⟩
  unfold Registry.build
  dsimp only
  split
  · exact .ok (.refl start)
  · exact fill_carries supplied .draft7
      ⟨(Registry.Twin.refl start).insert hr base, .cons ⟨rfl, hr⟩ .nil, rfl, rfl⟩

/-! ## Following -/

/-- Landings at twins. -/
structure Landing.Twin (l l' : Landing) : Prop where
  contents : Schema.Twin l.contents l'.contents
  same : l.draft = .draft7 ∨ l.contents = l'.contents
  rest : l' = { l with contents := l'.contents }

section

variable {l l' : Landing}

lemma Landing.Twin.of_contents {l : Landing} {w : Value} (hw : Schema.Twin l.contents w)
    (hsame : l.draft = .draft7 ∨ l.contents = w) : l.Twin { l with contents := w } :=
  ⟨hw, hsame, rfl⟩

/-- A reference is read in the same context at the end of both. -/
lemma Landing.Twin.landed_eq (h : l.Twin l') {reg reg' : Registry} (hreg : reg.Twin reg')
    (c : Context) : c.landed reg l = c.landed reg' l' := by
  rw [Context.landed, Context.landed, hreg.vocabularies_eq h.contents h.same, h.rest]

lemma Landing.Twin.detached_eq (h : l.Twin l') (c : Context) (scopes : List String) :
    c.detached { l with scopes } = c.detached { l' with scopes } := by
  simp only [Context.detached, h.contents.innerBase_eq]
  rw [h.rest]

lemma Landing.Twin.target_eq (h : l.Twin l') (c : Context) : c.target l = c.target l' := by
  rw [h.rest]
  rfl

/-- Nothing but the value itself can be reached from the name of draft 7. -/
lemma followPointer_mark {pointer base base' : String} {place place' way : Location} {w : Value}
    {parts : List (List Char)}
    (h : followPointer pointer d base place way draft7Mark parts = .ok (place', w, base')) :
    w = draft7Mark := by
  cases parts with
  | nil =>
    cases h
    rfl
  | cons part parts => cases h

/-- A pointer leads to twins, unless it leads to the name of draft 7. -/
lemma Twin.followPointer (h : Twin v v') {pointer base base' : String}
    {place place' way : Location} {w : Value} {parts : List (List Char)}
    (hw : Schema.followPointer pointer d base place way v parts = .ok (place', w, base'))
    (hmark : w ≠ draft7Mark) :
    ∃ w', Schema.followPointer pointer d base place way v' parts = .ok (place', w', base') ∧
      Twin w w' := by
  cases h with
  | refl => exact ⟨w, hw, .refl w⟩
  | @marked ms ms' h h' hrest =>
    cases parts with
    | nil =>
      cases hw
      exact ⟨_, rfl, .marked h h' hrest⟩
    | cons part parts =>
      by_cases hname : String.ofList (unescapeName part) = "$schema"
      · -- the name of the draft is all that lies there, and it is excluded
        exfalso
        obtain hget | hget := h.get?_schema
        · simp only [Schema.followPointer, pointerStep, hname, Value.get?, hget] at hw
          cases hw
        · simp only [Schema.followPointer, pointerStep, hname, Value.get?, hget] at hw
          obtain ⟨inner, -, hw⟩ := exists_of_bind_eq_ok hw
          exact hmark (followPointer_mark hw)
      · have hget := (Twin.marked h h' hrest).get?_eq hname
        refine ⟨w, ?_, .refl w⟩
        rw [← hw]
        simp only [Schema.followPointer, pointerStep, hget]

end

namespace Registry.Twin

variable {reg reg' : Registry} (h : reg.Twin reg')
include h

lemma named? (id name : String) :
    Option.Rel NamedPlace.Twin (reg.named? id name) (reg'.named? id name) := by
  have hown (own : String) := h.names.lookup (own, name)
  have hfind := h.find? id
  have hid := hown id
  unfold Registry.named?
  generalize reg.names.lookup (id, name) = p, reg'.names.lookup (id, name) = p' at hid ⊢
  generalize reg.find? id = r, reg'.find? id = r' at hfind ⊢
  cases hid with
  | some hp => exact .some hp
  | none =>
    cases hfind with
    | none => exact .none
    | some hr =>
      dsimp only
      rw [← hr.draft_eq, ← hr.contents.identifier?_eq]
      split
      · exact hown _
      · exact .none

lemma outermost {name id : String} {p p' : NamedPlace} (hp : p.Twin p') (scopes : List String) :
    (reg.outermost name id p scopes).1 = (reg'.outermost name id p' scopes).1 ∧
      (reg.outermost name id p scopes).2.Twin (reg'.outermost name id p' scopes).2 := by
  induction scopes generalizing id p p' with
  | nil => exact ⟨rfl, hp⟩
  | cons scope scopes ih =>
    have hnamed := h.named? scope name
    rw [Registry.outermost, Registry.outermost]
    generalize reg.named? scope name = q, reg'.named? scope name = q' at hnamed ⊢
    cases hnamed with
    | none => exact ih hp
    | some hq =>
      dsimp only
      rw [← hq.dynamic_eq]
      split
      · exact ih hq
      · exact ih hp

lemma followName (id name : String) (scopes : List String) :
    Carries Landing.Twin (reg.followName id name scopes) (reg'.followName id name scopes) := by
  have hnamed := h.named? id name
  unfold Registry.followName
  generalize reg.named? id name = p, reg'.named? id name = p' at hnamed ⊢
  cases hnamed with
  | none => exact .error _ _
  | @some p p' hp =>
    have hfound : (if p.dynamic then reg.outermost name id p scopes else (id, p)).1 =
          (if p'.dynamic then reg'.outermost name id p' scopes else (id, p')).1 ∧
        (if p.dynamic then reg.outermost name id p scopes else (id, p)).2.Twin
          (if p'.dynamic then reg'.outermost name id p' scopes else (id, p')).2 := by
      rw [← hp.dynamic_eq]
      split
      · exact h.outermost hp scopes
      · exact ⟨rfl, hp⟩
    dsimp only
    generalize (if p.dynamic then reg.outermost name id p scopes else (id, p)) = q,
      (if p'.dynamic then reg'.outermost name id p' scopes else (id, p')) = q' at hfound ⊢
    obtain ⟨hid, hq⟩ := hfound
    have hbase : NamedPlace.base q.2 id = NamedPlace.base q'.2 id := by
      rw [NamedPlace.base, NamedPlace.base, hq.dynamic_eq, hq.resource.draft_eq,
        hq.resource.contents.innerBase_eq]
    rw [← hid, ← hbase, ← hq.resource.draft_eq]
    exact .bind_same fun base => .ok (.of_contents hq.resource.contents hq.resource.same)

/-- A fragment leads to twins, unless it leads to the name of draft 7. -/
lemma followFragment {c : Context} {id fragment : String} {r r' : Resource} (hr : r.Twin r')
    {l : Landing} (hl : reg.followFragment c id r fragment = .ok l)
    (hmark : fragment.toList ≠ [] → l.contents ≠ draft7Mark) :
    ∃ l', reg'.followFragment c id r' fragment = .ok l' ∧ l.Twin l' := by
  unfold Registry.followFragment at hl ⊢
  dsimp only at hl ⊢
  rw [← hr.draft_eq]
  split at hl
  case h_1 =>
    cases hl
    exact ⟨_, rfl, .of_contents hr.contents hr.same⟩
  case h_2 rest hrest =>
    split at hl
    case h_1 => cases hl
    case h_2 parts hparts =>
      obtain ⟨⟨place, w, base⟩, hpointer, hl⟩ := exists_of_bind_eq_ok hl
      cases hl
      -- only in draft 7 there is anything to compare
      obtain hdraft | hsame := hr.same
      · have hne : fragment.toList ≠ [] := by
          rw [hrest]
          exact List.cons_ne_nil _ _
        obtain ⟨w', hpointer', hw⟩ := hr.contents.followPointer hpointer (hmark hne)
        rw [hpointer']
        exact ⟨_, rfl, .of_contents hw (.inl hdraft)⟩
      · rw [← hsame, hpointer]
        exact ⟨_, rfl, .of_contents (.refl w) (.inr rfl)⟩
  case h_3 => exact h.followName id fragment _ hl

lemma followAny {c : Context} {reference : String} {l : Landing}
    (hl : reg.followAny c reference = .ok l)
    (hmark : reference = "#" ∨ l.contents ≠ draft7Mark) :
    ∃ l', reg'.followAny c reference = .ok l' ∧ l.Twin l' := by
  unfold Registry.followAny at hl ⊢
  obtain ⟨⟨id, fragment⟩, href, hl⟩ := exists_of_bind_eq_ok hl
  have hfind := h.find? id
  rw [href]
  dsimp only [bind, Except.bind] at hl ⊢
  generalize reg.find? id = r, reg'.find? id = r' at hfind hl ⊢
  cases hfind with
  | none => cases hl
  | some hr =>
    refine h.followFragment hr hl fun hne => ?_
    obtain rfl | hmark := hmark
    · cases href
      exact absurd rfl hne
    · exact hmark

/-- A reference that leads to a schema leads to its twin. -/
lemma follow (c : Context) (reference : String) :
    Carries Landing.Twin (reg.follow c reference) (reg'.follow c reference) := by
  intro l hl
  unfold Registry.follow at hl ⊢
  obtain ⟨l₀, hany, hl⟩ := exists_of_bind_eq_ok hl
  have hfollow (hmark : l₀.contents ≠ draft7Mark) := h.followAny hany (.inr hmark)
  split at hl
  case h_1 b hb =>
    cases hl
    obtain ⟨l', hany', hl'⟩ := hfollow (by rw [hb]; exact nofun)
    have hb' : l'.contents = .bool b := by
      have htwin := hl'.contents
      rw [hb] at htwin
      generalize l'.contents = w at htwin ⊢
      cases htwin
      rfl
    rw [hany']
    dsimp only [bind, Except.bind]
    rw [hb']
    exact ⟨l', rfl, hl'⟩
  case h_2 ms hms =>
    cases hl
    obtain ⟨l', hany', hl'⟩ := hfollow (by rw [hms]; exact nofun)
    obtain ⟨ms', hms'⟩ : ∃ ms', l'.contents = .object ms' := by
      have htwin := hl'.contents
      rw [hms] at htwin
      generalize l'.contents = w at htwin ⊢
      cases htwin
      · exact ⟨_, rfl⟩
      · exact ⟨_, rfl⟩
    rw [hany']
    dsimp only [bind, Except.bind]
    rw [hms']
    exact ⟨l', rfl, hl'⟩
  case h_3 => cases hl

lemma outermostRoot (c : Context) {l l' : Landing} (hl : l.Twin l') (scopes : List String) :
    Carries Landing.Twin (reg.outermostRoot c l scopes) (reg'.outermostRoot c l' scopes) := by
  induction scopes generalizing l l' with
  | nil => exact .ok hl
  | cons scope scopes ih =>
    rw [Registry.outermostRoot, Registry.outermostRoot]
    refine (h.follow c scope).bind fun next next' hnext => ?_
    rw [← hnext.contents.isRecursiveAnchor_eq]
    split
    · exact ih hnext
    · exact .ok hl

/-- The root that the outermost resource decides on is a twin. -/
lemma followRecursive (c : Context) :
    Carries Landing.Twin (reg.followRecursive c) (reg'.followRecursive c) := by
  unfold Registry.followRecursive
  refine Carries.bind (R := Landing.Twin) (fun l hl => h.followAny hl (.inl rfl)) fun l l' hl => ?_
  have hscopes : l'.scopes = l.scopes := by rw [hl.rest]
  rw [← hl.contents.isRecursiveAnchor_eq, hscopes]
  split
  · exact h.outermostRoot c hl l.scopes
  · exact .ok hl

end Registry.Twin

end AgentManifest.Schema
