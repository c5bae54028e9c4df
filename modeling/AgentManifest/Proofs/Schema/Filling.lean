import AgentManifest.Proofs.Json.Gathering
import AgentManifest.Proofs.Json.Pointer
import AgentManifest.Proofs.Schema.Compilation

/-!
# Registries without double names

A registry is filled in steps: a schema that waits is looked through, or a resource is fetched. What
each step keeps holds of the registry at the end. So a registry that is filled from values without
double names holds only such, and so does whatever a reference leads to.
-/

namespace AgentManifest.Schema

open Json (Value Members Segment Location)

/-! ## Steps of filling -/

section

variable {supplied : List (String × Value)} {draft : Draft} {f next : Filling} {reg : Registry}

/-- A step of filling a registry. -/
inductive Filling.Step (supplied : List (String × Value)) (draft : Draft) : Filling → Filling → Prop
  | look {f next : Filling} {w : Waiting} {rest : List Waiting} (hwaiting : f.waiting = w :: rest)
      (h : lookThrough f w rest = .ok next) : Step supplied draft f next
  | fetch {f next : Filling} {uri : String} {rest : List String} (hwaiting : f.waiting = [])
      (hexternal : f.external = uri :: rest) (h : fetch supplied draft f uri rest = .ok next) :
      Step supplied draft f next

lemma fill_of_waiting {w : Waiting} {rest : List Waiting} (h : f.waiting = w :: rest) :
    fill supplied draft f = lookThrough f w rest >>= fill supplied draft := by
  rw [fill]
  split
  case h_1 hw =>
    cases hw.symm.trans h
    cases lookThrough f w rest <;> rfl
  case h_2 hw _ => cases hw.symm.trans h
  case h_3 hw _ => cases hw.symm.trans h

lemma fill_of_external (hwaiting : f.waiting = []) {uri : String} {rest : List String}
    (h : f.external = uri :: rest) :
    fill supplied draft f = fetch supplied draft f uri rest >>= fill supplied draft := by
  rw [fill]
  split
  case h_1 hw => cases hw.symm.trans hwaiting
  case h_2 he =>
    cases he.symm.trans h
    cases fetch supplied draft f uri rest <;> rfl
  case h_3 he => cases he.symm.trans h

lemma fill_of_nil (hwaiting : f.waiting = []) (hexternal : f.external = []) :
    fill supplied draft f = .ok f.registry := by
  rw [fill]
  split
  case h_1 hw => cases hw.symm.trans hwaiting
  case h_2 he => cases he.symm.trans hexternal
  case h_3 => rfl

/-- What every step keeps holds at the end. -/
theorem fill_invariant {I : Filling → Prop}
    (hstep : ∀ f next, I f → Filling.Step supplied draft f next → I next) (hf : I f)
    (h : fill supplied draft f = .ok reg) : ∃ last, I last ∧ last.registry = reg := by
  induction f using fill.induct supplied draft with
  | case1 f w rest hwaiting fault hlook =>
    rw [fill_of_waiting hwaiting, hlook] at h
    cases h
  | case2 f w rest hwaiting next hlook ih =>
    rw [fill_of_waiting hwaiting, hlook] at h
    exact ih (hstep f next hf (.look hwaiting hlook)) h
  | case3 f uri rest hwaiting hexternal fault hfetch =>
    rw [fill_of_external hwaiting hexternal, hfetch] at h
    cases h
  | case4 f uri rest hwaiting hexternal next hfetch ih =>
    rw [fill_of_external hwaiting hexternal, hfetch] at h
    exact ih (hstep f next hf (.fetch hwaiting hexternal hfetch)) h
  | case5 f hwaiting hexternal =>
    rw [fill_of_nil hwaiting hexternal] at h
    cases h
    exact ⟨f, hf, rfl⟩

end

/-! ## Schemas inside schemas -/

/-- What stands right below a value without double names has none. -/
lemma wellFormed_of_mem_schemasBelow {v w : Value} (h : v.WellFormed) (hw : w ∈ schemasBelow v) :
    w.WellFormed := by
  cases v with
  | array vs => exact Value.wellFormed_of_mem_items h hw
  | object ms =>
    obtain ⟨m, hm, rfl⟩ := List.mem_map.mp hw
    exact Value.wellFormed_of_mem_members h.2 hm
  | _ => exact absurd hw List.not_mem_nil

lemma wellFormed_of_get? {v w : Value} {name : String} (h : v.WellFormed)
    (hw : v.get? name = some w) : w.WellFormed := by
  cases v with
  | object ms => exact Value.wellFormed_of_mem_members h.2 (Members.mem_of_get? hw)
  | _ => cases hw

/-- The schemas that a member holds are its value, or stand right below it. -/
lemma mem_subschemasOf {d : Draft} {keyword : String} {v : Value} {s : Location × Value}
    (hs : s ∈ d.subschemasOf keyword v) : s.2 = v ∨ s.2 ∈ schemasBelow v := by
  have hnamed (ms : Members) (f : String × Value → Location)
      (hs : s ∈ ms.map fun m => (f m, m.2)) : s.2 ∈ schemasBelow (.object ms) := by
    obtain ⟨m, hm, rfl⟩ := List.mem_map.mp hs
    exact List.mem_map_of_mem hm
  unfold Draft.subschemasOf at hs
  dsimp only at hs
  split at hs
  · cases List.eq_of_mem_singleton hs
    exact .inl rfl
  · split at hs
    case h_1 vs =>
      split at hs
      · obtain ⟨i, hi, rfl⟩ := List.mem_mapIdx.mp hs
        exact .inr (List.getElem_mem hi)
      · exact absurd hs List.not_mem_nil
    case h_2 ms =>
      split at hs
      · exact .inr (hnamed ms _ hs)
      · split at hs
        · cases List.eq_of_mem_singleton hs
          exact .inl rfl
        · split at hs
          · exact .inr (hnamed ms _ (List.mem_filter.mp hs).1)
          · exact absurd hs List.not_mem_nil
    case h_3 => exact absurd hs List.not_mem_nil

lemma wellFormed_of_mem_subschemas {d : Draft} {v : Value} (h : v.WellFormed)
    {s : Location × Value} (hs : s ∈ d.subschemas v) : s.2.WellFormed := by
  cases v with
  | object ms =>
    obtain ⟨m, hm, hs⟩ := List.mem_flatMap.mp hs
    have hm := Value.wellFormed_of_mem_members h.2 hm
    obtain heq | hbelow := mem_subschemasOf hs
    · rwa [heq]
    · exact wellFormed_of_mem_schemasBelow hm hbelow
  | _ => exact absurd hs List.not_mem_nil

lemma splitOnChar_ne_nil (sep : Char) (cs : List Char) : Uri.splitOnChar sep cs ≠ [] := by
  induction cs with
  | nil => exact List.cons_ne_nil _ _
  | cons c cs ih =>
    rw [Uri.splitOnChar]
    split
    · exact List.cons_ne_nil _ _
    · split
      · exact List.cons_ne_nil _ _
      · exact List.cons_ne_nil _ _

lemma wellFormed_of_pointerStep {v w : Value} {part : List Char} {s : Segment} (h : v.WellFormed)
    (hw : pointerStep v part = .ok (s, w)) : w.WellFormed := by
  unfold pointerStep at hw
  split at hw
  case h_1 vs =>
    split at hw
    · cases hw
    · split at hw
      case h_1 hget =>
        cases hw
        exact Value.wellFormed_of_mem_items h (List.mem_of_getElem? hget)
      case h_2 => cases hw
  case h_2 =>
    dsimp only at hw
    split at hw
    case h_1 hget =>
      cases hw
      exact wellFormed_of_get? h hget
    case h_2 => cases hw

lemma wellFormed_of_followParts {v w : Value} {parts : List (List Char)} (h : v.WellFormed)
    (hw : followParts v parts = some w) : w.WellFormed := by
  induction parts generalizing v with
  | nil =>
    cases hw
    exact h
  | cons part parts ih =>
    rw [followParts.eq_def] at hw
    dsimp only at hw
    split at hw
    · cases hw
    · cases hw
    · split at hw
      case h_1 hstep => exact ih (wellFormed_of_pointerStep h hstep) hw
      case h_2 => cases hw

lemma wellFormed_of_followLocal {v w : Value} {pointer : List Char} (h : v.WellFormed)
    (hw : followLocal v pointer = some w) : w.WellFormed := by
  unfold followLocal at hw
  split at hw
  · cases hw
    exact h
  · exact wellFormed_of_followParts h hw
  · cases hw

lemma wellFormed_of_followPointer {pointer : String} {d : Draft} {base base' : String}
    {place way place' : Location} {v w : Value} {parts : List (List Char)} (h : v.WellFormed)
    (hw : followPointer pointer d base place way v parts = .ok (place', w, base')) :
    w.WellFormed := by
  induction parts generalizing base place way v with
  | nil =>
    cases hw
    exact h
  | cons part parts ih =>
    rw [followPointer] at hw
    split at hw
    case h_1 => cases hw
    case h_2 s u hstep =>
      obtain ⟨inner, -, hw⟩ := exists_of_bind_eq_ok hw
      exact ih (wellFormed_of_pointerStep h hstep) hw

/-! ## Registries -/

/-- No resource and no named place of a registry has double names. -/
structure Registry.WellFormed (reg : Registry) : Prop where
  resources : ∀ e ∈ reg.resources, e.2.contents.WellFormed
  names : ∀ e ∈ reg.names, e.2.resource.contents.WellFormed

/-- Nothing in a registry that is being filled has double names. -/
structure Filling.WellFormed (f : Filling) : Prop where
  registry : f.registry.WellFormed
  waiting : ∀ w ∈ f.waiting, w.resource.contents.WellFormed

namespace Registry.WellFormed

variable {reg : Registry}

lemma insert (h : reg.WellFormed) (id : String) {r : Resource} (hr : r.contents.WellFormed) :
    (reg.insert id r).WellFormed where
  resources := List.forall_mem_cons.mpr ⟨hr, h.resources⟩
  names := h.names

lemma insertNames (h : reg.WellFormed) (id : String) {r : Resource} (hr : r.contents.WellFormed) :
    (reg.insertNames id r).WellFormed where
  resources := h.resources
  names := List.forall_mem_append.mpr ⟨List.forall_mem_map.mpr fun _ _ => hr, h.names⟩

lemma settle (h : reg.WellFormed) {base base' : String} {r : Resource} {reg' : Registry}
    (hr : r.contents.WellFormed) (hsettle : reg.settle base r = .ok (base', reg')) :
    reg'.WellFormed := by
  unfold Registry.settle at hsettle
  split at hsettle
  case h_1 =>
    obtain ⟨own, -, hsettle⟩ := exists_of_bind_eq_ok hsettle
    cases hsettle
    exact h.insert _ hr
  case h_2 =>
    cases hsettle
    exact h

lemma find? (h : reg.WellFormed) {id : String} {r : Resource} (hr : reg.find? id = some r) :
    r.contents.WellFormed := h.resources (id, r) (mem_of_lookup hr)

lemma named? (h : reg.WellFormed) {id name : String} {p : NamedPlace}
    (hp : reg.named? id name = some p) : p.resource.contents.WellFormed := by
  unfold Registry.named? at hp
  split at hp
  case h_1 q hlookup =>
    cases hp
    exact h.names _ (mem_of_lookup hlookup)
  case h_2 =>
    split at hp
    case h_1 =>
      split at hp
      case h_1 own _ => exact h.names _ (mem_of_lookup hp)
      case h_2 => cases hp
    case h_2 => cases hp

lemma outermost (h : reg.WellFormed) {name id : String} {p : NamedPlace}
    (hp : p.resource.contents.WellFormed) (scopes : List String) :
    (reg.outermost name id p scopes).2.resource.contents.WellFormed := by
  induction scopes generalizing id p with
  | nil => exact hp
  | cons scope scopes ih =>
    rw [Registry.outermost]
    split
    case h_1 q hq =>
      split
      · exact ih (h.named? hq)
      · exact ih hp
    case h_2 => exact ih hp

lemma followName (h : reg.WellFormed) {id name : String} {scopes : List String} {l : Landing}
    (hl : reg.followName id name scopes = .ok l) : l.contents.WellFormed := by
  unfold Registry.followName at hl
  split at hl
  case h_1 => cases hl
  case h_2 p hp =>
    have hp := h.named? hp
    have howner : (if p.dynamic = true then reg.outermost name id p scopes
        else (id, p)).2.resource.contents.WellFormed := by
      split
      · exact h.outermost hp _
      · exact hp
    obtain ⟨base, -, hl⟩ := exists_of_bind_eq_ok hl
    cases hl
    exact howner

lemma followFragment (h : reg.WellFormed) {c : Context} {id fragment : String} {r : Resource}
    {l : Landing} (hr : r.contents.WellFormed)
    (hl : reg.followFragment c id r fragment = .ok l) : l.contents.WellFormed := by
  unfold Registry.followFragment at hl
  dsimp only at hl
  split at hl
  case h_1 =>
    cases hl
    exact hr
  case h_2 =>
    split at hl
    case h_1 => cases hl
    case h_2 =>
      obtain ⟨⟨place, contents, base⟩, hpointer, hl⟩ := exists_of_bind_eq_ok hl
      cases hl
      exact wellFormed_of_followPointer hr hpointer
  case h_3 => exact h.followName hl

lemma followAny (h : reg.WellFormed) {c : Context} {reference : String} {l : Landing}
    (hl : reg.followAny c reference = .ok l) : l.contents.WellFormed := by
  unfold Registry.followAny at hl
  obtain ⟨⟨id, fragment⟩, -, hl⟩ := exists_of_bind_eq_ok hl
  dsimp only at hl
  split at hl
  case h_1 => cases hl
  case h_2 r hr => exact h.followFragment (h.find? hr) hl

lemma follow (h : reg.WellFormed) {c : Context} {reference : String} {l : Landing}
    (hl : reg.follow c reference = .ok l) : l.contents.WellFormed := by
  unfold Registry.follow at hl
  obtain ⟨l', hany, hl⟩ := exists_of_bind_eq_ok hl
  split at hl
  case h_1 =>
    cases hl
    exact h.followAny hany
  case h_2 =>
    cases hl
    exact h.followAny hany
  case h_3 => cases hl

lemma outermostRoot (h : reg.WellFormed) {c : Context} {l l' : Landing}
    (hl : l.contents.WellFormed) (scopes : List String)
    (hl' : reg.outermostRoot c l scopes = .ok l') : l'.contents.WellFormed := by
  induction scopes generalizing l with
  | nil =>
    cases hl'
    exact hl
  | cons scope scopes ih =>
    rw [Registry.outermostRoot] at hl'
    obtain ⟨next, hnext, hl'⟩ := exists_of_bind_eq_ok hl'
    split at hl'
    · exact ih (h.follow hnext) hl'
    · cases hl'
      exact hl

lemma followRecursive (h : reg.WellFormed) {c : Context} {l : Landing}
    (hl : reg.followRecursive c = .ok l) : l.contents.WellFormed := by
  unfold Registry.followRecursive at hl
  obtain ⟨l', hany, hl⟩ := exists_of_bind_eq_ok hl
  split at hl
  · exact h.outermostRoot (h.followAny hany) _ hl
  · cases hl
    exact h.followAny hany

end Registry.WellFormed

/-! ## Filling -/

lemma Filling.WellFormed.lookThrough {f next : Filling} {w : Waiting} {rest : List Waiting}
    (h : f.WellFormed) (hwaiting : f.waiting = w :: rest)
    (hlook : Schema.lookThrough f w rest = .ok next) : next.WellFormed := by
  obtain ⟨hw, hrest⟩ := List.forall_mem_cons.mp (hwaiting ▸ h.waiting)
  unfold Schema.lookThrough at hlook
  obtain ⟨⟨base, reg⟩, hsettle, hlook⟩ := exists_of_bind_eq_ok hlook
  obtain ⟨⟨external, seen⟩, -, hlook⟩ := exists_of_bind_eq_ok hlook
  cases hlook
  refine ⟨(h.registry.settle hw hsettle).insertNames base hw, ?_⟩
  refine List.forall_mem_append.mpr ⟨hrest, List.forall_mem_map.mpr fun s hs => ?_⟩
  exact wellFormed_of_mem_subschemas hw hs

lemma wellFormed_of_supply {draft : Draft} {uri : String} {fragment : Option String} {v : Value}
    {r : Resource} {inner : List Waiting} (h : v.WellFormed)
    (hsupply : supply draft uri fragment v = .ok (r, inner)) :
    r.contents.WellFormed ∧ ∀ w ∈ inner, w.resource.contents.WellFormed := by
  unfold supply at hsupply
  obtain ⟨d, -, hsupply⟩ := exists_of_bind_eq_ok hsupply
  dsimp only at hsupply
  split at hsupply
  case h_1 w hw =>
    obtain ⟨d', -, hsupply⟩ := exists_of_bind_eq_ok hsupply
    cases hsupply
    refine ⟨h, ?_⟩
    rw [List.forall_mem_singleton]
    obtain ⟨pointer, -, hpointer⟩ := Option.bind_eq_some_iff.mp hw
    exact wellFormed_of_followLocal h hpointer
  case h_2 =>
    cases hsupply
    exact ⟨h, List.forall_mem_nil _⟩

lemma Filling.WellFormed.fetch {supplied : List (String × Value)} {draft : Draft}
    {f next : Filling} {uri : String} {rest : List String}
    (hsupplied : ∀ s ∈ supplied, s.2.WellFormed) (h : f.WellFormed)
    (hfetch : Schema.fetch supplied draft f uri rest = .ok next) : next.WellFormed := by
  unfold Schema.fetch at hfetch
  dsimp only at hfetch
  split at hfetch
  · cases hfetch
    exact ⟨h.registry, h.waiting⟩
  · split at hfetch
    case h_1 => cases hfetch
    case h_2 v hv =>
      obtain ⟨⟨r, inner⟩, hsupply, hfetch⟩ := exists_of_bind_eq_ok hfetch
      cases hfetch
      obtain ⟨hr, hinner⟩ := wellFormed_of_supply (hsupplied _ (mem_of_lookup hv)) hsupply
      refine ⟨h.registry.insert _ hr, ?_⟩
      refine List.forall_mem_append.mpr ⟨List.forall_mem_append.mpr ⟨h.waiting, hinner⟩, ?_⟩
      rw [List.forall_mem_singleton]
      exact hr

/-- A registry that is filled from values without double names has none. -/
lemma Registry.WellFormed.build {start reg : Registry} {base : String} {draft : Draft}
    {root : Value} {supplied : List (String × Value)} (hstart : start.WellFormed)
    (hroot : root.WellFormed) (hsupplied : ∀ s ∈ supplied, s.2.WellFormed)
    (h : start.build base draft root supplied = .ok reg) : reg.WellFormed := by
  unfold Registry.build at h
  dsimp only at h
  split at h
  · cases h
    exact hstart
  · have hstep (f next : Filling) (hf : f.WellFormed) (h : Filling.Step supplied draft f next) :
        next.WellFormed := by
      cases h with
      | look hwaiting hlook => exact hf.lookThrough hwaiting hlook
      | fetch _ _ hfetch => exact hf.fetch hsupplied hfetch
    have hroots : ∀ w ∈ [Waiting.mk base { contents := root, draft }],
        w.resource.contents.WellFormed := List.forall_mem_singleton.mpr hroot
    obtain ⟨last, hlast, rfl⟩ := fill_invariant hstep ⟨hstart.insert base hroot, hroots⟩ h
    exact hlast.registry

end AgentManifest.Schema
