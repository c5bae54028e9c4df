import AgentManifest.Schema.Registry

/-!
# Filling a registry

A registry is filled breadth first from a schema: each schema inside it that has an identifier of
its own is a resource, and resources that are referred to are fetched from those supplied.
-/

namespace AgentManifest.Schema

open Json (Value Members Segment Location)

/-- The references of a schema to the drafts' own schemas need no fetching. -/
def isWellKnown (reference : String) : Bool :=
  ["https://json-schema.org/draft/2020-12/", "https://json-schema.org/draft/2019-09/",
    "http://json-schema.org/draft-07/", "http://json-schema.org/draft-06/",
    "http://json-schema.org/draft-04/"].any fun known =>
      known.toList.isPrefixOf reference.toList

/-- Collecting references, with those met before and the identifiers that they stand under. Each
counts once. -/
abbrev Meeting := StateT (List (String × String)) (Except Fault)

/-- Whether a reference under an identifier is met for the first time. -/
def Meeting.isNew (base reference : String) : Meeting Bool :=
  modifyGet fun seen =>
    if seen.contains (base, reference) then (false, seen) else (true, (base, reference) :: seen)

/-- The resources that a keyword of a schema refers to, given those that schemas below it refer to. A
local reference is followed from the schema at hand, for what stands where no keyword leads; it leads
at least one level down. -/
def externalUnder (below : Value → Meeting (List String)) (base : String) (v : Value)
    (keyword : String) : Meeting (List String) := do
  match (v.get? keyword).bind Value.string? with
  | none => pure []
  | some reference =>
    if isWellKnown reference ∨ reference = "#" then pure []
    else if !(← Meeting.isNew base reference) then pure []
    else
      match reference.toList with
      | '#' :: pointer =>
        match followLocal v pointer with
        | some w => below w
        | none => pure []
      | _ => do pure [← resolveReference (splitFragment base).1 reference]

/-- The resources that a schema itself refers to, down to a depth. -/
def externalOf : Nat → String → Value → Meeting (List String)
  | 0, _, _ => pure []
  | depth + 1, base, v => do
    if "urn:".toList.isPrefixOf base.toList then pure []
    else
      let ofReference ← externalUnder (externalOf depth base) base v "$ref"
      let ofSchema ← externalUnder (externalOf depth base) base v "$schema"
      pure (ofReference ++ ofSchema)

/-- A schema waiting to be looked through, with the identifier of the resource around it. -/
structure Waiting where
  base : String
  resource : Resource

/-- The schemas right below a resource. -/
def childrenOf (base : String) (r : Resource) : List Waiting :=
  (r.draft.subschemas r.contents).map fun (_, v) =>
    { base, resource := { contents := v, draft := r.draft } }

/-- A registry being filled: the schemas to look through, the resources to fetch, and the references
met so far. -/
structure Filling where
  registry : Registry
  waiting : List Waiting
  external : List String
  seen : List (String × String)

/-- A registry with a schema under its own identifier, if it has one, and the identifier that the
references in the schema start from. -/
def Registry.settle (reg : Registry) (base : String) (r : Resource) :
    Except Fault (String × Registry) :=
  match r.draft.identifier? r.contents with
  | some id => do
    let own ← resolveReference base id
    .ok (own, reg.insert own r)
  | none => .ok (base, reg)

/-- Looks through one schema. -/
def lookThrough (f : Filling) (w : Waiting) (rest : List Waiting) : Except Fault Filling := do
  let (base, reg) ← f.registry.settle w.base w.resource
  let v := w.resource.contents
  let (external, seen) ← (externalOf (v.nesting + 1) base v).run f.seen
  .ok { registry := reg.insertNames base w.resource, waiting := rest ++ childrenOf base w.resource,
        external := f.external ++ external.filter fun u => !f.external.contains u, seen }

/-- A resource as it is supplied, and the schema in it that a fragment leads to. -/
def supply (draft : Draft) (uri : String) (fragment : Option String) (v : Value) :
    Except Fault (Resource × List Waiting) := do
  let r : Resource := { contents := v, draft := ← draftOf draft v }
  match fragment.bind fun p => followLocal v p.toList with
  | some w =>
    .ok (r, [{ base := uri, resource := { contents := w, draft := ← draftOf draft w } }])
  | none => .ok (r, [])

/-- Fetches one resource, unless it is there. -/
def fetch (supplied : List (String × Value)) (draft : Draft) (f : Filling) (uri : String)
    (rest : List String) : Except Fault Filling := do
  let (id, fragment) := splitFragment uri
  if (f.registry.find? id).isSome then .ok { f with external := rest }
  else
    match supplied.lookup id with
    | none => .error (.notSupplied id)
    | some v => do
      let (r, inner) ← supply draft uri fragment v
      .ok { f with
        registry := f.registry.insert id r, external := rest,
        waiting := f.waiting ++ inner ++ [{ base := id, resource := r }] }

/-! ## Filling to the end

Looking through a schema leaves the schemas below it, which are smaller all together. Fetching a
resource leaves fewer of those supplied to be fetched, or fewer references to follow. -/

mutual

/-- The number of values in a tree. -/
def valuesIn : Value → Nat
  | .array vs => 1 + valuesInItems vs
  | .object ms => 1 + valuesInMembers ms
  | _ => 1

/-- The number of values in some items. -/
def valuesInItems : List Value → Nat
  | [] => 0
  | v :: vs => valuesIn v + valuesInItems vs

/-- The number of values in some members. -/
def valuesInMembers : List (String × Value) → Nat
  | [] => 0
  | (_, v) :: ms => valuesIn v + valuesInMembers ms

end

theorem valuesInItems_append (vs vs' : List Value) :
    valuesInItems (vs ++ vs') = valuesInItems vs + valuesInItems vs' := by
  induction vs with
  | nil => exact (Nat.zero_add _).symm
  | cons v vs ih => rw [List.cons_append, valuesInItems, valuesInItems, ih, Nat.add_assoc]

theorem valuesInItems_le_of_sublist {vs vs' : List Value} (h : vs.Sublist vs') :
    valuesInItems vs ≤ valuesInItems vs' := by
  induction h with
  | slnil => exact Nat.le_refl _
  | cons v _ ih => exact Nat.le_trans ih (Nat.le_add_left _ _)
  | cons_cons v _ ih => exact Nat.add_le_add_left ih _

theorem valuesInMembers_eq (ms : Members) :
    valuesInMembers ms = valuesInItems (ms.map Prod.snd) := by
  induction ms with
  | nil => rfl
  | cons m ms ih => rw [valuesInMembers, ih, List.map_cons, valuesInItems]

/-- The schemas that a member holds have no more values than the member. -/
theorem values_subschemasOf (d : Draft) (keyword : String) (v : Value) :
    valuesInItems ((d.subschemasOf keyword v).map Prod.snd) ≤ valuesIn v := by
  have hnamed (ms : Members) (f : String × Value → Location) :
      valuesInItems ((ms.map fun m => (f m, m.2)).map Prod.snd) ≤ valuesIn (.object ms) := by
    rw [List.map_map, valuesIn, valuesInMembers_eq]
    exact Nat.le_add_left _ 1
  unfold Draft.subschemasOf
  dsimp only
  split
  · exact Nat.le_refl _
  · split
    case h_1 vs =>
      split
      · rw [List.mapIdx_eq_zipIdx_map, List.map_map, valuesIn]
        have hitems : (vs.zipIdx.map fun p => p.1) = vs := List.zipIdx_map_fst 0 vs
        exact hitems.symm ▸ Nat.le_add_left _ 1
      · exact Nat.zero_le _
    case h_2 ms =>
      split
      · exact hnamed ms _
      · split
        · exact Nat.le_of_eq (Nat.add_zero _)
        · split
          · exact Nat.le_trans (valuesInItems_le_of_sublist (List.filter_sublist.map Prod.snd))
              (hnamed ms _)
          · exact Nat.zero_le _
    case h_3 => exact Nat.zero_le _

/-- How large all that waits is. -/
def weight (waiting : List Waiting) : Nat :=
  valuesInItems (waiting.map fun w => w.resource.contents)

theorem weight_cons (w : Waiting) (waiting : List Waiting) :
    weight (w :: waiting) = valuesIn w.resource.contents + weight waiting := by
  rw [weight, List.map_cons, valuesInItems, ← weight]

theorem weight_append (waiting waiting' : List Waiting) :
    weight (waiting ++ waiting') = weight waiting + weight waiting' := by
  rw [weight, List.map_append, valuesInItems_append, ← weight, ← weight]

theorem weight_childrenOf (base : String) (r : Resource) :
    weight (childrenOf base r) < valuesIn r.contents := by
  have hcontents : (childrenOf base r).map (fun w => w.resource.contents) =
      (r.draft.subschemas r.contents).map Prod.snd := List.map_map
  rw [weight, hcontents]
  cases hv : r.contents with
  | object ms =>
    rw [Draft.subschemas, valuesIn]
    clear hv
    induction ms with
    | nil => exact Nat.zero_lt_one
    | cons m ms ih =>
      have hm := values_subschemasOf r.draft m.1 m.2
      rw [List.flatMap_cons, List.map_append, valuesInItems_append, valuesInMembers]
      omega
  | array vs =>
    rw [valuesIn]
    exact Nat.add_pos_left Nat.zero_lt_one _
  | _ => exact Nat.zero_lt_one

/-- How many of the resources supplied are not there yet. -/
def missing (supplied : List (String × Value)) (reg : Registry) : Nat :=
  supplied.countP fun s => (reg.find? s.1).isNone

theorem find?_insert (reg : Registry) (id : String) (r : Resource) (id' : String) :
    (reg.insert id r).find? id' = if id' = id then some r else reg.find? id' := by
  rw [Registry.find?, Registry.insert, List.lookup_cons]
  by_cases h : id' = id
  · rw [if_pos h, beq_iff_eq.mpr h]
  · rw [if_neg h, beq_eq_false_iff_ne.mpr h]
    rfl

theorem find?_insertNames (reg : Registry) (id : String) (r : Resource) (id' : String) :
    (reg.insertNames id r).find? id' = reg.find? id' := rfl

/-- What is there before a step is there after it. -/
def Registry.Grows (reg reg' : Registry) : Prop :=
  ∀ id, (reg.find? id).isSome → (reg'.find? id).isSome

theorem Registry.grows_insert (reg : Registry) (id : String) (r : Resource) :
    reg.Grows (reg.insert id r) := by
  intro id' h
  rw [find?_insert]
  split
  · rfl
  · exact h

theorem Registry.Grows.isNone_of_isNone {reg reg' : Registry} (h : reg.Grows reg') {id : String}
    (hnone : (reg'.find? id).isNone) : (reg.find? id).isNone := by
  rw [Option.isNone_iff_eq_none] at hnone ⊢
  cases hfind : reg.find? id with
  | none => rfl
  | some r =>
    have hsome := h id (Option.isSome_iff_exists.mpr ⟨r, hfind⟩)
    rw [hnone] at hsome
    cases hsome

theorem missing_le {reg reg' : Registry} (h : reg.Grows reg') (supplied : List (String × Value)) :
    missing supplied reg' ≤ missing supplied reg :=
  List.countP_mono_left fun _ _ hnone => h.isNone_of_isNone hnone

theorem missing_lt {reg reg' : Registry} (h : reg.Grows reg') {supplied : List (String × Value)}
    {s : String × Value} (hs : s ∈ supplied) (hnone : (reg.find? s.1).isNone)
    (hsome : (reg'.find? s.1).isSome) : missing supplied reg' < missing supplied reg := by
  induction supplied with
  | nil => cases hs
  | cons s' supplied ih =>
    have hle := missing_le h supplied
    have hhead : (if (reg'.find? s'.1).isNone then 1 else 0) ≤
        if (reg.find? s'.1).isNone then 1 else 0 := by
      split
      case isTrue hnone' => exact Nat.le_of_eq (if_pos (h.isNone_of_isNone hnone')).symm
      case isFalse => exact Nat.zero_le _
    rw [missing, missing, List.countP_cons, List.countP_cons, ← missing, ← missing]
    cases hs with
    | head =>
      rw [if_pos hnone, Option.isNone_eq_false_iff.mpr hsome, if_neg Bool.false_ne_true]
      omega
    | tail _ hs =>
      have hlt := ih hs
      omega

theorem grows_of_settle {reg reg' : Registry} {base base' : String} {r : Resource}
    (h : reg.settle base r = .ok (base', reg')) : reg.Grows reg' := by
  unfold Registry.settle at h
  split at h
  case h_1 id _ =>
    cases hown : resolveReference base id with
    | error fault =>
      rw [hown] at h
      cases h
    | ok own =>
      rw [hown] at h
      cases h
      exact reg.grows_insert _ r
  case h_2 =>
    cases h
    exact fun _ h => h

theorem lookThrough_decreases {f next : Filling} {w : Waiting} {rest : List Waiting}
    (h : lookThrough f w rest = .ok next) :
    f.registry.Grows next.registry ∧ weight next.waiting < weight (w :: rest) := by
  unfold lookThrough at h
  cases hsettle : f.registry.settle w.base w.resource with
  | error fault =>
    rw [hsettle] at h
    cases h
  | ok settled =>
    obtain ⟨base, reg⟩ := settled
    rw [hsettle] at h
    cases hmet : (externalOf (w.resource.contents.nesting + 1) base w.resource.contents).run
        f.seen with
    | error fault =>
      simp only [hmet, bind, Except.bind] at h
      cases h
    | ok met =>
      simp only [hmet, bind, Except.bind] at h
      cases h
      have hbelow := weight_childrenOf base w.resource
      have hgrows : f.registry.Grows reg := grows_of_settle hsettle
      refine ⟨hgrows, ?_⟩
      rw [weight_append, weight_cons]
      omega

theorem mem_of_lookup {α β : Type} [BEq α] [LawfulBEq α] {entries : List (α × β)} {a : α} {b : β}
    (h : entries.lookup a = some b) : (a, b) ∈ entries := by
  induction entries with
  | nil => cases h
  | cons e entries ih =>
    rw [List.lookup_cons] at h
    split at h
    case h_1 heq =>
      cases h
      rw [beq_iff_eq.mp heq]
      exact List.mem_cons_self
    case h_2 => exact List.mem_cons_of_mem _ (ih h)

theorem fetch_decreases {supplied : List (String × Value)} {draft : Draft} {f next : Filling}
    {uri : String} {rest : List String} (h : fetch supplied draft f uri rest = .ok next) :
    missing supplied next.registry < missing supplied f.registry ∨
      next.registry = f.registry ∧ next.waiting = f.waiting ∧ next.external = rest := by
  unfold fetch at h
  dsimp only at h
  split at h
  case isTrue =>
    cases h
    exact .inr ⟨rfl, rfl, rfl⟩
  case isFalse hnone =>
    split at h
    case h_1 => cases h
    case h_2 v hv =>
      cases hsupply : supply draft uri (splitFragment uri).2 v with
      | error fault =>
        rw [hsupply] at h
        cases h
      | ok arrived =>
        rw [hsupply] at h
        cases h
        refine .inl (missing_lt (f.registry.grows_insert _ _) (mem_of_lookup hv) ?_ ?_)
        · rwa [Bool.not_eq_true, Option.isSome_eq_false_iff] at hnone
        · rw [find?_insert, if_pos rfl]
          rfl

/-- Fills a registry until nothing is left to look through or to fetch. -/
def fill (supplied : List (String × Value)) (draft : Draft) (f : Filling) :
    Except Fault Registry :=
  match _hw : f.waiting, _he : f.external with
  | w :: rest, _ =>
    match _h : lookThrough f w rest with
    | .error fault => .error fault
    | .ok next => fill supplied draft next
  | [], uri :: rest =>
    match _h : fetch supplied draft f uri rest with
    | .error fault => .error fault
    | .ok next => fill supplied draft next
  | [], [] => .ok f.registry
termination_by (missing supplied f.registry, weight f.waiting, f.external.length)
decreasing_by
  · obtain ⟨hgrows, hlt⟩ := lookThrough_decreases _h
    rw [← _hw] at hlt
    obtain hless | hsame := Nat.lt_or_eq_of_le (missing_le hgrows supplied)
    · exact Prod.Lex.left _ _ hless
    · rw [hsame]
      exact Prod.Lex.right _ (Prod.Lex.left _ _ hlt)
  · obtain hless | ⟨hreg, hwaiting, hexternal⟩ := fetch_decreases _h
    · exact Prod.Lex.left _ _ hless
    · rw [hreg, hwaiting, hexternal, _he]
      exact Prod.Lex.right _ (Prod.Lex.right _ (Nat.lt_succ_self _))

/-- The registry of a root schema, on top of one that is there already. What is there under the
identifier of the root schema stays. -/
def Registry.build (start : Registry) (base : String) (draft : Draft) (root : Value)
    (supplied : List (String × Value)) : Except Fault Registry :=
  let r : Resource := { contents := root, draft }
  if (start.find? base).isSome then .ok start
  else
    fill supplied draft
      { registry := start.insert base r, waiting := [{ base, resource := r }], external := [],
        seen := [] }

end AgentManifest.Schema
