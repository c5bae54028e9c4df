import Mathlib.Data.List.TakeWhile
import AgentManifest.Proofs.Schema.Isolation
import AgentManifest.Proofs.Schema.SelfReference
import AgentManifest.Proofs.Uri.NumberSign

/-!
# References to supplied resources

A schema for one member may be written out, or it may be supplied under an identifier and referred
to. Documents are told the same either way, apart from the path of the keyword. Without the resource
the reference leads nowhere, and resources that nothing refers to have no effect.
-/

namespace AgentManifest.Schema

open Json (Value Members Location)
open Compiling (Settles)
open Uri (Unmarked)
open Report (Violation)

variable {supplied : List (String × Value)} {draft : Draft}

/-! ## Finding the resource -/

/-- A schema for one member. -/
def memberSchema (k : String) (v : Value) : Value := .object [("properties", .object [(k, v)])]

lemma unlinked_memberSchema (k : String) (v : Value) : Unlinked (memberSchema k v) := by
  have hname : "properties" ∉ linkingKeywords := by decide
  have hkeys : ∀ m ∈ [("properties", Value.object [(k, v)])], m.1 ∉ linkingKeywords :=
    List.forall_mem_singleton.mpr hname
  exact fun keyword hkeyword => get?_linkingKeyword hkeys hkeyword

/-- A schema for one member is isolated if what is written out there is. -/
lemma isolated_memberSchema (k : String) {v : Value} (h : Isolated v) :
    Isolated (memberSchema k v) := by
  have hinside : schemasInside (memberSchema k v) = [v, v] := rfl
  refine .intro (unlinked_memberSchema k v) fun w hw => ?_
  rw [hinside] at hw
  obtain rfl : w = v := by simpa using hw
  exact h

lemma childrenOf_memberSchema (k : String) (v : Value) (base : String) :
    childrenOf base { contents := memberSchema k v, draft := .draft7 } =
      [{ base, resource := { contents := v, draft := .draft7 } }] := rfl

section

variable {u id : String}

lemma splitFragment_of_unmarked (h : Unmarked u.toList) : splitFragment u = (u, none) := by
  have htake : u.toList.takeWhile (· != '#') = u.toList :=
    List.takeWhile_eq_self_iff.mpr fun c hc => bne_iff_ne.mpr fun hsign => h (hsign ▸ hc)
  rw [splitFragment, htake, List.drop_length]

/-- A reference without a number sign leads to a whole resource. -/
lemma referred_of_unmarked (h : Unmarked u.toList) (base : String) :
    Registry.referred base u = resolveReference base u >>= fun id => .ok (id, "") := by
  have htake : u.toList.reverse.takeWhile (· != '#') = u.toList.reverse :=
    List.takeWhile_eq_self_iff.mpr fun c hc => bne_iff_ne.mpr fun hsign =>
      h (hsign ▸ List.mem_reverse.mp hc)
  unfold Registry.referred
  split
  case h_1 fragment hu => exact absurd (hu ▸ List.mem_cons_self) h
  case h_2 =>
    dsimp only
    rw [htake, List.reverse_reverse, if_pos rfl]

lemma referred_of_resolves (h : Unmarked u.toList) {base : String}
    (hid : resolveReference base u = .ok id) : Registry.referred base u = .ok (id, "") := by
  rw [referred_of_unmarked h, hid]
  rfl

/-- What a reference without a number sign is resolved to has none. -/
lemma unmarked_of_resolveReference (h : Unmarked u.toList) {id : String}
    (hid : resolveReference defaultBase u = .ok id) : Unmarked id.toList := by
  have hbase : Unmarked defaultBase.toList := by
    rw [Unmarked]
    decide
  unfold resolveReference at hid
  split at hid
  case isTrue =>
    cases hid
    exact hbase
  case isFalse =>
    split at hid
    case h_1 => cases hid
    case h_2 => cases hid
    case h_3 r b hr hb =>
      split at hid
      · cases hid
      · split at hid
        · cases hid
          have hread := Uri.parse_yields h false r hr
          have hbaseRead := Uri.parse_yields hbase false b hb
          rw [String.toList_ofList]
          exact (hread.resolve hbaseRead).normalize.text
        · cases hid

/-- The resources that a schema refers to that only refers to another. -/
lemma externalOf_referenceTo (h : Unmarked u.toList) (depth : Nat) :
    (externalOf (depth + 1) defaultBase (referenceTo u)).run [] =
      if isWellKnown u then .ok ([], []) else
        resolveReference defaultBase u >>= fun id => .ok ([id], [(defaultBase, u)]) := by
  have hurn : ¬ "urn:".toList.isPrefixOf defaultBase.toList = true := by decide
  have hfront : (splitFragment defaultBase).1 = defaultBase := rfl
  have hhash : u ≠ "#" := by
    rintro rfl
    exact h (List.mem_singleton_self '#')
  have hget : ((referenceTo u).get? "$ref").bind Value.string? = some u := rfl
  have hschema : ((referenceTo u).get? "$schema").bind Value.string? = none := rfl
  rw [externalOf, if_neg hurn]
  unfold externalUnder
  simp only [hget, hschema, hhash, or_false]
  by_cases hknown : isWellKnown u = true
  · rw [if_pos hknown, if_pos hknown]
    rfl
  · rw [if_neg hknown, if_neg hknown]
    split
    case h_1 pointer hu => exact absurd (hu ▸ List.mem_cons_self) h
    case h_2 =>
      rw [hfront]
      cases resolveReference defaultBase u with
      | error fault => rfl
      | ok id => rfl

/-- The root schema that refers to a resource in a schema for one member. -/
def referring (k u : String) : Value := memberSchema k (referenceTo u)

/-- A registry with the root schema, and a resource to fetch for it. -/
def Filling.fetching (start : Registry) (k u id : String) : Filling :=
  { registry := start.withRoot (referring k u), waiting := [], external := [id],
    seen := [(defaultBase, u)] }

/-- The registry is filled with what the reference leads to. -/
lemma fill_referring (h : Unmarked u.toList) (start : Registry) (k : String)
    (supplied : List (String × Value)) :
    fill supplied .draft7 (.below start (referring k u)) =
      if isWellKnown u then .ok (start.withRoot (referring k u)) else
        resolveReference defaultBase u >>= fun id =>
          fetch supplied .draft7 (.fetching start k u id) id [] >>= fill supplied .draft7 := by
  have hid : Draft.identifier? .draft7 (referenceTo u) = none := rfl
  have hanchors : Draft.anchors .draft7 (referenceTo u) = [] := rfl
  have hchildren : childrenOf defaultBase { contents := referenceTo u, draft := .draft7 } = [] := rfl
  have hwaiting : (Filling.below start (referring k u)).waiting =
      [{ base := defaultBase, resource := { contents := referenceTo u, draft := .draft7 } }] :=
    childrenOf_memberSchema k _ _
  have hlook : lookThrough (.below start (referring k u))
      { base := defaultBase, resource := { contents := referenceTo u, draft := .draft7 } } [] =
      if isWellKnown u then
        .ok { registry := start.withRoot (referring k u), waiting := [], external := [], seen := [] }
      else resolveReference defaultBase u >>= fun id => .ok (.fetching start k u id) := by
    have hexternal := externalOf_referenceTo h (referenceTo u).nesting
    simp only [lookThrough, Filling.below, Registry.settle, hid, Registry.insertNames, hanchors,
      hchildren, hexternal, bind, Except.bind]
    by_cases hknown : isWellKnown u = true
    · rw [if_pos hknown, if_pos hknown]
      rfl
    · rw [if_neg hknown, if_neg hknown]
      cases resolveReference defaultBase u with
      | error fault => rfl
      | ok id => rfl
  rw [fill_of_waiting hwaiting, hlook]
  split
  · exact fill_of_nil rfl rfl
  · cases resolveReference defaultBase u with
    | error fault => rfl
    | ok id => exact fill_of_external rfl rfl

/-- Nothing is fetched that is not supplied. -/
lemma fetch_of_lookup_eq_none (h : Unmarked id.toList) {f : Filling} (hfind : f.registry.find? id = none)
    (hlookup : supplied.lookup id = none) (rest : List String) :
    fetch supplied draft f id rest = .error (.notSupplied id) := by
  simp only [fetch, splitFragment_of_unmarked h, hfind, hlookup]
  rfl

/-- An isolated resource that is supplied is fetched. -/
lemma fetch_isolated (h : Unmarked id.toList) {f : Filling} (hfind : f.registry.find? id = none)
    {P : Value} (hP : Isolated P) (hlookup : supplied.lookup id = some P) (rest : List String) :
    fetch supplied .draft7 f id rest = .ok { f with
      registry := f.registry.insert id { contents := P, draft := .draft7 }, external := rest,
      waiting := f.waiting ++ [] ++
        [{ base := id, resource := { contents := P, draft := .draft7 } }] } := by
  simp only [fetch, splitFragment_of_unmarked h, hfind, hlookup, supply, hP.unlinked.draftOf_eq]
  rfl

end

/-! ## Reading what refers to the resource -/

section

variable {r : Reader} {c : Context} (hc : c.draft = .draft7)
include hc

lemma form_memberSchema_eq (k : String) (v : Value) :
    (Part.of r (memberSchema k v)).form c = (do
      let form ← (Part.of r v).within (c.down [.key "properties", .key k])
      pure (.all [.properties [(k, form)]])) := by
  obtain ⟨draft, vocabularies, base, scopes, place⟩ := c
  cases hc
  have hread : (Part.of r (memberSchema k v)).form ⟨.draft7, vocabularies, base, scopes, place⟩ =
      (do
        let kss ← [("properties", Value.object [(k, v)])].mapM fun _ => (do
          let named ← readNamed ⟨.draft7, vocabularies, base, scopes, place⟩ "properties"
            [(k, Part.of r v)]
          pure [Keyword.properties named])
        pure (.all kss.flatten)) := rfl
  rw [hread]
  simp only [readNamed, List.mapM_cons, List.mapM_nil, bind_assoc, pure_bind,
    List.flatten_singleton]

lemma form_referenceTo_eq (u : String) :
    (Part.of r (referenceTo u)).form c = (do
      let ks ← readReference r c "$ref" u
      pure (.all ks)) := by
  obtain ⟨draft, vocabularies, base, scopes, place⟩ := c
  cases hc
  have hread : (Part.of r (referenceTo u)).form ⟨.draft7, vocabularies, base, scopes, place⟩ =
      (do
        let kss ← [("$ref", Value.string u)].mapM fun _ =>
          readReference r ⟨.draft7, vocabularies, base, scopes, place⟩ "$ref" u
        pure (.all kss.flatten)) := rfl
  rw [hread]
  simp only [List.mapM_cons, List.mapM_nil, bind_assoc, pure_bind, List.flatten_singleton]

/-- A schema for one member that refers to a resource is read as the reference is. -/
lemma form_referring_eq (k u : String) :
    (Part.of r (referring k u)).form c = (do
      let ks ← readReference r (c.down [.key "properties", .key k]) "$ref" u
      pure (.all [.properties [(k, .all ks)]])) := by
  have hdown : (c.down [.key "properties", .key k]).draft = .draft7 := hc
  rw [referring, form_memberSchema_eq hc, Part.within, written_of,
    enter_of_get?_eq_none hdown rfl rfl]
  simp only [Compiling.lift, pure_bind, form_referenceTo_eq hdown, bind_assoc]

/-- A schema for one member reads as the form of what is written out there. -/
lemma form_memberSchema (k : String) {v : Value} {form : Form} (h : Reads v form) :
    ((Part.of r (memberSchema k v)).form c).Settles (.all [.properties [(k, form)]]) := by
  rw [form_memberSchema_eq hc]
  exact (h r (c.down _) hc).bind (Settles.pure _)

end

/-- Where the reference of a root schema for one member stands. -/
def Context.atMember (k : String) : Context :=
  Context.atDefaultBase.down [.key "properties", .key k]

/-- A root schema for one member that refers to a resource is linked as the reference is read. -/
lemma link_referring (reg : Registry) (k u : String) :
    link reg none .atDefaultBase (referring k u) =
      (readReference reg.reader (.atMember k) "$ref" u).run Progress.start >>= fun read =>
        .ok { id? := none, root := .all [.properties [(k, .all read.1)]],
              table := Table.complete reg.reader reg.exploration {} read.2.deferred } := by
  have henter : Context.atDefaultBase.enterAs Context.atDefaultBase.draft (referring k u) =
      .ok .atDefaultBase := (unlinked_memberSchema k _).enterAs_eq rfl
  have hform : (Part.of reg.reader (referring k u)).form .atDefaultBase = _ :=
    form_referring_eq rfl k u
  rw [link, henter]
  simp only [Compiling.lift, pure_bind, hform, Context.atMember, StateT.run_bind]
  generalize (readReference _ _ _ _).run _ = read
  cases read with
  | error flaw => rfl
  | ok read => rfl

/-- References are followed at least once. -/
lemma Registry.reader_eq (reg : Registry) : ∃ n, reg.reader = Reader.following reg (n + 1) := by
  obtain ⟨n, hn⟩ : ∃ n, Nat.pow (2 * reg.size + 2) 2 = n + 1 :=
    Nat.exists_eq_add_one.mpr (Nat.pow_pos (Nat.succ_pos _))
  exact ⟨n, congrArg (Reader.following reg) hn⟩

/-- Such a schema reads as the form of the resource, under the keyword that refers to it. -/
lemma root_of_link_referring {reg : Registry} {k u id : String} {s : Compiled} {ms : Members}
    (hreferred : Registry.referred defaultBase u = .ok (id, ""))
    (hfind : reg.find? id = some { contents := .object ms, draft := .draft7 })
    (hfree : ReferenceFree (.object ms))
    (h : link reg none .atDefaultBase (referring k u) = .ok s) :
    ∃ form, Reads (.object ms) form ∧
      s.root = .all [.properties [(k, .all [.nested "$ref" form])]] ∧ s.table = {} := by
  rw [link_referring] at h
  obtain ⟨⟨ks, q⟩, hrun, hs⟩ := exists_of_bind_eq_ok h
  cases hs
  obtain ⟨n, hreader⟩ := reg.reader_eq
  rw [hreader] at hrun ⊢
  obtain ⟨l, hl, hread⟩ := run_readReference_eq_ok hrun
  rw [Reader.registry_following, follow_whole hreferred hfind rfl] at hl
  cases hl
  obtain ⟨form, p, rfl, hp, hform⟩ | ⟨hseen, -⟩ := hread
  · obtain ⟨hreads, rfl⟩ := hfree.reads_of_run hform rfl
    refine ⟨form, hreads, rfl, ?_⟩
    rw [hp, Progress.start, Table.complete_nil]
  · exact absurd rfl hseen

/-! ## What the reference leads to -/

lemma find?_insert_self (reg : Registry) (id : String) (r : Resource) :
    (reg.insert id r).find? id = some r := by
  rw [find?_insert, if_pos rfl]

section

variable {start : Registry} {k u : String}

/-- A reference leads to nothing that is in a registry with the root schema. -/
def LeadsOut (start : Registry) (u : String) : Prop :=
  ∀ id, resolveReference defaultBase u = .ok id → id ≠ defaultBase ∧ start.find? id = none

/-- All that is supplied for a reference is isolated. -/
def SuppliesIsolated (supplied : List (String × Value)) (u : String) : Prop :=
  ∀ id v, resolveReference defaultBase u = .ok id → supplied.lookup id = some v → Isolated v

lemma suppliesIsolated_singleton {P : Value} (hP : Isolated P) : SuppliesIsolated [(u, P)] u := by
  intro id v _ hlookup
  cases List.mem_singleton.mp (mem_of_lookup hlookup)
  exact hP

lemma LeadsOut.find?_withRoot (hout : LeadsOut start u) {id : String}
    (hid : resolveReference defaultBase u = .ok id) (v : Value) :
    (start.withRoot v).find? id = none := by
  obtain ⟨hne, hnone⟩ := hout id hid
  rw [Registry.withRoot, find?_insert, if_neg hne, hnone]

variable (h : Unmarked u.toList)
include h

/-- A schema with the reference is read only where the reference leads to a resource. -/
lemma exists_resource_of_link {reg : Registry} {s : Compiled}
    (hlink : link reg none .atDefaultBase (referring k u) = .ok s) :
    ∃ id r, resolveReference defaultBase u = .ok id ∧ reg.find? id = some r := by
  rw [link_referring] at hlink
  obtain ⟨⟨ks, q⟩, hrun, -⟩ := exists_of_bind_eq_ok hlink
  obtain ⟨l, hl, -⟩ := run_readReference_eq_ok hrun
  have hreader : reg.reader.registry = reg := Reader.registry_following reg _
  rw [hreader] at hl
  obtain ⟨l', hl', -⟩ := exists_of_bind_eq_ok hl
  obtain ⟨⟨id, fragment⟩, hreferred, hl'⟩ := exists_of_bind_eq_ok hl'
  have hbase : (Context.atMember k).base = defaultBase := rfl
  rw [hbase, referred_of_unmarked h] at hreferred
  obtain ⟨id', hid, hpair⟩ := exists_of_bind_eq_ok hreferred
  cases hpair
  dsimp only at hl'
  split at hl'
  case h_1 => cases hl'
  case h_2 r hr => exact ⟨id, r, hid, hr⟩

/-- The registry is filled with the resource that is supplied for the reference. -/
lemma fill_referring_eq (hout : LeadsOut start u) (hsupplied : SuppliesIsolated supplied u) :
    fill supplied .draft7 (.below start (referring k u)) =
      if isWellKnown u then .ok (start.withRoot (referring k u)) else
        resolveReference defaultBase u >>= fun id =>
          match supplied.lookup id with
          | none => .error (.notSupplied id)
          | some v => .ok ((start.withRoot (referring k u)).insert id
              { contents := v, draft := .draft7 }) := by
  rw [fill_referring h]
  split
  · rfl
  · cases hid : resolveReference defaultBase u with
    | error fault => rfl
    | ok id =>
      have hunmarked := unmarked_of_resolveReference h hid
      have hfind : (Filling.fetching start k u id).registry.find? id = none :=
        hout.find?_withRoot hid _
      simp only [bind, Except.bind]
      cases hlookup : supplied.lookup id with
      | none => rw [fetch_of_lookup_eq_none hunmarked hfind hlookup]
      | some v =>
        have hv := hsupplied id v hid hlookup
        rw [fetch_isolated hunmarked hfind hv hlookup]
        refine (fill_isolated ?_).trans (fill_of_nil rfl rfl)
        exact List.forall_mem_singleton.mpr ⟨rfl, hv⟩

variable (hout : LeadsOut Registry.standard u)
include hout

/-- What a schema with the reference is compiled to is decided by what is supplied for it. -/
lemma compile_referring_congr (hsupplied : SuppliesIsolated supplied u)
    {supplied' : List (String × Value)}
    (hsame : ∀ id, resolveReference defaultBase u = .ok id →
      supplied'.lookup id = supplied.lookup id) :
    compile (referring k u) supplied' = compile (referring k u) supplied := by
  have hsupplied' : SuppliesIsolated supplied' u := fun id v hid hlookup =>
    hsupplied id v hid ((hsame id hid).symm.trans hlookup)
  refine (unlinked_memberSchema k _).compile_congr ?_
  refine (fill_referring_eq h hout hsupplied').trans (.trans ?_
    (fill_referring_eq h hout hsupplied).symm)
  split
  · rfl
  · cases hid : resolveReference defaultBase u with
    | error fault => rfl
    | ok id =>
      simp only [bind, Except.bind]
      rw [hsame id hid]

/-- A schema is compiled only where a resource is supplied for the reference. -/
lemma exists_supplied_of_compile (hsupplied : SuppliesIsolated supplied u) {s : Compiled}
    (hs : compile (referring k u) supplied = .ok s) :
    ∃ id v, resolveReference defaultBase u = .ok id ∧ supplied.lookup id = some v ∧
      link ((Registry.standard.withRoot (referring k u)).insert id
        { contents := v, draft := .draft7 }) none .atDefaultBase (referring k u) = .ok s := by
  obtain ⟨-, reg, hfill, hlink⟩ := (unlinked_memberSchema k _).compile_eq_ok_iff.mp hs
  obtain ⟨id, r, hid, hr⟩ := exists_resource_of_link h hlink
  have hnone := hout.find?_withRoot hid (referring k u)
  have hfilled := (fill_referring_eq h hout hsupplied).symm.trans hfill
  generalize Registry.standard = start at hnone hfilled ⊢
  split at hfilled
  case isTrue =>
    cases hfilled
    cases hnone.symm.trans hr
  case isFalse =>
    simp only [hid, bind, Except.bind] at hfilled
    split at hfilled
    case h_1 => cases hfilled
    case h_2 v hlookup =>
      cases hfilled
      exact ⟨id, v, hid, hlookup, hlink⟩

end

/-! ## The default base -/

section

variable {r : Reader} {c : Context} {keyword text id : String} {p : Progress} {l : Landing}
  (hid : resolveReference c.base text = .ok id) (hl : r.registry.follow c text = .ok l)
include hid hl

/-- A reference that is met for the first time is followed in place. -/
lemma run_readReference_of_new (hseen : p.seen.contains id = false) :
    (readReference r c keyword text).run p =
      (r.form l.contents ((c.landed r.registry l).down [.key keyword])).run
          { p with seen := id :: p.seen } >>= fun read =>
        .ok ([.nested keyword read.1], read.2) := by
  unfold readReference
  simp only [hid, hl, Compiling.lift, Compiling.land, pure_bind, StateT.run_bind,
    Compiling.run_visit, hseen]
  rfl

/-- What a reference that is met again leads to can be put off, if it has no links. -/
lemma run_readReference_of_seen (hc : c.draft = .draft7) (hseen : p.seen.contains id = true)
    (hcontents : Unlinked l.contents) :
    ∃ read, (readReference r c "$ref" text).run p = .ok read := by
  have href : l.contents.get? "$ref" = none := hcontents _ (by decide)
  unfold readReference
  simp only [hid, hl, Compiling.lift, Compiling.land, pure_bind, StateT.run_bind,
    Compiling.run_visit, hseen, href, Compiling.defer, Context.detached, hc,
    hcontents.innerBase_eq]
  exact ⟨_, rfl⟩

end

/-- A root schema for one member is linked to what the resource is read as, under the keyword that
refers to it. -/
lemma link_referring_eq_ok {reg : Registry} {k u id : String} {ms : Members} {form : Form}
    (hid : resolveReference defaultBase u = .ok id)
    (hreferred : Registry.referred defaultBase u = .ok (id, ""))
    (hfind : reg.find? id = some { contents := .object ms, draft := .draft7 })
    (hread : ∀ (r : Reader) (c : Context) (p : Progress), c.draft = .draft7 →
      ((Part.of r (.object ms)).form c).run p = .ok (form, p)) :
    link reg none .atDefaultBase (referring k u) =
      .ok { id? := none, root := .all [.properties [(k, .all [.nested "$ref" form])]],
            table := {} } := by
  obtain ⟨n, hreader⟩ := reg.reader_eq
  have hfollow := follow_whole (c := .atMember k) hreferred hfind rfl
  rw [← Reader.registry_following reg (n + 1)] at hfollow
  have hform (c : Context) (p : Progress) (hc : c.draft = .draft7) :
      ((Reader.following reg (n + 1)).form (.object ms) c).run p = .ok (form, p) :=
    hread (Reader.following reg n) c p hc
  have hbase : resolveReference (Context.atMember k).base u = .ok id := hid
  rw [link_referring, hreader, run_readReference_of_new hbase hfollow rfl, hform _ _ rfl]
  simp only [bind, Except.bind, Progress.start, Table.complete_nil]

/-- A supplied resource without flaws is compiled to what it is read as, under the keyword that
refers to it. -/
lemma compile_referring_eq_ok {k u : String} {ms : Members} {form : Form} (hu : Unmarked u.toList)
    (hout : LeadsOut Registry.standard u) (hid : resolveReference defaultBase u = .ok u)
    (htext : Format.uriReference.admits u = true) (hknown : ¬ isWellKnown u = true)
    (hP : Isolated (.object ms))
    (hread : ∀ (r : Reader) (c : Context) (p : Progress), c.draft = .draft7 →
      ((Part.of r (.object ms)).form c).run p = .ok (form, p)) :
    compile (referring k u) [(u, .object ms)] =
      .ok { id? := none, root := .all [.properties [(k, .all [.nested "$ref" form])]],
            table := {} } := by
  have hflaw : flaw? .draft7 (referring k u) = none :=
    flaw?_draft7_of_members
      (List.forall_mem_singleton.mpr ((takenAsSchema_referenceTo htext).properties k))
  have hfill (start : Registry) (hout : LeadsOut start u) :
      fill [(u, .object ms)] .draft7 (.below start (referring k u)) =
        .ok ((start.withRoot (referring k u)).insert u
          { contents := .object ms, draft := .draft7 }) := by
    rw [fill_referring_eq hu hout (suppliesIsolated_singleton hP), if_neg hknown, hid]
    simp only [bind, Except.bind, List.lookup_cons_self]
  have hreferred : Registry.referred defaultBase u = .ok (u, "") := referred_of_resolves hu hid
  exact (unlinked_memberSchema k _).compile_eq_ok_iff.mpr
    ⟨hflaw, _, hfill _ hout, link_referring_eq_ok hid hreferred (find?_insert_self _ _ _) hread⟩

/-- A root schema that refers to the default base refers to itself, which can be linked. -/
lemma exists_link_self (start : Registry) (k : String) :
    ∃ s, link (start.withRoot (referring k defaultBase)) none .atDefaultBase
      (referring k defaultBase) = .ok s := by
  have hu : Unmarked defaultBase.toList := by
    rw [Unmarked]
    decide
  have hid : resolveReference defaultBase defaultBase = .ok defaultBase := rfl
  have hreferred : Registry.referred defaultBase defaultBase = .ok (defaultBase, "") :=
    referred_of_resolves hu hid
  have hfind : (start.withRoot (referring k defaultBase)).find? defaultBase =
      some { contents := referring k defaultBase, draft := .draft7 } := by
    rw [Registry.withRoot, find?_insert_self]
  generalize start.withRoot (referring k defaultBase) = reg at hfind
  have hfollow (n : Nat) (c : Context) (hc : c.base = defaultBase) :
      ∃ l, (Reader.following reg n).registry.follow c defaultBase = .ok l ∧
        l.contents = referring k defaultBase ∧ l.draft = .draft7 ∧ l.base = defaultBase := by
    rw [Reader.registry_following]
    exact ⟨_, follow_whole (hc.symm ▸ hreferred) hfind rfl, rfl, rfl, rfl⟩
  obtain ⟨n, hreader⟩ := reg.reader_eq
  -- the reference is met in the root schema, and once more in what it leads to
  have hagain (c : Context) (hdraft : c.draft = .draft7) (hbase : c.base = defaultBase) :
      ∃ read, ((Reader.following reg (n + 1)).form (referring k defaultBase) c).run
        { seen := [defaultBase], deferred := [] } = .ok read := by
    obtain ⟨l, hl, hcontents, -⟩ := hfollow n (c.down [.key "properties", .key k]) hbase
    have hresolve : resolveReference (c.down [.key "properties", .key k]).base defaultBase =
        .ok defaultBase := (congrArg (resolveReference · defaultBase) hbase).trans hid
    obtain ⟨read, hread⟩ := run_readReference_of_seen hresolve hl hdraft
      (p := { seen := [defaultBase], deferred := [] }) rfl
      (hcontents.symm ▸ unlinked_memberSchema k _)
    have hform := form_referring_eq (r := Reader.following reg n) hdraft k defaultBase
    rw [Reader.following]
    dsimp only
    rw [hform, StateT.run_bind, hread]
    exact ⟨_, rfl⟩
  obtain ⟨l, hl, hcontents, hdraft, hbase⟩ := hfollow (n + 1) (.atMember k) rfl
  obtain ⟨read, hread⟩ :=
    hagain (((Context.atMember k).landed (Reader.following reg (n + 1)).registry l).down
      [.key "$ref"]) hdraft hbase
  have hresolve : resolveReference (Context.atMember k).base defaultBase = .ok defaultBase := hid
  rw [link_referring, hreader, run_readReference_of_new hresolve hl rfl, hcontents]
  exact ⟨_, congrArg (· >>= _ >>= _) hread⟩

/-! ## What documents are told -/

/-- What a violation tells of a document. -/
def told (x : Violation) : String × String × Option Members := (x.path, x.message, x.params)

/-- What is raised from a keyword alone tells the same. -/
lemma told_raise_raise (place keyword inner : Location) (fs : List Failure) :
    (raise place keyword (raise [] inner fs)).map (fun f => told f.violation) =
      (raise place keyword fs).map fun f => told f.violation := by
  rw [raise, raise, raise, List.map_map, List.map_map, List.map_map]
  refine List.map_congr_left fun f _ => ?_
  have hplace : ((f.under [] inner).under place keyword).place = (f.under place keyword).place := by
    simp only [Failure.under, List.nil_append, ite_self]
  have hcause : ((f.under [] inner).under place keyword).cause = (f.under place keyword).cause := rfl
  dsimp only [Function.comp_apply, told, Failure.violation, Violation.make]
  rw [hplace, hcause]

/-- The failures under a schema for one member. -/
lemma failures_member {s : Compiled} {k : String} {form : Form} (htable : s.table = {})
    (hroot : s.root = .all [.properties [(k, form)]]) (d : Value) :
    s.failures d =
      match d with
      | .object ms =>
        match Members.get? ms k with
        | some v => raise [.key k] [.key "properties", .key k] (form.ownFailures v)
        | none => []
      | _ => [] := by
  rw [Compiled.failures_eq htable, hroot, Form.ownFailures, Form.failures, allFailures, allFailures,
    List.append_nil]
  cases d with
  | object ms =>
    rw [Keyword.failures, namedFailures, namedFailures, List.append_nil]
    rfl
  | _ => rfl

/-- Under a form that is nested in a keyword the documents are told the same as under the form. -/
lemma told_nested {s t : Compiled} {k : String} {form : Form} (hs : s.table = {}) (ht : t.table = {})
    (hsroot : s.root = .all [.properties [(k, .all [.nested "$ref" form])]])
    (htroot : t.root = .all [.properties [(k, form)]]) (d : Value) :
    (s.evaluate d).map told = (t.evaluate d).map told := by
  have hnested (v : Value) : (Form.all [.nested "$ref" form]).ownFailures v =
      raise [] [.key "$ref"] (form.ownFailures v) := by
    rw [Form.ownFailures, Form.failures, allFailures, allFailures, List.append_nil,
      Keyword.failures, Form.ownFailures]
  rw [Compiled.evaluate, Compiled.evaluate, List.map_map, List.map_map, failures_member hs hsroot,
    failures_member ht htroot]
  split
  case h_1 ms =>
    split
    case h_1 v _ =>
      rw [hnested]
      exact told_raise_raise _ _ _ _
    case h_2 => rfl
  case h_2 => rfl

/-- A resource that is supplied for a reference and what is written out in its place tell documents
the same. Without the resource a schema with the reference is not compiled, and what is supplied for
no reference changes nothing. -/
theorem references_transparent {k u : String} {ms : Members} (hu : Unmarked u.toList)
    (hout : LeadsOut Registry.standard u) (hP : Isolated (.object ms)) :
    (∃ flaw, compile (referring k u) [] = .error (.flawed none flaw)) ∧
    (∀ s t, compile (referring k u) [(u, .object ms)] = .ok s →
      compile (memberSchema k (.object ms)) [] = .ok t →
        ∀ d, (s.evaluate d).map told = (t.evaluate d).map told) ∧
    ∀ registered ∈ [[], [(u, Value.object ms)]], ∀ supplied,
      (∀ id, resolveReference defaultBase u = .ok id →
        supplied.lookup id = registered.lookup id) →
      compile (referring k u) supplied = compile (referring k u) registered ∧
        compile (memberSchema k (.object ms)) supplied =
          compile (memberSchema k (.object ms)) registered := by
  have hmember := isolated_memberSchema k hP
  have hnone : SuppliesIsolated [] u := fun _ _ _ hlookup => nomatch hlookup
  have hone : SuppliesIsolated [(u, .object ms)] u := suppliesIsolated_singleton hP
  refine ⟨?_, fun s t hs ht => ?_, fun registered hregistered supplied hsame => ⟨?_, ?_⟩⟩
  · refine (unlinked_memberSchema k _).exists_flaw fun s hs => ?_
    obtain ⟨id, v, -, hlookup, -⟩ := exists_supplied_of_compile hu hout hnone hs
    cases hlookup
  · obtain ⟨id, v, hid, hlookup, hlink⟩ := exists_supplied_of_compile hu hout hone hs
    cases List.mem_singleton.mp (mem_of_lookup hlookup)
    have hreferred : Registry.referred defaultBase u = .ok (u, "") := referred_of_resolves hu hid
    have hfind := find?_insert_self (Registry.standard.withRoot (referring k u)) u
      { contents := .object ms, draft := .draft7 }
    obtain ⟨form, hform, hsroot, hstable⟩ :=
      root_of_link_referring hreferred hfind hP.referenceFree hlink
    obtain ⟨htroot, httable⟩ := compile_of_form (hmember.referenceFree.namesDraft7 _ rfl) ht
      fun r c hc => form_memberSchema hc k hform
    exact told_nested hstable httable hsroot htroot
  · have hregistered : SuppliesIsolated registered u := by
      obtain rfl | hregistered := List.mem_cons.mp hregistered
      · exact hnone
      · rwa [List.mem_singleton.mp hregistered]
    exact compile_referring_congr hu hout hregistered hsame
  · exact hmember.compile_congr _ _

/-- A member that has to be null is described the same under an identifier and written out. Both
schemas are compiled, and what else the member holds is told of. -/
theorem null_transparent :
    ∃ s t, compile (referring "name" "http://example.com/name")
        [("http://example.com/name", .object [("const", .null)])] = .ok s ∧
      compile (memberSchema "name" (.object [("const", .null)])) [] = .ok t ∧
      (∃ flaw, compile (referring "name" "http://example.com/name") [] =
        .error (.flawed none flaw)) ∧
      (∀ d, (s.evaluate d).map told = (t.evaluate d).map told) ∧
      t.evaluate (.object [("name", .bool true)]) ≠ [] := by
  have hid : resolveReference defaultBase "http://example.com/name" =
      .ok "http://example.com/name" := rfl
  have hu : Unmarked "http://example.com/name".toList := by
    rw [Unmarked]
    decide
  have hout : LeadsOut Registry.standard "http://example.com/name" := by
    intro id h
    cases hid.symm.trans h
    exact ⟨by decide, rfl⟩
  have hP : Isolated (.object [("const", .null)]) := .intro (by decide) (List.forall_mem_nil _)
  have htaken : TakenAsSchema (.object [("const", .null)]) :=
    takenAsSchema_of_members (List.forall_mem_singleton.mpr (takenUnder_const .null))
  have hread (r : Reader) (c : Context) (p : Progress) (hc : c.draft = .draft7) :
      ((Part.of r (.object [("const", .null)])).form c).run p =
        .ok (.all [.test [.key "const"] (.const .null)], p) := by
    obtain ⟨draft, vocabularies, base, scopes, place⟩ := c
    cases hc
    rfl
  have hs := compile_referring_eq_ok (k := "name") hu hout hid (by decide) (by decide) hP hread
  have ht : compile (memberSchema "name" (.object [("const", .null)])) [] =
      .ok { id? := none, table := {},
            root := .all [.properties [("name", .all [.test [.key "const"] (.const .null)])]] } :=
    (isolated_memberSchema "name" hP).compile_eq_ok
      (flaw?_draft7_of_members (List.forall_mem_singleton.mpr (htaken.properties "name")))
      fun _ => rfl
  obtain ⟨hfails, hsame, -⟩ := references_transparent (k := "name") hu hout hP
  exact ⟨_, _, hs, ht, hfails, hsame _ _ hs ht, List.cons_ne_nil _ _⟩

/-- The default base is the identifier of every schema that has none, so a member may be described
as the schema itself. -/
theorem member_refers_to_root :
    Unmarked "json-schema:///".toList ∧ Registry.standard.find? "json-schema:///" = none ∧
      ∃ s, compile (referring "k" "json-schema:///") [] = .ok s := by
  have hu : Unmarked defaultBase.toList := by
    rw [Unmarked]
    decide
  have hflaw : flaw? .draft7 (referring "k" defaultBase) = none :=
    flaw?_draft7_of_members
      (List.forall_mem_singleton.mpr ((takenAsSchema_referenceTo (by decide)).properties "k"))
  have hfill (start : Registry) : fill [] .draft7 (.below start (referring "k" defaultBase)) =
      .ok (start.withRoot (referring "k" defaultBase)) := by
    have hknown : ¬ isWellKnown defaultBase = true := by decide
    have hid : resolveReference defaultBase defaultBase = .ok defaultBase := rfl
    have hfetch : fetch [] .draft7 (.fetching start "k" defaultBase defaultBase) defaultBase [] =
        .ok { Filling.fetching start "k" defaultBase defaultBase with external := [] } := by
      have hfind : ((Filling.fetching start "k" defaultBase defaultBase).registry.find?
          defaultBase).isSome = true := by
        rw [Filling.fetching, Registry.withRoot, find?_insert_self]
        rfl
      simp only [fetch, splitFragment_of_unmarked hu, hfind]
      rfl
    rw [fill_referring hu, if_neg hknown, hid]
    simp only [bind, Except.bind]
    rw [hfetch]
    exact fill_of_nil rfl rfl
  obtain ⟨s, hs⟩ := exists_link_self Registry.standard "k"
  exact ⟨hu, rfl, s, (unlinked_memberSchema "k" _).compile_eq_ok_iff.mpr ⟨hflaw, _, hfill _, hs⟩⟩

end AgentManifest.Schema
