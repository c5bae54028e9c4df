import AgentManifest.Proofs.Json.Gathering
import AgentManifest.Proofs.Schema.Compilation
import AgentManifest.Proofs.Schema.Ensuring
import AgentManifest.Proofs.Schema.Keyword

/-!
# The schema of draft 7

What the schema of draft 7 asks of a schema: that it is an object or a truth value, and of each of
its members what the schema under the name of the member says. So whether a schema is one of draft 7
is decided member by member.
-/

namespace AgentManifest.Schema

open Json (Value Members Location)
open Compiling (Ensures)

/-! ## Runs -/

/-- What a step gives, it gives in some run. -/
lemma Compiling.Ensures.run {α : Type} (x : Compiling α) :
    Ensures (fun _ => True) x fun a => ∃ p q, x.run p = .ok (a, q) :=
  fun p q _ _ hrun => ⟨⟨p, q, hrun⟩, fun _ _ => trivial⟩

lemma Compiling.run_mapM_eq_ok {α β : Type} {as : List α} {f : α → Compiling β} {p q : Progress}
    {bs : List β} (h : (as.mapM f).run p = .ok (bs, q)) :
    List.Forall₂ (fun a b => ∃ p q, (f a).run p = .ok (b, q)) as bs :=
  (Ensures.mapM (fun a _ => .run (f a)) (fun _ _ => trivial) h).1

lemma Compiling.run_lift_eq_ok {α : Type} {r : Except Fault α} {p q : Progress} {a : α}
    (h : (lift r).run p = .ok (a, q)) : r = .ok a ∧ q = p := by
  cases r with
  | error fault => cases h
  | ok a' =>
    cases h
    exact ⟨rfl, rfl⟩

/-- A schema is read as a form in draft 7, over a base. -/
def ReadAs (r : Reader) (base : String) (v : Value) (s : Form) : Prop :=
  ∃ (c : Context) (p q : Progress), c.draft = .draft7 ∧ c.base = base ∧
    ((Part.of r v).form c).run p = .ok (s, q)

variable {r : Reader} {base : String} {v : Value} {s : Form}

/-- A schema that has no identifier and no draft of its own is read where it stands. -/
lemma enter_of_get?_eq_none {c : Context} (hc : c.draft = .draft7) (hid : v.get? "$id" = none)
    (hschema : v.get? "$schema" = none) : c.enter v = .ok c := by
  have hdraft : innerDraft .draft7 v = .draft7 := by
    simp only [innerDraft, draftOf, hschema, Option.bind_none]
  have hinner : innerBase .draft7 c.base v = .ok c.base := by
    have hkeyword : Draft.idKeyword .draft7 = "$id" := rfl
    simp only [innerBase, Draft.identifier?, hkeyword, hid, Option.bind_none]
  rw [Context.enter, Context.enterAs, hc, hdraft, hinner, ← hc]
  rfl

/-- A schema inside another that has no identifier and no draft of its own is read over the same
base. -/
lemma readAs_of_within {c : Context} {p q : Progress} (hc : c.draft = .draft7)
    (hbase : c.base = base) (hid : v.get? "$id" = none) (hschema : v.get? "$schema" = none)
    (h : ((Part.of r v).within c).run p = .ok (s, q)) : ReadAs r base v s := by
  rw [Part.within, written_of, enter_of_get?_eq_none hc hid hschema] at h
  exact ⟨c, p, q, hc, hbase, h⟩

/-! ## The schema -/

namespace MetaSchema

/-- The identifier of the schema of draft 7. -/
def draft7Id : String := "http://json-schema.org/draft-07/schema"

/-- The schemas that the schema of draft 7 has for the members of schemas. -/
def draft7Properties : Members :=
  match draft7.get? "properties" with
  | some (.object ms) => ms
  | _ => []

lemma draft7_eq :
    draft7 = .object [("$id", .string "http://json-schema.org/draft-07/schema#"),
      ("$schema", .string "http://json-schema.org/draft-07/schema#"),
      ("definitions", laterDefinitions), ("properties", .object draft7Properties),
      ("type", schemaTypes)] := rfl

lemma increasing_draft7Properties : (draft7Properties.map Prod.fst).Pairwise (· < ·) :=
  (Members.gathers_ofList _).increasing

end MetaSchema

open MetaSchema (draft7Id draft7Properties)

/-- What the schema of draft 7 is read as, given what the schemas for members are read as. -/
def draft7Form (named : List (String × Form)) : Form :=
  .all [.properties named, .test [.key "type"] (.type [.boolean, .object] false)]

/-- Each schema with a name is read from the schema under the name. -/
lemma exists_of_readNamed {c : Context} {keyword : String} {ms : Members} {p q : Progress}
    {named : List (String × Form)}
    (h : (readNamed c keyword (memberParts r ms)).run p = .ok (named, q)) :
    ∀ n ∈ named, ∃ m ∈ ms, n.1 = m.1 ∧ ∃ p q,
      ((Part.of r m.2).within (c.down [.key keyword, .key m.1])).run p = .ok (n.2, q) := by
  rw [memberParts_eq_map] at h
  refine (Ensures.mapM_all (D := fun _ => True) (fun part hpart => ?_) (fun _ _ => trivial) h).1
  obtain ⟨m, hm, rfl⟩ := List.mem_map.mp hpart
  exact (Ensures.run _).bind_pure fun s hs => ⟨m, hm, rfl, hs⟩

/-- The schema of draft 7 is read as the schemas for members and a type. -/
lemma ReadAs.draft7 (h : ReadAs r base MetaSchema.draft7 s) :
    ∃ named, s = draft7Form named ∧
      ∀ n ∈ named, ∃ v, Members.get? draft7Properties n.1 = some v ∧
        (v.get? "$id" = none → v.get? "$schema" = none → ReadAs r base v n.2) := by
  obtain ⟨⟨draft, vocabularies, base, scopes, place⟩, p, q, rfl, rfl, hrun⟩ := h
  rw [MetaSchema.draft7_eq, Part.of] at hrun
  obtain ⟨kss, p', hrun, hform⟩ := Compiling.run_bind_eq_ok hrun
  cases hform
  -- three of the members say nothing of values
  obtain _ | ⟨⟨_, _, hid⟩, hrest⟩ := Compiling.run_mapM_eq_ok hrun
  obtain _ | ⟨⟨_, _, hschema⟩, hrest⟩ := hrest
  obtain _ | ⟨⟨_, _, hdefinitions⟩, hrest⟩ := hrest
  obtain _ | ⟨⟨_, _, hproperties⟩, hrest⟩ := hrest
  obtain _ | ⟨⟨_, _, htype⟩, hrest⟩ := hrest
  obtain _ | _ := hrest
  cases hid
  cases hschema
  cases hdefinitions
  cases htype
  obtain ⟨named, _, hnamed, hproperties⟩ := Compiling.run_bind_eq_ok hproperties
  cases hproperties
  refine ⟨named, rfl, fun n hn => ?_⟩
  obtain ⟨m, hm, hname, _, _, hread⟩ := exists_of_readNamed hnamed n hn
  have hget := Members.get?_of_mem MetaSchema.increasing_draft7Properties hm
  refine ⟨m.2, hname ▸ hget, fun hid hschema => readAs_of_within ?_ ?_ hid hschema hread⟩
  · rfl
  · rfl

/-! ## Schemas of draft 7 -/

lemma standard_draft7 :
    Registry.standard.find? draft7Id = some { contents := MetaSchema.draft7, draft := .draft7 } :=
  rfl

/-- The identifier of the schema of draft 7 is its own. -/
lemma enterAs_draft7 {c : Context} (hc : c.draft = .draft7) (hbase : c.base = draft7Id) :
    c.enterAs c.draft MetaSchema.draft7 = .ok c := by
  have hown : Draft.identifier? .draft7 MetaSchema.draft7 = some draft7Id := rfl
  have hresolve : resolveReference draft7Id draft7Id = .ok draft7Id := rfl
  rw [Context.enterAs, hc, innerBase, hown, hbase]
  dsimp only
  rw [hresolve, ← hc, ← hbase]
  rfl

/-- What the schema of draft 7 is linked to is read from it. -/
lemma read_of_link {reg : Registry} {id? : Option String} {c : Context} {compiled : Compiled}
    (hc : c.draft = .draft7) (hbase : c.base = draft7Id)
    (h : link reg id? c MetaSchema.draft7 = .ok compiled) :
    ∃ p : Progress,
      ((Part.of reg.reader MetaSchema.draft7).form c).run Progress.start =
        .ok (compiled.root, p) ∧
      compiled.table = Table.complete reg.reader reg.exploration {} p.deferred := by
  rw [link, enterAs_draft7 hc hbase] at h
  split at h
  case h_1 form p hrun =>
    cases h
    exact ⟨p, hrun, rfl⟩
  case h_2 => cases h

/-- Where the schema of a draft is, and what it is linked to. -/
lemma metaSchema_cases (d : Draft) :
    metaSchema d = default ∨ ∃ r, Registry.standard.find? (MetaSchema.identifier d) = some r ∧
      link Registry.standard (some (MetaSchema.identifier d))
        (Context.root d d.vocabularies (MetaSchema.identifier d)) r.contents =
          .ok (metaSchema d) := by
  unfold metaSchema
  dsimp only
  split
  case h_1 r hr =>
    split
    case h_1 compiled hlink => exact .inr ⟨r, hr, hlink⟩
    case h_2 => exact .inl rfl
  case h_2 => exact .inl rfl

/-- The schema that schemas of draft 7 have to satisfy is read from that of draft 7, if that can be
read. -/
lemma metaSchema_draft7 :
    metaSchema .draft7 = default ∨ ∃ (c : Context) (p : Progress),
      c.draft = .draft7 ∧ c.base = draft7Id ∧
      ((Part.of Registry.standard.reader MetaSchema.draft7).form c).run Progress.start =
        .ok ((metaSchema .draft7).root, p) ∧
      (metaSchema .draft7).table =
        Table.complete Registry.standard.reader Registry.standard.exploration {} p.deferred := by
  obtain h | ⟨r, hr, hlink⟩ := metaSchema_cases .draft7
  · exact .inl h
  · cases standard_draft7.symm.trans hr
    obtain ⟨p, hrun, htable⟩ := read_of_link rfl rfl hlink
    exact .inr ⟨_, p, rfl, rfl, hrun, htable⟩

lemma lookup_metaSchemas (d : Draft) : metaSchemas.lookup d = some (metaSchema d) := by
  have hlookup (f : Draft → Compiled) :
      (MetaSchema.drafts.map fun d => (d, f d)).lookup d = some (f d) := by cases d <;> rfl
  exact hlookup metaSchema

/-- Nothing is wrong with a schema that satisfies the schema of its draft. -/
lemma flaw?_eq_none_iff (d : Draft) (root : Value) :
    flaw? d root = none ↔ (metaSchema d).isValid root = true := by
  have hvalid : (metaSchema d).failures root = [] ↔ (metaSchema d).isValid root = true :=
    Form.failures_eq_nil_iff (Table.complaints_agree _ _) _ root
  rw [← hvalid, flaw?, lookup_metaSchemas]
  dsimp only
  split
  case h_1 hfailures => simp [hfailures]
  case h_2 hfailures => simp [hfailures]

/-! ## Members -/

lemma draft7Form_holds (l : Links) (named : List (String × Form)) (ms : Members) :
    (draft7Form named).holds l (.object ms) = namedHold l named ms := Bool.and_true _

/-- What the schema of draft 7 has for a string in a format takes every text in the format. -/
lemma ReadAs.uri_holds (h : ReadAs r base MetaSchema.uri s) (l : Links) {text : String}
    (htext : Format.uri.admits text = true) : s.holds l (.string text) = true := by
  obtain ⟨⟨draft, vocabularies, base, scopes, place⟩, p, q, rfl, rfl, hrun⟩ := h
  cases hrun
  exact Bool.and_eq_true_iff.mpr ⟨htext, rfl⟩

lemma get?_schema : Members.get? draft7Properties "$schema" = some MetaSchema.uri :=
  ((Members.gathers_ofList _).get?_eq "$schema").trans rfl

lemma get?_const : Members.get? draft7Properties "const" = some (.bool true) :=
  ((Members.gathers_ofList _).get?_eq "const").trans rfl

/-- What the schema of draft 7 has under a name takes a value. -/
def TakenAsMember (name : String) (v : Value) : Prop :=
  ∀ w, Members.get? draft7Properties name = some w →
    w.get? "$id" = none ∧ w.get? "$schema" = none ∧
      ∀ s, ReadAs Registry.standard.reader draft7Id w s →
        ∀ n, s.holds ((metaSchema .draft7).table.links n) v = true

/-- An object is a schema of draft 7 if each of its members is taken. -/
lemma flaw?_draft7_of_members {ms : Members} (h : ∀ m ∈ ms, TakenAsMember m.1 m.2) :
    flaw? .draft7 (.object ms) = none := by
  rw [flaw?_eq_none_iff, Compiled.isValid]
  generalize (metaSchema .draft7).reach (.object ms) = n
  unfold TakenAsMember at h
  obtain hdefault | ⟨c, p, hc, hbase, hrun, -⟩ := metaSchema_draft7
  · rw [hdefault]
    rfl
  · obtain ⟨named, hroot, hnamed⟩ := ReadAs.draft7 ⟨c, _, p, hc, hbase, hrun⟩
    rw [hroot, draft7Form_holds, namedHold_iff]
    intro m hm v hv
    obtain ⟨w, hw, hread⟩ := hnamed m hm
    obtain ⟨hid, hschema, hholds⟩ := h (m.1, v) (Members.mem_of_get? hv) w hw
    exact hholds m.2 (hread hid hschema) n

/-- What the schema of draft 7 has under a name takes a value, whatever references lead to. -/
def TakenUnder (name : String) (v : Value) : Prop :=
  ∀ w, Members.get? draft7Properties name = some w →
    w.get? "$id" = none ∧ w.get? "$schema" = none ∧
      ∀ ⦃r : Reader⦄ ⦃base : String⦄ ⦃s : Form⦄, ReadAs r base w s → ∀ l, s.holds l v = true

lemma TakenUnder.takenAsMember {name : String} (h : TakenUnder name v) : TakenAsMember name v := by
  intro w hw
  obtain ⟨hid, hschema, hholds⟩ := h w hw
  exact ⟨hid, hschema, fun s hs n => hholds hs _⟩

/-- Any value is taken as a constant. -/
lemma takenUnder_const (v : Value) : TakenUnder "const" v := by
  intro w hw
  cases get?_const.symm.trans hw
  refine ⟨rfl, rfl, ?_⟩
  rintro r base s ⟨c, p, q, -, -, hrun⟩ l
  cases hrun
  rfl

/-- Any string is taken where strings are. -/
lemma takenUnder_text {name : String} (text : String)
    (hname : Members.get? draft7Properties name = some MetaSchema.text) :
    TakenUnder name (.string text) := by
  intro w hw
  cases hname.symm.trans hw
  refine ⟨rfl, rfl, ?_⟩
  rintro r base s ⟨⟨draft, vocabularies, base, scopes, place⟩, p, q, rfl, rfl, hrun⟩ l
  cases hrun
  rfl

end AgentManifest.Schema
