import AgentManifest.Proofs.Schema.Completion
import AgentManifest.Proofs.Schema.DraftSeven

/-!
# The schema of draft 7 refers to itself

Wherever the schema of draft 7 asks for a schema, it refers to itself. What these references lead to
is read as the schema is, however they are followed. So what each reading of the schema of draft 7
takes, like a schema that only refers to another, is taken wherever one is asked for.
-/

namespace AgentManifest.Schema

open Json (Value Members Location)
open Compiling (Ensures)
open MetaSchema (draft7Id draft7Properties)

/-! ## References to whole resources -/

/-- Where a reference leads that leads to a whole resource, the contents of the resource lie. -/
def Landing.IsWhole (reg : Registry) (l : Landing) : Prop :=
  l.anchor = none → l.place = [] → ∃ r, reg.find? l.resource = some r ∧ l.contents = r.contents

/-- A pointer leads one step further with each of its parts. -/
lemma length_of_followPointer {pointer : String} {d : Draft} {base base' : String}
    {place way place' : Location} {v w : Value} {parts : List (List Char)}
    (h : followPointer pointer d base place way v parts = .ok (place', w, base')) :
    place'.length = place.length + parts.length := by
  induction parts generalizing base place way v with
  | nil =>
    cases h
    exact List.length_reverse
  | cons part parts ih =>
    rw [followPointer] at h
    split at h
    case h_1 => cases h
    case h_2 s u hstep =>
      obtain ⟨inner, -, h⟩ := exists_of_bind_eq_ok h
      rw [ih h, List.length_cons, List.length_cons]
      omega

section

variable {reg : Registry} {c : Context} {l l' : Landing}

lemma isWhole_of_followAny {reference : String} (h : reg.followAny c reference = .ok l) :
    l.IsWhole reg := by
  unfold Registry.followAny at h
  obtain ⟨⟨id, fragment⟩, -, h⟩ := exists_of_bind_eq_ok h
  dsimp only at h
  split at h
  case h_1 => cases h
  case h_2 r hr =>
    unfold Registry.followFragment at h
    dsimp only at h
    split at h
    case h_1 =>
      cases h
      exact fun _ _ => ⟨r, hr, rfl⟩
    case h_2 =>
      split at h
      case h_1 => cases h
      case h_2 parts _ =>
        obtain ⟨⟨place, contents, base⟩, hpointer, h⟩ := exists_of_bind_eq_ok h
        cases h
        intro _ hplace
        have hlength := length_of_followPointer hpointer
        cases hplace
        exact absurd (List.length_eq_zero_iff.mp (Nat.eq_zero_of_add_eq_zero_left hlength.symm))
          (splitOnChar_ne_nil _ _)
    case h_3 =>
      unfold Registry.followName at h
      split at h
      case h_1 => cases h
      case h_2 p hp =>
        obtain ⟨base, -, h⟩ := exists_of_bind_eq_ok h
        cases h
        exact nofun

lemma isWhole_of_follow {reference : String} (h : reg.follow c reference = .ok l) :
    l.IsWhole reg := by
  unfold Registry.follow at h
  obtain ⟨l', hany, h⟩ := exists_of_bind_eq_ok h
  split at h
  case h_1 =>
    cases h
    exact isWhole_of_followAny hany
  case h_2 =>
    cases h
    exact isWhole_of_followAny hany
  case h_3 => cases h

lemma isWhole_of_outermostRoot (hl : l.IsWhole reg) (scopes : List String)
    (h : reg.outermostRoot c l scopes = .ok l') : l'.IsWhole reg := by
  induction scopes generalizing l with
  | nil =>
    cases h
    exact hl
  | cons scope scopes ih =>
    rw [Registry.outermostRoot] at h
    obtain ⟨next, hnext, h⟩ := exists_of_bind_eq_ok h
    split at h
    · exact ih (isWhole_of_follow hnext) h
    · cases h
      exact hl

lemma Registry.Reaches.isWhole (h : reg.Reaches l) : l.IsWhole reg := by
  obtain ⟨c, text, hl⟩ | ⟨c, hl⟩ := h
  · exact isWhole_of_follow hl
  · unfold Registry.followRecursive at hl
    obtain ⟨l', hany, hl⟩ := exists_of_bind_eq_ok hl
    split at hl
    · exact isWhole_of_outermostRoot (isWhole_of_followAny hany) _ hl
    · cases hl
      exact isWhole_of_followAny hany

end

/-! ## References to the schema of draft 7 -/

/-- A place that a reference to the whole schema of draft 7 leads to, to be read in draft 7. -/
structure Target.IsDraft7 (t : Target) : Prop where
  resource : t.resource = draft7Id
  anchor : t.anchor = none
  place : t.place = []
  draft : t.draft = .draft7

/-- What is put off has no double names, and under such a place it is the schema of draft 7. -/
structure Deferred.FromDrafts (d : Deferred) : Prop where
  wellFormed : d.contents.WellFormed
  draft7 : d.target.IsDraft7 → d.contents = MetaSchema.draft7 ∧ d.context.draft = .draft7

/-- What is read under such a place is read from the schema of draft 7. -/
def ReadAtDraft7 (t : Target) (s : Form) : Prop :=
  t.IsDraft7 → s = .always ∨ ∃ r base, ReadAs r base MetaSchema.draft7 s

lemma fromDrafts_of_reaches {l : Landing} (hl : Registry.standard.Reaches l)
    {focus? : Option Focus} {context : Context} : Deferred.FromDrafts
      { focus?, target := context.target l, contents := l.contents, context } where
  wellFormed := Registry.wellFormed_standard.reaches hl
  draft7 := fun ht => by
    refine ⟨?_, ht.draft⟩
    obtain ⟨r, hr, hcontents⟩ := hl.isWhole ht.anchor ht.place
    have hresource : l.resource = draft7Id := ht.resource
    rw [hresource] at hr
    cases standard_draft7.symm.trans hr
    exact hcontents

lemma Reader.sound_standard (n : Nat) :
    (Reader.following Registry.standard n).Sound Deferred.FromDrafts :=
  Reader.following_sound Registry.wellFormed_standard
    (fun _ hl _ _ _ _ _ => fromDrafts_of_reaches hl) n

lemma Reader.keeps_standard (n : Nat) :
    (Reader.following Registry.standard n).Keeps Deferred.FromDrafts ReadAtDraft7 where
  form := fun d hd p q s hp hrun => by
    refine ⟨fun ht => ?_, ((Reader.sound_standard n).form _ _ hd.wellFormed hp hrun).2⟩
    obtain ⟨hcontents, hdraft⟩ := hd.draft7 ht
    rw [hcontents] at hrun
    cases n with
    | zero =>
      cases hrun
      exact .inl rfl
    | succ n => exact .inr ⟨_, _, d.context, p, q, hdraft, rfl, hrun⟩
  coverage := fun focus d hd => (Reader.sound_standard n).coverage focus _ _ hd.wellFormed
  always := fun _ _ => .inl rfl

/-- What the schema of draft 7 refers to as itself is read from it. -/
lemma metaSchema_table_all : (metaSchema .draft7).table.All ReadAtDraft7 := by
  obtain hdefault | ⟨c, p, hc, hbase, hrun, htable⟩ := metaSchema_draft7
  · rw [hdefault]
    exact .empty
  · have hwf : MetaSchema.draft7.WellFormed := Registry.wellFormed_standard.find? standard_draft7
    have hstart : ∀ d ∈ Progress.start.deferred, d.FromDrafts := List.forall_mem_nil _
    have hdeferred := ((Part.sound_of (Reader.sound_standard _) hwf).form c hstart hrun).2
    rw [htable]
    exact Table.All.empty.complete (Reader.keeps_standard _) _ hdeferred

/-! ## Schemas that only refer to others -/

/-- What the schema of draft 7 has for a reference takes every text that is one. -/
lemma ReadAs.uriReference_holds {r : Reader} {base : String} {s : Form}
    (h : ReadAs r base MetaSchema.uriReference s) (l : Links) {text : String}
    (htext : Format.uriReference.admits text = true) : s.holds l (.string text) = true := by
  obtain ⟨⟨draft, vocabularies, base, scopes, place⟩, p, q, rfl, rfl, hrun⟩ := h
  cases hrun
  exact Bool.and_eq_true_iff.mpr ⟨htext, rfl⟩

lemma get?_ref : Members.get? draft7Properties "$ref" = some MetaSchema.uriReference :=
  ((Members.gathers_ofList _).get?_eq "$ref").trans rfl

lemma get?_not : Members.get? draft7Properties "not" = some (MetaSchema.ref "#") :=
  ((Members.gathers_ofList _).get?_eq "not").trans rfl

lemma get?_items : Members.get? draft7Properties "items" =
    some (MetaSchema.anyOf [MetaSchema.ref "#", MetaSchema.ref "#/definitions/schemaArray"]) :=
  ((Members.gathers_ofList _).get?_eq "items").trans rfl

lemma get?_properties :
    Members.get? draft7Properties "properties" = some (MetaSchema.mapOf (MetaSchema.ref "#")) :=
  ((Members.gathers_ofList _).get?_eq "properties").trans rfl

/-- A schema that only refers to another. -/
def referenceTo (text : String) : Value := .object [("$ref", .string text)]

/-- Whatever is read from the schema of draft 7 takes a value. -/
def TakenAsSchema (v : Value) : Prop :=
  ∀ ⦃r : Reader⦄ ⦃base : String⦄ ⦃s : Form⦄, ReadAs r base MetaSchema.draft7 s →
    ∀ l, s.holds l v = true

lemma takenAsSchema_bool (b : Bool) : TakenAsSchema (.bool b) := by
  intro r base s h l
  obtain ⟨named, rfl, -⟩ := h.draft7
  rfl

/-- An object is taken as a schema if each of its members is taken. -/
lemma takenAsSchema_of_members {ms : Members} (h : ∀ m ∈ ms, TakenUnder m.1 m.2) :
    TakenAsSchema (.object ms) := by
  intro r base s hs l
  obtain ⟨named, rfl, hnamed⟩ := hs.draft7
  rw [draft7Form_holds, namedHold_iff]
  intro n hn v hv
  obtain ⟨w, hw, hread⟩ := hnamed n hn
  obtain ⟨hid, hschema, hholds⟩ := h (n.1, v) (Members.mem_of_get? hv) w hw
  exact hholds (hread hid hschema) l

lemma takenAsSchema_referenceTo {text : String} (htext : Format.uriReference.admits text = true) :
    TakenAsSchema (referenceTo text) := by
  refine takenAsSchema_of_members (List.forall_mem_singleton.mpr fun w hw => ?_)
  cases get?_ref.symm.trans hw
  exact ⟨rfl, rfl, fun r base s h l => h.uriReference_holds l htext⟩

/-- Nothing is wrong with what is taken as a schema. -/
lemma TakenAsSchema.flaw?_eq_none {v : Value} (hv : TakenAsSchema v) : flaw? .draft7 v = none := by
  rw [flaw?_eq_none_iff, Compiled.isValid]
  generalize (metaSchema .draft7).reach v = n
  obtain hdefault | ⟨c, p, hc, hbase, hrun, -⟩ := metaSchema_draft7
  · rw [hdefault]
    rfl
  · exact hv ⟨c, _, p, hc, hbase, hrun⟩ _

/-! ## References to where they start from -/

/-- A reference without fragment leads to the whole resource. -/
lemma follow_whole {reg : Registry} {c : Context} {reference id : String} {r : Resource}
    {ms : Members} (hreferred : Registry.referred c.base reference = .ok (id, ""))
    (hr : reg.find? id = some r) (hcontents : r.contents = .object ms) :
    reg.follow c reference =
      .ok { resource := id, anchor := none, place := [], contents := r.contents, draft := r.draft,
            base := id, scopes := c.scopesTo id } := by
  have hempty : "".toList = [] := rfl
  simp only [Registry.follow, Registry.followAny, hreferred, hr, Registry.followFragment, hempty,
    hcontents, bind, Except.bind]

/-- Before the first reference is met none is met again, and meeting one puts nothing off. -/
lemma Compiling.run_visit_eq_ok {id : String} {p q : Progress} {known : Bool}
    (h : (visit id).run p = .ok (known, q)) :
    q.deferred = p.deferred ∧ (known = true → p.seen ≠ []) := by
  rw [run_visit] at h
  split at h
  case isTrue hseen =>
    cases h
    refine ⟨rfl, fun _ hnil => ?_⟩
    rw [hnil] at hseen
    cases hseen
  case isFalse =>
    cases h
    exact ⟨rfl, nofun⟩

/-- What a reference is read as: what it leads to, where it is met for the first time, and later on
a way there, unless it leads to the same reference. -/
lemma run_readReference_eq_ok {r : Reader} {c : Context} {keyword text : String} {p q : Progress}
    {ks : List Keyword} (h : (readReference r c keyword text).run p = .ok (ks, q)) :
    ∃ l, r.registry.follow c text = .ok l ∧
      ((∃ s p', ks = [.nested keyword s] ∧ p'.deferred = p.deferred ∧
          (r.form l.contents ((c.landed r.registry l).down [.key keyword])).run p' = .ok (s, q)) ∨
        p.seen ≠ [] ∧ (ks = [] ∨ ∃ context, c.detached l = .ok context ∧
          ks = [.reference keyword (context.target l)])) := by
  unfold readReference at h
  obtain ⟨id, p₁, hid, hrest⟩ := Compiling.run_bind_eq_ok h
  obtain ⟨-, hp⟩ := Compiling.run_lift_eq_ok hid
  obtain ⟨known, p₂, hknown, hrest⟩ := Compiling.run_bind_eq_ok hrest
  obtain ⟨hdeferred, hseen⟩ := Compiling.run_visit_eq_ok hknown
  rw [hp] at hdeferred hseen
  obtain ⟨l, p₃, hl, hrest⟩ := Compiling.run_bind_eq_ok hrest
  obtain ⟨hfollow, hp₃⟩ : r.registry.follow c text = .ok l ∧ p₃ = p₂ := by
    unfold Compiling.land at hl
    split at hl
    · cases hl
    · exact Compiling.run_lift_eq_ok hl
  refine ⟨l, hfollow, ?_⟩
  cases known with
  | false =>
    obtain ⟨s, p₄, hs, hrest⟩ := Compiling.run_bind_eq_ok hrest
    cases hrest
    exact .inl ⟨s, p₃, rfl, hp₃ ▸ hdeferred, hs⟩
  | true =>
    refine .inr ⟨hseen rfl, ?_⟩
    rw [Bool.not_true, if_neg Bool.false_ne_true] at hrest
    split at hrest
    · cases hrest
      exact .inl rfl
    · obtain ⟨t, p₄, ht, hrest⟩ := Compiling.run_bind_eq_ok hrest
      cases hrest
      obtain ⟨context, p₅, hcontext, ht⟩ := Compiling.run_bind_eq_ok ht
      obtain ⟨hcontext, -⟩ := Compiling.run_lift_eq_ok hcontext
      cases ht
      exact .inr ⟨context, hcontext, rfl⟩

lemma Reader.registry_following (reg : Registry) (n : Nat) :
    (Reader.following reg n).registry = reg := by
  cases n <;> rfl

/-- What lies under such a place takes what is taken as a schema. -/
lemma TakenAsSchema.links_holds {v : Value} (hv : TakenAsSchema v) {table : Table}
    (h : table.All ReadAtDraft7) {t : Target} (ht : t.IsDraft7) (n : Nat) :
    (table.links n).holds t v = true := by
  cases n with
  | zero => rfl
  | succ n =>
    rw [Table.links]
    dsimp only
    split
    case h_1 s hs =>
      obtain rfl | ⟨r, base, hread⟩ := h.lookup hs ht
      · rfl
      · exact hv hread _
    case h_2 => rfl

/-- What the schema of draft 7 refers to as itself takes what is taken as a schema. -/
lemma TakenAsSchema.self_holds {v : Value} (hv : TakenAsSchema v) {n : Nat} {s : Form}
    (h : ReadAs (Reader.following Registry.standard n) draft7Id (MetaSchema.ref "#") s)
    {table : Table} (htable : table.All ReadAtDraft7) (m : Nat) :
    s.holds (table.links m) v = true := by
  obtain ⟨⟨draft, vocabularies, base, scopes, place⟩, p, q, rfl, rfl, hrun⟩ := h
  obtain ⟨kss, _, hkss, hs⟩ := Compiling.run_bind_eq_ok hrun
  cases hs
  obtain _ | ⟨⟨_, _, href⟩, hrest⟩ := Compiling.run_mapM_eq_ok hkss
  obtain _ | _ := hrest
  obtain ⟨l, hl, h⟩ := run_readReference_eq_ok href
  have hreferred : Registry.referred draft7Id "#" = .ok (draft7Id, "") := rfl
  rw [Reader.registry_following,
    follow_whole hreferred standard_draft7 MetaSchema.draft7_eq] at hl
  cases hl
  rw [List.flatten_singleton]
  obtain ⟨s, p', rfl, -, hs⟩ | ⟨-, rfl | ⟨context, hcontext, rfl⟩⟩ := h
  · refine Bool.and_eq_true_iff.mpr ⟨?_, rfl⟩
    cases n with
    | zero =>
      cases hs
      rfl
    | succ n =>
      have hread : ReadAs (Reader.following Registry.standard n) draft7Id MetaSchema.draft7 s :=
        ⟨_, p', _, rfl, rfl, hs⟩
      exact hv hread _
  · rfl
  · refine Bool.and_eq_true_iff.mpr ⟨hv.links_holds htable ?_ m, rfl⟩
    obtain ⟨base, -, hcontext⟩ := exists_of_bind_eq_ok hcontext
    cases hcontext
    exact ⟨rfl, rfl, rfl, rfl⟩

/-- What the schema of draft 7 has for one schema or several takes one that is taken as a schema. -/
lemma TakenAsSchema.either_holds {v : Value} (hv : TakenAsSchema v) {n : Nat} {s : Form}
    {several : Value}
    (h : ReadAs (Reader.following Registry.standard n) draft7Id
      (MetaSchema.anyOf [MetaSchema.ref "#", several]) s)
    {table : Table} (htable : table.All ReadAtDraft7) (m : Nat) :
    s.holds (table.links m) v = true := by
  obtain ⟨⟨draft, vocabularies, base, scopes, place⟩, p, q, rfl, rfl, hrun⟩ := h
  obtain ⟨kss, _, hkss, hs⟩ := Compiling.run_bind_eq_ok hrun
  cases hs
  obtain _ | ⟨⟨_, _, hanyOf⟩, hrest⟩ := Compiling.run_mapM_eq_ok hkss
  obtain _ | _ := hrest
  obtain ⟨forms, _, hforms, hanyOf⟩ := Compiling.run_bind_eq_ok hanyOf
  cases hanyOf
  obtain _ | @⟨_, one, _, others, ⟨_, _, hone⟩, -⟩ := Compiling.run_mapM_eq_ok hforms
  have hread : ReadAs (Reader.following Registry.standard n) draft7Id (MetaSchema.ref "#") one := by
    refine readAs_of_within ?_ ?_ ?_ ?_ hone
    all_goals rfl
  have hcount : countHolding (table.links m) (one :: others) v ≠ 0 := by
    rw [countHolding, if_pos (hv.self_holds hread htable m)]
    omega
  exact Bool.and_eq_true_iff.mpr ⟨bne_iff_ne.mpr hcount, rfl⟩

/-- What the schema of draft 7 has for schemas by name takes one that is taken as a schema. -/
lemma TakenAsSchema.named_holds {v : Value} (hv : TakenAsSchema v) {n : Nat} {s : Form}
    (h : ReadAs (Reader.following Registry.standard n) draft7Id
      (MetaSchema.mapOf (MetaSchema.ref "#")) s)
    {table : Table} (htable : table.All ReadAtDraft7) (k : String) (m : Nat) :
    s.holds (table.links m) (.object [(k, v)]) = true := by
  obtain ⟨⟨draft, vocabularies, base, scopes, place⟩, p, q, rfl, rfl, hrun⟩ := h
  obtain ⟨kss, _, hkss, hs⟩ := Compiling.run_bind_eq_ok hrun
  cases hs
  obtain _ | ⟨⟨_, _, hadditional⟩, hrest⟩ := Compiling.run_mapM_eq_ok hkss
  obtain _ | ⟨⟨_, _, htype⟩, hrest⟩ := hrest
  obtain _ | _ := hrest
  cases htype
  obtain ⟨matching, _, hmatching, hadditional⟩ := Compiling.run_bind_eq_ok hadditional
  cases hmatching
  obtain ⟨named, _, hnamed, hadditional⟩ := Compiling.run_bind_eq_ok hadditional
  cases hnamed
  obtain ⟨other, _, hother, hadditional⟩ := Compiling.run_bind_eq_ok hadditional
  cases hadditional
  have hread : ReadAs (Reader.following Registry.standard n) draft7Id (MetaSchema.ref "#") other := by
    refine readAs_of_within ?_ ?_ ?_ ?_ hother
    all_goals rfl
  have hholds := hv.self_holds hread htable m
  have hmembers : ([(k, v)].all fun m' =>
      other.holds (table.links m) m'.2) = true := by
    rw [List.all_cons, hholds]
    rfl
  exact Bool.and_eq_true_iff.mpr ⟨hmembers, rfl⟩

/-- What is taken as a schema is taken as one that values must not satisfy. -/
lemma TakenAsSchema.not {v : Value} (hv : TakenAsSchema v) : TakenAsMember "not" v := by
  intro w hw
  cases get?_not.symm.trans hw
  exact ⟨rfl, rfl, fun s h m => hv.self_holds h metaSchema_table_all m⟩

/-- What is taken as a schema is taken as one for items. -/
lemma TakenAsSchema.items {v : Value} (hv : TakenAsSchema v) : TakenAsMember "items" v := by
  intro w hw
  cases get?_items.symm.trans hw
  exact ⟨rfl, rfl, fun s h m => hv.either_holds h metaSchema_table_all m⟩

/-- A member under a name that is taken as a schema is taken. -/
lemma TakenAsSchema.properties {v : Value} (hv : TakenAsSchema v) (k : String) :
    TakenAsMember "properties" (.object [(k, v)]) := by
  intro w hw
  cases get?_properties.symm.trans hw
  exact ⟨rfl, rfl, fun s h m => hv.named_holds h metaSchema_table_all k m⟩

end AgentManifest.Schema
