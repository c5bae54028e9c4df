import AgentManifest.Proofs.Schema.Isolation
import AgentManifest.Proofs.Schema.Reporting
import AgentManifest.Proofs.Schema.SelfReference

/-!
# A path names one place

Steps from one value that are written alike are the same, as an object has names only and an array
indices only. So the pointers to two places of a document are different, and the path of a violation
tells where it lies. Only `/` is written for two places: for the whole document, and for the member
of it with the empty name.
-/

namespace AgentManifest.Json

/-- Where a value leads by a step tells of two steps written alike that they are the same. -/
lemma Segment.eq_of_write {v w w' : Value} {s s' : Segment} (h : v.step? s = some w)
    (h' : v.step? s' = some w') (hwrite : s.write = s'.write) : s = s' := by
  cases s with
  | key name =>
    cases s' with
    | key name' => rw [Schema.write_key_inj.mp hwrite]
    | index n' => cases v <;> simp [Value.step?] at h h'
  | index n =>
    cases s' with
    | key name' => cases v <;> simp [Value.step?] at h h'
    | index n' => rw [Schema.write_index_inj.mp hwrite]

/-- Two places of one value have different tokens. -/
lemma Location.eq_of_tokens {v w w' : Value} {l l' : Location} (h : v.at? l = some w)
    (h' : v.at? l' = some w') (htokens : Schema.tokens l = Schema.tokens l') : l = l' := by
  induction l generalizing v l' with
  | nil => exact (List.map_eq_nil_iff.mp htokens.symm).symm
  | cons s l ih =>
    cases l' with
    | nil => cases htokens
    | cons s' l' =>
      obtain ⟨hwrite, hrest⟩ := List.cons.inj htokens
      obtain ⟨u, hu, h⟩ := Option.bind_eq_some_iff.mp h
      obtain ⟨u', hu', h'⟩ := Option.bind_eq_some_iff.mp h'
      obtain rfl : s = s' := Segment.eq_of_write hu hu' hwrite
      cases hu.symm.trans hu'
      rw [ih h h' hrest]

/-- Two places of one value have different pointers. -/
lemma Location.eq_of_pointer {v w w' : Value} {l l' : Location} (h : v.at? l = some w)
    (h' : v.at? l' = some w') (hpointer : pointer l = pointer l') : l = l' :=
  eq_of_tokens h h' (Schema.tokens_eq_of_pointer hpointer)

end AgentManifest.Json

namespace AgentManifest.Schema

open Json (Value Members Location)
open Report (Violation)

/-! ## Paths -/

/-- The path that is written for a place: its pointer, or `/` for the whole document. -/
def pathOf (l : Location) : String := if (Location.pointer l).isEmpty then "/" else l.pointer

lemma pathOf_nil : pathOf [] = "/" := rfl

lemma pathOf_of_ne {l : Location} (h : l ≠ []) : pathOf l = l.pointer := by
  rw [pathOf, if_neg fun hempty => Location.pointer_ne_empty h (String.isEmpty_iff.mp hempty)]

/-- The whole document, and the member of it with the empty name. -/
def AreRootAndNameless (l l' : Location) : Prop := l = [] ∧ l' = [.key ""]

lemma pathOf_eq_slash_iff {l : Location} : pathOf l = "/" ↔ l = [] ∨ l = [.key ""] := by
  by_cases hl : l = []
  · subst hl
    exact iff_of_true pathOf_nil (.inl rfl)
  · rw [pathOf_of_ne hl, Location.pointer_eq_slash_iff, or_iff_right hl]

/-- Two places of one value are written alike only if both are written `/`. -/
lemma pathOf_eq_iff {v w w' : Value} {l l' : Location} (h : v.at? l = some w)
    (h' : v.at? l' = some w') : pathOf l = pathOf l' ↔
      l = l' ∨ AreRootAndNameless l l' ∨ AreRootAndNameless l' l := by
  constructor
  · intro heq
    by_cases hl : l = []
    · subst hl
      obtain rfl | rfl := pathOf_eq_slash_iff.mp heq.symm
      · exact .inl rfl
      · exact .inr (.inl ⟨rfl, rfl⟩)
    · by_cases hl' : l' = []
      · subst hl'
        exact .inr (.inr ⟨rfl, (pathOf_eq_slash_iff.mp heq).resolve_left hl⟩)
      · rw [pathOf_of_ne hl, pathOf_of_ne hl'] at heq
        exact .inl (Location.eq_of_pointer h h' heq)
  · rintro (rfl | ⟨rfl, rfl⟩ | ⟨rfl, rfl⟩) <;> rfl

/-! ## Violations -/

/-- A violation of a value is reported for a place in it. Text in no encoding is left out, as it is
reported for the whole value wherever it lies. -/
def Compiled.ReportsAt (s : Compiled) (v : Value) (x : Violation) (l : Location) : Prop :=
  ∃ f ∈ s.failures v, f.cause.hidesPlace = false ∧ f.violation = x ∧ f.place = l

/-- A violation is reported under the path of its place, where there is a value. -/
lemma Compiled.ReportsAt.path_eq {s : Compiled} {v : Value} {x : Violation} {l : Location}
    (h : s.ReportsAt v x l) (hv : v.WellFormed) : x.path = pathOf l ∧ ∃ w, v.at? l = some w := by
  obtain ⟨f, hf, -, rfl, rfl⟩ := h
  exact ⟨rfl, (s.located v f hf).1.exists_at? hv⟩

/-- Violations of one document have the same path exactly if they lie at one place, or one of them
is about the whole document and the other about the member with the empty name. -/
theorem Compiled.path_eq_iff (s : Compiled) {v : Value} (hv : v.WellFormed) {x y : Violation}
    {l l' : Location} (hx : s.ReportsAt v x l) (hy : s.ReportsAt v y l') :
    x.path = y.path ↔ l = l' ∨ AreRootAndNameless l l' ∨ AreRootAndNameless l' l := by
  obtain ⟨hpath, w, hw⟩ := hx.path_eq hv
  obtain ⟨hpath', w', hw'⟩ := hy.path_eq hv
  rw [hpath, hpath']
  exact pathOf_eq_iff hw hw'

/-- A member of a member and a member whose name has a slash have different paths. -/
theorem path_ne_of_slash_in_name :
    let s : Compiled :=
      { id? := none, table := {},
        root := .all [.properties [("a", .all [.properties [("b", .never)]]), ("a/b", .never)]] }
    let v : Value := .object [("a", .object [("b", .null)]), ("a/b", .null)]
    v.WellFormed ∧ ∃ x y, s.ReportsAt v x [.key "a", .key "b"] ∧ s.ReportsAt v y [.key "a/b"] ∧
      x.path = "/a/b" ∧ y.path = "/a~1b" ∧ x.path ≠ y.path := by
  intro s v
  have hv : v.WellFormed := by
    simp only [v, Value.WellFormed, Value.WellFormedMembers]
    decide
  have hx : s.ReportsAt v (Failure.violation
      { place := [.key "a", .key "b"], cause := .never,
        keyword := [.key "properties", .key "a", .key "properties", .key "b"] })
      [.key "a", .key "b"] := ⟨_, .head _, rfl, rfl, rfl⟩
  have hy : s.ReportsAt v (Failure.violation
      { place := [.key "a/b"], cause := .never, keyword := [.key "properties", .key "a/b"] })
      [.key "a/b"] := ⟨_, .tail _ (.head _), rfl, rfl, rfl⟩
  refine ⟨hv, _, _, hx, hy, by decide +kernel, by decide +kernel, ?_⟩
  rw [Ne, s.path_eq_iff hv hx hy]
  simp [AreRootAndNameless]

/-- A schema that both a whole document and its member with the empty name fail to satisfy. -/
theorem root_path_eq_nameless_path :
    ∃ s, compile (.object [("const", .nat 0), ("properties", .object [("", .bool false)])]) [] =
        .ok s ∧
      let v : Value := .object [("", .nat 0)]
      v.WellFormed ∧ ∃ x y, s.ReportsAt v x [] ∧ s.ReportsAt v y [.key ""] ∧ x.path = y.path := by
  let ms : Members := [("const", .nat 0), ("properties", .object [("", .bool false)])]
  have hinside : schemasInside (.object ms) = [.bool false, .bool false] := rfl
  have hfalse : Isolated (.bool false) := .intro (by decide) (List.forall_mem_nil _)
  have hisolated : Isolated (.object ms) := by
    refine .intro (by decide) ?_
    rw [hinside]
    exact List.forall_mem_cons.mpr ⟨hfalse, List.forall_mem_singleton.mpr hfalse⟩
  have htaken : ∀ m ∈ ms, TakenAsMember m.1 m.2 :=
    List.forall_mem_cons.mpr ⟨(takenUnder_const _).takenAsMember,
      List.forall_mem_singleton.mpr ((takenAsSchema_bool false).properties "")⟩
  have hcompile : compile (.object ms) [] =
      .ok { id? := none, table := {},
            root := .all [.test [.key "const"] (.const (.nat 0)), .properties [("", .never)]] } :=
    hisolated.compile_eq_ok (flaw?_draft7_of_members htaken) fun _ => rfl
  refine ⟨_, hcompile, ?_⟩
  intro v
  have hv : v.WellFormed := ⟨List.pairwise_singleton _ _, trivial, trivial⟩
  exact ⟨hv, _, _, ⟨_, .head _, rfl, rfl, rfl⟩, ⟨_, .tail _ (.head _), rfl, rfl, rfl⟩, rfl⟩

end AgentManifest.Schema
