import AgentManifest.Proofs.Json.Pointer
import AgentManifest.Schema.Compiled

/-!
# Where failures come from

A failure arises where a value fails a keyword by itself, and goes up from there through the
keywords that apply a schema to the value, to a part of it or to a name in it. Each failure that is
collected comes about in one of these ways, so that what holds where failures arise and stays true on
the way up holds of them all.
-/

namespace AgentManifest.Json.Value

/-- A value is another one or stands right below it, at a place. -/
inductive Within : Value → Location → Value → Prop
  | self {v : Value} : Within v [] v
  | member {ms : Members} {m : String × Value} (hm : m ∈ ms) : Within (.object ms) [.key m.1] m.2
  | item {vs : List Value} {n : Nat} {v : Value} (hv : vs[n]? = some v) :
      Within (.array vs) [.index n] v

namespace Within

variable {v w : Value} {place : Location}

lemma leads (h : v.Within place w) {l : Location} (hl : w.Leads l) : v.Leads (place ++ l) := by
  cases h with
  | self => exact hl
  | member hm => exact .member hm hl
  | item hv => exact .item hv hl

lemma names_subset (h : v.Within place w) : w.names ⊆ v.names := by
  intro name hname
  cases h with
  | self => exact hname
  | member hm => exact names_member hm (.inr hname)
  | item hv => exact names_item (List.mem_of_getElem? hv) hname

end Within
end AgentManifest.Json.Value

namespace AgentManifest.Schema

open Json (Value Members Location)

variable {l : Links} {r : Complaints} {v : Value} {f : Failure}

/-! ## Failures of several schemas -/

lemma allFailures_eq_flatMap (ks : List Keyword) (v : Value) :
    allFailures l r ks v = ks.flatMap fun k => k.failures l r v := by
  induction ks with
  | nil => rfl
  | cons k ks ih => rw [allFailures, ih, List.flatMap_cons]

lemma namedFailures_eq_flatMap (named : List (String × Form)) (ms : Members) :
    namedFailures l r named ms = named.flatMap fun n => (Members.get? ms n.1).elim [] fun v =>
      raise [.key n.1] [.key "properties", .key n.1] (n.2.failures l r v) := by
  induction named with
  | nil => rfl
  | cons n named ih =>
    rw [namedFailures, ih, List.flatMap_cons]
    cases Members.get? ms n.1 with
    | none => rfl
    | some v => rfl

lemma memberFailures_eq_flatMap (named : List (String × Form)) (key : String) (v : Value) :
    memberFailures l r named key v = named.flatMap fun n =>
      if n.1 = key then raise [.key key] [.key "properties", .key key] (n.2.failures l r v)
      else [] := by
  induction named with
  | nil => rfl
  | cons n named ih => rw [memberFailures, ih, List.flatMap_cons]

lemma patternFailures_eq_flatMap (matching : List (NamePattern × Form)) (ms : Members) :
    patternFailures l r matching ms = matching.flatMap fun p =>
      (ms.filter fun m => p.1.matcher.occursIn m.1).flatMap fun m =>
        raise [.key m.1] [.key "patternProperties", .key p.1.text] (p.2.failures l r m.2) := by
  induction matching with
  | nil => rfl
  | cons p matching ih => rw [patternFailures, ih, List.flatMap_cons]

lemma matchingFailures_eq_flatMap (matching : List (NamePattern × Form)) (key : String)
    (v : Value) :
    matchingFailures l r matching key v = matching.flatMap fun p =>
      if p.1.matcher.occursIn key then
        raise [.key key] [.key "patternProperties", .key p.1.text] (p.2.failures l r v)
      else [] := by
  induction matching with
  | nil => rfl
  | cons p matching ih => rw [matchingFailures, ih, List.flatMap_cons]

lemma tupleFailures_eq_flatMap (keyword : String) (i : Nat) (schemas : List Form)
    (vs : List Value) :
    tupleFailures l r keyword i schemas vs = ((schemas.zip vs).zipIdx i).flatMap fun p =>
      raise [.index p.2] [.key keyword, .index p.2] (p.1.1.failures l r p.1.2) := by
  induction schemas generalizing i vs with
  | nil => rfl
  | cons s schemas ih =>
    cases vs with
    | nil => rfl
    | cons v vs =>
      rw [tupleFailures, ih, List.zip_cons_cons, List.zipIdx_cons, List.flatMap_cons]

lemma eachFailures_eq_flatMap (i : Nat) (schemas : List Form) (v : Value) :
    eachFailures l r i schemas v = (schemas.zipIdx i).flatMap fun p =>
      raise [] [.key "allOf", .index p.2] (p.1.failures l r v) := by
  induction schemas generalizing i with
  | nil => rfl
  | cons s schemas ih => rw [eachFailures, ih, List.zipIdx_cons, List.flatMap_cons]

/-! ## Conditions -/

lemma Assertion.failureAt_place (place : Location) (a : Assertion) (v : Value) :
    (a.failureAt place v).place = [] := by
  unfold Assertion.failureAt
  split <;> rfl

lemma Assertion.failureAt_cause (place : Location) (a : Assertion) (v : Value) :
    (a.failureAt place v).cause = a.cause v := by
  unfold Assertion.failureAt
  split
  case h_1 offset length hcause => exact hcause.symm
  case h_2 hcause => exact hcause.symm
  case h_3 => rfl

/-! ## Ways for a keyword to fail -/

/-- A keyword holds a schema whose failures it passes on. -/
inductive Keyword.Applies : Keyword → Form → Prop
  | properties {named : List (String × Form)} {n : String × Form} (hn : n ∈ named) :
      Applies (.properties named) n.2
  | patternProperties {matching : List (NamePattern × Form)} {p : NamePattern × Form}
      (hp : p ∈ matching) : Applies (.patternProperties matching) p.2
  | closedNamed {named : List (String × Form)} {matching : List (NamePattern × Form)}
      {n : String × Form} (hn : n ∈ named) : Applies (.closed named matching) n.2
  | closedMatching {named : List (String × Form)} {matching : List (NamePattern × Form)}
      {p : NamePattern × Form} (hp : p ∈ matching) : Applies (.closed named matching) p.2
  | additionalNamed {named : List (String × Form)} {matching : List (NamePattern × Form)}
      {other : Form} {n : String × Form} (hn : n ∈ named) :
      Applies (.additional named matching other) n.2
  | additionalMatching {named : List (String × Form)} {matching : List (NamePattern × Form)}
      {other : Form} {p : NamePattern × Form} (hp : p ∈ matching) :
      Applies (.additional named matching other) p.2
  | other {named : List (String × Form)} {matching : List (NamePattern × Form)} {s : Form} :
      Applies (.additional named matching s) s
  | propertyNames {s : Form} : Applies (.propertyNames s) s
  | itemsFrom {keyword : String} {skip : Nat} {s : Form} : Applies (.itemsFrom keyword skip s) s
  | tuple {keyword : String} {schemas : List Form} {s : Form} (hs : s ∈ schemas) :
      Applies (.tuple keyword schemas) s
  | allOf {schemas : List Form} {s : Form} (hs : s ∈ schemas) : Applies (.allOf schemas) s
  | consequence {c t e : Form} : Applies (.conditional c t e) t
  | alternative {c t e : Form} : Applies (.conditional c t e) e
  | dependent {keyword trigger : String} {place : Location} {s : Form} :
      Applies (.dependent keyword place trigger s) s
  | nested {keyword : String} {s : Form} : Applies (.nested keyword s) s

/-- A value fails a keyword by itself, for a cause. -/
inductive Keyword.Fails : Keyword → Value → Cause → Prop
  | test {place : Location} {a : Assertion} {v : Value} : Fails (.test place a) v (a.cause v)
  | required {place : Location} {names : List String} {v : Value} {name : String}
      (hname : name ∈ names) : Fails (.required place names) v (.required name)
  | closed {named : List (String × Form)} {matching : List (NamePattern × Form)} {ms : Members}
      {names : List String} (hnames : names ⊆ ms.names) :
      Fails (.closed named matching) (.object ms) (.additionalProperties names)
  | contains {rule : ContainsRule} {s : Form} {v : Value} : Fails (.contains rule s) v .contains
  | anyOf {schemas : List Form} {v : Value} : Fails (.anyOf schemas) v .anyOf
  | oneOf {schemas : List Form} {v : Value} {several : Bool} :
      Fails (.oneOf schemas) v (.oneOf several)
  | not {written : Value} {s : Form} {v : Value} : Fails (.not written s) v (.not written)
  | unevaluatedProperties {seen : Coverage} {s : Form} {ms : Members} {names : List String}
      (hnames : names ⊆ ms.names) :
      Fails (.unevaluatedProperties seen s) (.object ms) (.unevaluatedProperties names)
  | unevaluatedItems {seen : Coverage} {s : Form} {v : Value} {items : List Value} :
      Fails (.unevaluatedItems seen s) v (.unevaluatedItems items)

/-- How a value fails a keyword, given how values fail schemas and references. -/
inductive Keyword.Origin (S : Form → Value → Failure → Prop) (r : Complaints) :
    Keyword → Value → Failure → Prop
  | own {k : Keyword} {v : Value} {f : Failure} (hcause : k.Fails v f.cause)
      (hplace : f.place = []) : Origin S r k v f
  | below {k : Keyword} {s : Form} {v w : Value} {place : Location} {g : Failure}
      (hs : k.Applies s) (hw : v.Within place w) (hg : S s w g) (keyword : Location) :
      Origin S r k v (g.under place keyword)
  /-- A name fails, which is no value of the object, so that it is reported itself. -/
  | ofName {k : Keyword} {s : Form} {ms : Members} {m : String × Value} {f g : Failure}
      (hs : k.Applies s) (hm : m ∈ ms) (hg : S s (.string m.1) g)
      (hcause : f.cause = .propertyName m.1 g.cause) (hplace : f.place = []) :
      Origin S r k (.object ms) f
  | elsewhere {keyword : String} {t : Target} {v : Value} {g : Failure} (hg : g ∈ r t v) :
      Origin S r (.reference keyword t) v (g.under [] [.key keyword])

lemma Keyword.Origin.imp {S S' : Form → Value → Failure → Prop} {k : Keyword}
    (hS : ∀ s w g, k.Applies s → S s w g → S' s w g) (h : k.Origin S r v f) :
    k.Origin S' r v f := by
  cases h with
  | own hcause hplace => exact .own hcause hplace
  | below hs hw hg keyword => exact .below hs hw (hS _ _ _ hs hg) keyword
  | ofName hs hm hg hcause hplace => exact .ofName hs hm (hS _ _ _ hs hg) hcause hplace
  | elsewhere hg => exact .elsewhere hg

/-! ## Failures of parts -/

/-- A failure is passed on from a schema for a value or for what stands right below it. -/
def PassedOn (l : Links) (r : Complaints) (s : Form) (v : Value) (f : Failure) : Prop :=
  ∃ place keyword w, v.Within place w ∧ f ∈ raise place keyword (s.failures l r w)

lemma PassedOn.origin {k : Keyword} {s : Form} (hs : k.Applies s) (h : PassedOn l r s v f) :
    k.Origin (fun s w g => g ∈ s.failures l r w) r v f := by
  obtain ⟨place, keyword, w, hw, hf⟩ := h
  obtain ⟨g, hg, rfl⟩ := List.mem_map.mp hf
  exact .below hs hw hg keyword

lemma PassedOn.of_raise_nil {s : Form} {keyword : Location}
    (h : f ∈ raise [] keyword (s.failures l r v)) : PassedOn l r s v f :=
  ⟨[], keyword, v, .self, h⟩

lemma passedOn_of_namedFailures {named : List (String × Form)} {ms : Members}
    (h : f ∈ namedFailures l r named ms) : ∃ n ∈ named, PassedOn l r n.2 (.object ms) f := by
  rw [namedFailures_eq_flatMap] at h
  obtain ⟨n, hn, h⟩ := List.mem_flatMap.mp h
  cases hget : Members.get? ms n.1 with
  | none =>
    rw [hget] at h
    cases h
  | some w =>
    rw [hget] at h
    exact ⟨n, hn, _, _, w, .member (Members.mem_of_get? hget), h⟩

lemma passedOn_of_memberFailures {named : List (String × Form)} {ms : Members}
    {m : String × Value} (hm : m ∈ ms) (h : f ∈ memberFailures l r named m.1 m.2) :
    ∃ n ∈ named, PassedOn l r n.2 (.object ms) f := by
  rw [memberFailures_eq_flatMap] at h
  obtain ⟨n, hn, h⟩ := List.mem_flatMap.mp h
  split at h
  case isTrue => exact ⟨n, hn, _, _, m.2, .member hm, h⟩
  case isFalse => cases h

lemma passedOn_of_patternFailures {matching : List (NamePattern × Form)} {ms : Members}
    (h : f ∈ patternFailures l r matching ms) :
    ∃ p ∈ matching, PassedOn l r p.2 (.object ms) f := by
  rw [patternFailures_eq_flatMap] at h
  obtain ⟨p, hp, h⟩ := List.mem_flatMap.mp h
  obtain ⟨m, hm, h⟩ := List.mem_flatMap.mp h
  exact ⟨p, hp, _, _, m.2, .member (List.mem_filter.mp hm).1, h⟩

lemma passedOn_of_matchingFailures {matching : List (NamePattern × Form)} {ms : Members}
    {m : String × Value} (hm : m ∈ ms) (h : f ∈ matchingFailures l r matching m.1 m.2) :
    ∃ p ∈ matching, PassedOn l r p.2 (.object ms) f := by
  rw [matchingFailures_eq_flatMap] at h
  obtain ⟨p, hp, h⟩ := List.mem_flatMap.mp h
  split at h
  case isTrue => exact ⟨p, hp, _, _, m.2, .member hm, h⟩
  case isFalse => cases h

/-- An item is indexed with its place. -/
lemma getElem?_of_mem_indexed {vs : List Value} {p : Nat × Value} (hp : p ∈ indexed vs) :
    vs[p.1]? = some p.2 := by
  obtain ⟨i, hi, rfl⟩ := List.mem_mapIdx.mp hp
  exact List.getElem?_eq_getElem hi

lemma passedOn_of_tupleFailures {keyword : String} {schemas : List Form} {vs : List Value}
    (h : f ∈ tupleFailures l r keyword 0 schemas vs) :
    ∃ s ∈ schemas, PassedOn l r s (.array vs) f := by
  rw [tupleFailures_eq_flatMap] at h
  obtain ⟨⟨⟨s, w⟩, n⟩, hp, h⟩ := List.mem_flatMap.mp h
  obtain ⟨hs, hw⟩ := List.getElem?_zip_eq_some.mp (List.mem_zipIdx_iff_getElem?.mp hp)
  exact ⟨s, List.mem_of_getElem? hs, _, _, w, .item hw, h⟩

lemma passedOn_of_eachFailures {schemas : List Form} (h : f ∈ eachFailures l r 0 schemas v) :
    ∃ s ∈ schemas, PassedOn l r s v f := by
  rw [eachFailures_eq_flatMap] at h
  obtain ⟨p, hp, h⟩ := List.mem_flatMap.mp h
  exact ⟨p.1, List.fst_mem_of_mem_zipIdx hp, .of_raise_nil h⟩

/-! ## Failures of keywords -/

lemma Keyword.Fails.origin {S : Form → Value → Failure → Prop} {k : Keyword} {keyword : Location}
    {c : Cause} (hc : k.Fails v c) (h : f ∈ failAt keyword c) : k.Origin S r v f := by
  rw [List.eq_of_mem_singleton h]
  exact .own hc rfl

lemma unexpectedNames_subset (named : List (String × Form)) (matching : List (NamePattern × Form))
    (ms : Members) : unexpectedNames named matching ms ⊆ ms.names :=
  List.filter_sublist.subset

/-- How a failure of a keyword comes about. -/
lemma Keyword.origin {k : Keyword} (h : f ∈ k.failures l r v) :
    k.Origin (fun s w g => g ∈ s.failures l r w) r v f := by
  cases k with
  | test place a =>
    rw [Keyword.failures] at h
    split at h
    case isTrue => cases h
    case isFalse =>
      rw [List.eq_of_mem_singleton h]
      refine .own ?_ (a.failureAt_place place v)
      rw [a.failureAt_cause]
      exact .test
  | required place names =>
    cases v with
    | object ms =>
      obtain ⟨name, hname, h⟩ := List.mem_flatMap.mp h
      exact Fails.origin (.required (List.mem_filter.mp hname).1) h
    | _ => cases h
  | properties named =>
    cases v with
    | object ms =>
      obtain ⟨n, hn, h⟩ := passedOn_of_namedFailures h
      exact h.origin (.properties hn)
    | _ => cases h
  | patternProperties matching =>
    cases v with
    | object ms =>
      obtain ⟨p, hp, h⟩ := passedOn_of_patternFailures h
      exact h.origin (.patternProperties hp)
    | _ => cases h
  | closed named matching =>
    cases v with
    | object ms =>
      rw [Keyword.failures] at h
      obtain h | h := List.mem_append.mp h
      · obtain ⟨m, hm, h⟩ := List.mem_flatMap.mp h
        obtain h | h := List.mem_append.mp h
        · obtain ⟨n, hn, h⟩ := passedOn_of_memberFailures hm h
          exact h.origin (.closedNamed hn)
        · obtain ⟨p, hp, h⟩ := passedOn_of_matchingFailures hm h
          exact h.origin (.closedMatching hp)
      · split at h
        case isTrue => cases h
        case isFalse => exact Fails.origin (.closed (unexpectedNames_subset _ _ _)) h
    | _ => cases h
  | additional named matching other =>
    cases v with
    | object ms =>
      rw [Keyword.failures] at h
      obtain ⟨m, hm, h⟩ := List.mem_flatMap.mp h
      rw [List.mem_append, List.mem_append] at h
      obtain (h | h) | h := h
      · obtain ⟨n, hn, h⟩ := passedOn_of_memberFailures hm h
        exact h.origin (.additionalNamed hn)
      · obtain ⟨p, hp, h⟩ := passedOn_of_matchingFailures hm h
        exact h.origin (.additionalMatching hp)
      · split at h
        case isTrue => cases h
        case isFalse => exact PassedOn.origin .other ⟨_, _, m.2, .member hm, h⟩
    | _ => cases h
  | propertyNames s =>
    cases v with
    | object ms =>
      rw [Keyword.failures] at h
      obtain ⟨m, hm, h⟩ := List.mem_flatMap.mp h
      obtain ⟨g, hg, rfl⟩ := List.mem_map.mp h
      exact .ofName .propertyNames hm hg rfl rfl
    | _ => cases h
  | itemsFrom keyword skip s =>
    cases v with
    | array vs =>
      rw [Keyword.failures] at h
      obtain ⟨p, hp, h⟩ := List.mem_flatMap.mp h
      have hget := getElem?_of_mem_indexed (List.mem_of_mem_drop hp)
      exact PassedOn.origin .itemsFrom ⟨_, _, p.2, .item hget, h⟩
    | _ => cases h
  | tuple keyword schemas =>
    cases v with
    | array vs =>
      obtain ⟨s, hs, h⟩ := passedOn_of_tupleFailures h
      exact h.origin (.tuple hs)
    | _ => cases h
  | contains rule s =>
    cases v with
    | array vs =>
      rw [Keyword.failures] at h
      split at h
      · cases h
      · exact Fails.origin .contains h
    | _ => cases h
  | allOf schemas =>
    obtain ⟨s, hs, h⟩ := passedOn_of_eachFailures h
    exact h.origin (.allOf hs)
  | anyOf schemas =>
    rw [Keyword.failures] at h
    split at h
    · exact Fails.origin .anyOf h
    · cases h
  | oneOf schemas =>
    rw [Keyword.failures] at h
    split at h
    · cases h
    · exact Fails.origin .oneOf h
  | not written s =>
    rw [Keyword.failures] at h
    split at h
    · exact Fails.origin .not h
    · cases h
  | conditional c t e =>
    rw [Keyword.failures] at h
    split at h
    · exact PassedOn.origin .consequence (.of_raise_nil h)
    · exact PassedOn.origin .alternative (.of_raise_nil h)
  | dependent keyword place trigger s =>
    cases v with
    | object ms =>
      rw [Keyword.failures] at h
      split at h
      · exact PassedOn.origin .dependent (.of_raise_nil h)
      · cases h
    | _ => cases h
  | nested keyword s => exact PassedOn.origin .nested (.of_raise_nil h)
  | reference keyword t =>
    obtain ⟨g, hg, rfl⟩ := List.mem_map.mp h
    exact .elsewhere hg
  | unevaluatedProperties seen s =>
    cases v with
    | object ms =>
      rw [Keyword.failures] at h
      split at h
      · cases h
      · exact Fails.origin (.unevaluatedProperties (List.filter_sublist.map _).subset) h
    | _ => cases h
  | unevaluatedItems seen s =>
    cases v with
    | array vs =>
      rw [Keyword.failures] at h
      split at h
      · cases h
      · exact Fails.origin .unevaluatedItems h
    | _ => cases h

/-! ## Failures of schemas -/

lemma exists_of_mem_allFailures {ks : List Keyword} (h : f ∈ allFailures l r ks v) :
    ∃ k ∈ ks, f ∈ k.failures l r v := by
  rw [allFailures_eq_flatMap] at h
  exact List.mem_flatMap.mp h

lemma sizeOf_snd_lt_of_mem {α : Type} [SizeOf α] {as : List (α × Form)} {a : α × Form}
    (h : a ∈ as) : sizeOf a.2 < sizeOf as := by
  have hpair : sizeOf a.2 < sizeOf a := by
    obtain ⟨x, s⟩ := a
    simp only [Prod.mk.sizeOf_spec]
    omega
  exact hpair.trans (List.sizeOf_lt_of_mem h)

/-- What a keyword applies is smaller. -/
lemma Keyword.Applies.sizeOf_lt {k : Keyword} {s : Form} (h : k.Applies s) :
    sizeOf s < sizeOf k := by
  cases h with
  | properties h | patternProperties h | closedNamed h | closedMatching h | additionalNamed h
  | additionalMatching h =>
    have hlt := sizeOf_snd_lt_of_mem h
    simp
    omega
  | tuple h | allOf h =>
    have hlt := List.sizeOf_lt_of_mem h
    simp
    omega
  | _ => simp +arith

/-- What holds of the failures of `false`, and of those of a keyword if it holds of those of the
schemas that it applies, holds of all failures. -/
theorem Form.failures_induction {P : Form → Value → Failure → Prop}
    (never : ∀ v, P .never v { place := [], keyword := [], cause := .never })
    (all : ∀ ks v f, ∀ k ∈ ks, k.Origin P r v f → P (.all ks) v f) :
    ∀ (s : Form) (v : Value), ∀ f ∈ s.failures l r v, P s v f
  | .always, v, f, hf => absurd hf List.not_mem_nil
  | .never, v, f, hf => by
    rw [List.eq_of_mem_singleton hf]
    exact never v
  | .all ks, v, f, hf => by
    obtain ⟨k, hk, hf⟩ := exists_of_mem_allFailures hf
    refine all ks v f k hk ((Keyword.origin hf).imp fun s w g hs hg => ?_)
    have hsize : sizeOf s < 1 + sizeOf ks :=
      Nat.lt_add_left 1 (hs.sizeOf_lt.trans (List.sizeOf_lt_of_mem hk))
    exact failures_induction never all s w g hg
  termination_by s => sizeOf s

end AgentManifest.Schema
