import AgentManifest.Proofs.Schema.Places
import AgentManifest.Proofs.Schema.Wording

/-!
# What keywords report

A failure that has a wording is reported under the path of its keyword in the schema. For each
keyword it is said once under which paths it reports and for which causes, whatever the value is.
-/

namespace AgentManifest.Schema

open Json (Value Members Segment Location)

/-! ## Paths -/

/-- The tokens of a path. -/
abbrev Tokens := List (List Char)

/-- The tokens of the path to a place. -/
def tokens (l : Location) : Tokens := l.map Segment.write

lemma tokens_append (l l' : Location) : tokens (l ++ l') = tokens l ++ tokens l' :=
  List.map_append

lemma tokens_eq_of_pointer {l l' : Location} (h : Location.pointer l = Location.pointer l') :
    tokens l = tokens l' := by
  have hwrite : Location.write l = Location.write l' := String.ofList_injective h
  have htokens := congrArg Json.Pointer.tokens? hwrite
  rw [Json.Pointer.tokens?_write, Json.Pointer.tokens?_write] at htokens
  exact Option.some.inj htokens

lemma write_key_inj {name name' : String} :
    (Segment.key name).write = (Segment.key name').write ↔ name = name' := by
  refine ⟨fun h => ?_, fun h => by rw [h]⟩
  have hname := congrArg Json.Pointer.name? h
  rw [Segment.write, Segment.write, Json.Pointer.name?_escape, Json.Pointer.name?_escape] at hname
  exact String.toList_inj.mp (Option.some.inj hname)

lemma write_index_inj {n n' : Nat} :
    (Segment.index n).write = (Segment.index n').write ↔ n = n' := by
  refine ⟨fun h => ?_, fun h => by rw [h]⟩
  have hindex := congrArg Json.Pointer.index? h
  rw [Segment.write, Segment.write, Json.Pointer.index?_natText,
    Json.Pointer.index?_natText] at hindex
  exact Option.some.inj hindex

/-! ## Causes that are akin -/

/-- Two causes are of one kind and worded the same, except for the names that come from the
value. -/
inductive Cause.Kin : Cause → Cause → Prop
  | required (name name' : String) : Kin (.required name) (.required name')
  | additionalProperties (names names' : List String) :
      Kin (.additionalProperties names) (.additionalProperties names')
  | worded {c c' : Cause} (htopic : c.topic? = c'.topic?)
      (hdescription : c.description? = c'.description?) : Kin c c'

lemma Cause.Kin.refl (c : Cause) : c.Kin c := .worded rfl rfl

/-- What is reported under each path. -/
abbrev Reporting := Tokens → Cause → Prop

/-- All that is reported under one path is akin. -/
def Reporting.Akin (R R' : Reporting) : Prop := ∀ ⦃path c c'⦄, R path c → R' path c' → c.Kin c'

/-- What is reported further down, as it is reported from further up. -/
inductive Reporting.Under (start : Location) (R : Reporting) : Reporting
  | intro {path : Tokens} {c : Cause} (h : R path c) : Under start R (tokens start ++ path) c

/-- Two steps of one length lead to paths that differ, or to what is akin below. -/
lemma Reporting.Akin.under {R R' : Reporting} {start start' : Location}
    (hlength : start.length = start'.length) (h : tokens start = tokens start' → R.Akin R') :
    (R.Under start).Akin (R'.Under start') := by
  rintro path c c' ⟨hc⟩ hc'
  generalize hpath : tokens start ++ _ = path at hc'
  obtain ⟨hc'⟩ := hc'
  have hlengths : (tokens start).length = (tokens start').length := by
    rw [tokens, tokens, List.length_map, List.length_map, hlength]
  obtain ⟨hstart, rfl⟩ := List.append_inj hpath hlengths
  exact h hstart hc hc'

/-! ## What is reported -/

/-- A failure with a wording is among some, under a path and for a cause. -/
def Reported (fs : List Failure) : Reporting := fun path c =>
  ∃ f ∈ fs, tokens f.keyword = path ∧ f.cause = c ∧ c.topic?.isSome = true

/-- What a schema reports of any value, given what references fail with. -/
def Form.Reports (r : Complaints) (s : Form) : Reporting := fun path c =>
  ∃ l v, Reported (s.failures l r v) path c

/-- What a reference reports of any value. -/
def Complaints.Reports (r : Complaints) (t : Target) : Reporting := fun path c =>
  ∃ v, Reported (r t v) path c

/-- What a keyword reports of any value, given what references fail with. -/
inductive Keyword.Reports (r : Complaints) : Keyword → Reporting
  | test {place : Location} {a : Assertion} {path : Tokens} (v : Value) (hpath : path = tokens place)
      (h : (a.cause v).topic?.isSome = true) : Reports r (.test place a) path (a.cause v)
  | required {place : Location} {names : List String} {path : Tokens} (name : String)
      (hpath : path = tokens place) : Reports r (.required place names) path (.required name)
  | properties {named : List (String × Form)} {n : String × Form} {path : Tokens} {c : Cause}
      (hn : n ∈ named) (h : (n.2.Reports r).Under [.key "properties", .key n.1] path c) :
      Reports r (.properties named) path c
  | patternProperties {matching : List (NamePattern × Form)} {p : NamePattern × Form}
      {path : Tokens} {c : Cause} (hp : p ∈ matching)
      (h : (p.2.Reports r).Under [.key "patternProperties", .key p.1.text] path c) :
      Reports r (.patternProperties matching) path c
  | closed {named : List (String × Form)} {matching : List (NamePattern × Form)} {path : Tokens}
      (names : List String) (hpath : path = tokens [.key "additionalProperties"]) :
      Reports r (.closed named matching) path (.additionalProperties names)
  | closedNamed {named : List (String × Form)} {matching : List (NamePattern × Form)}
      {path : Tokens} {c : Cause} (h : Reports r (.properties named) path c) :
      Reports r (.closed named matching) path c
  | closedMatching {named : List (String × Form)} {matching : List (NamePattern × Form)}
      {path : Tokens} {c : Cause} (h : Reports r (.patternProperties matching) path c) :
      Reports r (.closed named matching) path c
  | additional {named : List (String × Form)} {matching : List (NamePattern × Form)} {other : Form}
      {path : Tokens} {c : Cause}
      (h : (other.Reports r).Under [.key "additionalProperties"] path c) :
      Reports r (.additional named matching other) path c
  | additionalNamed {named : List (String × Form)} {matching : List (NamePattern × Form)}
      {other : Form} {path : Tokens} {c : Cause} (h : Reports r (.properties named) path c) :
      Reports r (.additional named matching other) path c
  | additionalMatching {named : List (String × Form)} {matching : List (NamePattern × Form)}
      {other : Form} {path : Tokens} {c : Cause}
      (h : Reports r (.patternProperties matching) path c) :
      Reports r (.additional named matching other) path c
  | itemsFrom {keyword : String} {skip : Nat} {s : Form} {path : Tokens} {c : Cause}
      (h : (s.Reports r).Under [.key keyword] path c) :
      Reports r (.itemsFrom keyword skip s) path c
  | tuple {keyword : String} {schemas : List Form} {n : Nat} {s : Form} {path : Tokens} {c : Cause}
      (hs : schemas[n]? = some s) (h : (s.Reports r).Under [.key keyword, .index n] path c) :
      Reports r (.tuple keyword schemas) path c
  | contains {rule : ContainsRule} {s : Form} {path : Tokens} (n : Nat)
      (hpath : path = tokens [.key (rule.keyword n)]) :
      Reports r (.contains rule s) path .contains
  | allOf {schemas : List Form} {n : Nat} {s : Form} {path : Tokens} {c : Cause}
      (hs : schemas[n]? = some s) (h : (s.Reports r).Under [.key "allOf", .index n] path c) :
      Reports r (.allOf schemas) path c
  | anyOf {schemas : List Form} {path : Tokens} (hpath : path = tokens [.key "anyOf"]) :
      Reports r (.anyOf schemas) path .anyOf
  | oneOf {schemas : List Form} {path : Tokens} (several : Bool)
      (hpath : path = tokens [.key "oneOf"]) : Reports r (.oneOf schemas) path (.oneOf several)
  | not {written : Value} {s : Form} {path : Tokens} (hpath : path = tokens [.key "not"]) :
      Reports r (.not written s) path (.not written)
  | consequence {s t e : Form} {path : Tokens} {c : Cause}
      (h : (t.Reports r).Under [.key "then"] path c) : Reports r (.conditional s t e) path c
  | alternative {s t e : Form} {path : Tokens} {c : Cause}
      (h : (e.Reports r).Under [.key "else"] path c) : Reports r (.conditional s t e) path c
  | dependent {keyword trigger : String} {place : Location} {s : Form} {path : Tokens} {c : Cause}
      (h : (s.Reports r).Under place path c) :
      Reports r (.dependent keyword place trigger s) path c
  | nested {keyword : String} {s : Form} {path : Tokens} {c : Cause}
      (h : (s.Reports r).Under [.key keyword] path c) : Reports r (.nested keyword s) path c
  | reference {keyword : String} {t : Target} {path : Tokens} {c : Cause}
      (h : (r.Reports t).Under [.key keyword] path c) : Reports r (.reference keyword t) path c

namespace Reported

variable {fs fs' : List Failure} {path : Tokens} {c : Cause}

lemma of_append (h : Reported (fs ++ fs') path c) : Reported fs path c ∨ Reported fs' path c := by
  obtain ⟨f, hf, h⟩ := h
  exact (List.mem_append.mp hf).imp (fun hf => ⟨f, hf, h⟩) fun hf => ⟨f, hf, h⟩

lemma of_flatMap {α : Type} {as : List α} {fails : α → List Failure}
    (h : Reported (as.flatMap fails) path c) : ∃ a ∈ as, Reported (fails a) path c := by
  obtain ⟨f, hf, h⟩ := h
  obtain ⟨a, ha, hf⟩ := List.mem_flatMap.mp hf
  exact ⟨a, ha, f, hf, h⟩

lemma of_failAt {place : Location} {cause : Cause} (h : Reported (failAt place cause) path c) :
    path = tokens place ∧ c = cause ∧ cause.topic?.isSome = true := by
  obtain ⟨f, hf, rfl, rfl, h⟩ := h
  cases List.eq_of_mem_singleton hf
  exact ⟨rfl, rfl, h⟩

lemma nil : ¬ Reported [] path c := by
  rintro ⟨f, hf, -⟩
  exact absurd hf List.not_mem_nil

/-- A cause with a wording is reported with its place. -/
lemma hidesKeyword_of_topic? (h : c.topic?.isSome = true) : c.hidesKeyword = false := by
  cases c with
  | notUtf8 offset length => cases h
  | propertyName name inner => cases h
  | _ => rfl

lemma of_raise {place start : Location} (h : Reported (raise place start fs) path c) :
    Reporting.Under start (Reported fs) path c := by
  obtain ⟨f, hf, rfl, rfl, h⟩ := h
  obtain ⟨g, hg, rfl⟩ := List.mem_map.mp hf
  have hkeyword : (Failure.under place start g).keyword = start ++ g.keyword := by
    have hshown : g.cause.hidesKeyword = false := hidesKeyword_of_topic? h
    rw [Failure.under]
    dsimp only
    rw [hshown, if_neg Bool.false_ne_true]
  rw [hkeyword, tokens_append]
  exact ⟨g, hg, rfl, rfl, h⟩

/-- What is reported of a value further down comes from the schema for it. -/
lemma of_raise_form {place start : Location} {l : Links} {r : Complaints} {s : Form} {v : Value}
    (h : Reported (raise place start (s.failures l r v)) path c) :
    (s.Reports r).Under start path c := by
  obtain ⟨h⟩ := of_raise h
  exact ⟨l, v, h⟩

lemma of_failure {f : Failure} (h : Reported [f] path c) :
    tokens f.keyword = path ∧ f.cause = c ∧ c.topic?.isSome = true := by
  obtain ⟨g, hg, h⟩ := h
  cases List.eq_of_mem_singleton hg
  exact h

end Reported

section

variable {l : Links} {r : Complaints} {path : Tokens} {c : Cause}

lemma namedFailures_reported {named : List (String × Form)} {ms : Members}
    (h : Reported (namedFailures l r named ms) path c) :
    Keyword.Reports r (.properties named) path c := by
  rw [namedFailures_eq_flatMap] at h
  obtain ⟨n, hn, h⟩ := h.of_flatMap
  cases hget : Members.get? ms n.1 with
  | none =>
    rw [hget] at h
    exact absurd h Reported.nil
  | some v =>
    rw [hget] at h
    exact .properties hn h.of_raise_form

lemma memberFailures_reported {named : List (String × Form)} {key : String} {v : Value}
    (h : Reported (memberFailures l r named key v) path c) :
    Keyword.Reports r (.properties named) path c := by
  rw [memberFailures_eq_flatMap] at h
  obtain ⟨n, hn, h⟩ := h.of_flatMap
  split at h
  case isTrue hkey =>
    subst hkey
    exact .properties hn h.of_raise_form
  case isFalse => exact absurd h Reported.nil

lemma patternFailures_reported {matching : List (NamePattern × Form)} {ms : Members}
    (h : Reported (patternFailures l r matching ms) path c) :
    Keyword.Reports r (.patternProperties matching) path c := by
  rw [patternFailures_eq_flatMap] at h
  obtain ⟨p, hp, h⟩ := h.of_flatMap
  obtain ⟨m, -, h⟩ := h.of_flatMap
  exact .patternProperties hp h.of_raise_form

lemma matchingFailures_reported {matching : List (NamePattern × Form)} {key : String} {v : Value}
    (h : Reported (matchingFailures l r matching key v) path c) :
    Keyword.Reports r (.patternProperties matching) path c := by
  rw [matchingFailures_eq_flatMap] at h
  obtain ⟨p, hp, h⟩ := h.of_flatMap
  split at h
  case isTrue => exact .patternProperties hp h.of_raise_form
  case isFalse => exact absurd h Reported.nil

lemma tupleFailures_reported {keyword : String} {schemas : List Form} {vs : List Value}
    (h : Reported (tupleFailures l r keyword 0 schemas vs) path c) :
    Keyword.Reports r (.tuple keyword schemas) path c := by
  rw [tupleFailures_eq_flatMap] at h
  obtain ⟨p, hp, h⟩ := h.of_flatMap
  have hs := (List.getElem?_zip_eq_some.mp (List.mem_zipIdx_iff_getElem?.mp hp)).1
  exact .tuple hs h.of_raise_form

lemma eachFailures_reported {schemas : List Form} {v : Value}
    (h : Reported (eachFailures l r 0 schemas v) path c) :
    Keyword.Reports r (.allOf schemas) path c := by
  rw [eachFailures_eq_flatMap] at h
  obtain ⟨p, hp, h⟩ := h.of_flatMap
  exact .allOf (List.mem_zipIdx_iff_getElem?.mp hp) h.of_raise_form

lemma allFailures_reported {ks : List Keyword} {v : Value}
    (h : Reported (allFailures l r ks v) path c) :
    ∃ k ∈ ks, Reported (k.failures l r v) path c := by
  rw [allFailures_eq_flatMap] at h
  exact h.of_flatMap

/-- A condition is reported under its own place, if it has a wording. -/
lemma failureAt_reported {place : Location} {a : Assertion} {v : Value}
    (h : Reported [a.failureAt place v] path c) :
    path = tokens place ∧ c = a.cause v ∧ (a.cause v).topic?.isSome = true := by
  obtain ⟨rfl, rfl, h⟩ := h.of_failure
  rw [Assertion.failureAt_cause] at h ⊢
  refine ⟨?_, rfl, h⟩
  rw [Assertion.failureAt]
  split
  case h_1 hcause =>
    rw [hcause] at h
    cases h
  case h_2 hcause =>
    rw [hcause] at h
    cases h
  case h_3 => rfl

/-- What is reported of a value is what its keyword reports. -/
lemma Keyword.reports {k : Keyword} {v : Value} (h : Reported (k.failures l r v) path c) :
    k.Reports r path c := by
  cases k with
  | test place a =>
    rw [Keyword.failures] at h
    split at h
    case isTrue => exact absurd h Reported.nil
    case isFalse =>
      obtain ⟨rfl, rfl, hworded⟩ := failureAt_reported h
      exact .test v rfl hworded
  | required place names =>
    cases v with
    | object ms =>
      rw [Keyword.failures] at h
      obtain ⟨name, -, h⟩ := h.of_flatMap
      obtain ⟨rfl, rfl, -⟩ := h.of_failAt
      exact .required name rfl
    | _ => exact absurd h Reported.nil
  | properties named =>
    cases v with
    | object ms => exact namedFailures_reported h
    | _ => exact absurd h Reported.nil
  | patternProperties matching =>
    cases v with
    | object ms => exact patternFailures_reported h
    | _ => exact absurd h Reported.nil
  | closed named matching =>
    cases v with
    | object ms =>
      rw [Keyword.failures] at h
      obtain h | h := h.of_append
      · obtain ⟨m, -, h⟩ := h.of_flatMap
        obtain h | h := h.of_append
        · exact .closedNamed (memberFailures_reported h)
        · exact .closedMatching (matchingFailures_reported h)
      · split at h
        case isTrue => exact absurd h Reported.nil
        case isFalse =>
          obtain ⟨rfl, rfl, -⟩ := h.of_failAt
          exact .closed _ rfl
    | _ => exact absurd h Reported.nil
  | additional named matching other =>
    cases v with
    | object ms =>
      rw [Keyword.failures] at h
      obtain ⟨m, -, h⟩ := h.of_flatMap
      obtain h | h := h.of_append
      · obtain h | h := h.of_append
        · exact .additionalNamed (memberFailures_reported h)
        · exact .additionalMatching (matchingFailures_reported h)
      · split at h
        case isTrue => exact absurd h Reported.nil
        case isFalse => exact .additional h.of_raise_form
    | _ => exact absurd h Reported.nil
  | propertyNames s =>
    cases v with
    | object ms =>
      -- what is wrong with a name has no wording of its own
      rw [Keyword.failures] at h
      obtain ⟨m, -, f, hf, -, rfl, hworded⟩ := h.of_flatMap
      obtain ⟨g, -, rfl⟩ := List.mem_map.mp hf
      cases hworded
    | _ => exact absurd h Reported.nil
  | itemsFrom keyword skip s =>
    cases v with
    | array vs =>
      rw [Keyword.failures] at h
      obtain ⟨p, -, h⟩ := h.of_flatMap
      exact .itemsFrom h.of_raise_form
    | _ => exact absurd h Reported.nil
  | tuple keyword schemas =>
    cases v with
    | array vs => exact tupleFailures_reported h
    | _ => exact absurd h Reported.nil
  | contains rule s =>
    cases v with
    | array vs =>
      rw [Keyword.failures] at h
      split at h
      case isTrue => exact absurd h Reported.nil
      case isFalse =>
        obtain ⟨rfl, rfl, -⟩ := h.of_failAt
        exact .contains _ rfl
    | _ => exact absurd h Reported.nil
  | allOf schemas => exact eachFailures_reported h
  | anyOf schemas =>
    rw [Keyword.failures] at h
    split at h
    case isTrue =>
      obtain ⟨rfl, rfl, -⟩ := h.of_failAt
      exact .anyOf rfl
    case isFalse => exact absurd h Reported.nil
  | oneOf schemas =>
    rw [Keyword.failures] at h
    split at h
    case isTrue => exact absurd h Reported.nil
    case isFalse =>
      obtain ⟨rfl, rfl, -⟩ := h.of_failAt
      exact .oneOf _ rfl
  | not written s =>
    rw [Keyword.failures] at h
    split at h
    case isTrue =>
      obtain ⟨rfl, rfl, -⟩ := h.of_failAt
      exact .not rfl
    case isFalse => exact absurd h Reported.nil
  | conditional s t e =>
    rw [Keyword.failures] at h
    split at h
    case isTrue => exact .consequence h.of_raise_form
    case isFalse => exact .alternative h.of_raise_form
  | dependent keyword place trigger s =>
    cases v with
    | object ms =>
      rw [Keyword.failures] at h
      split at h
      case isTrue => exact .dependent h.of_raise_form
      case isFalse => exact absurd h Reported.nil
    | _ => exact absurd h Reported.nil
  | nested keyword s => exact .nested h.of_raise_form
  | reference keyword t =>
    rw [Keyword.failures] at h
    obtain ⟨h⟩ := h.of_raise
    exact .reference ⟨v, h⟩
  | unevaluatedProperties seen s =>
    cases v with
    | object ms =>
      rw [Keyword.failures] at h
      split at h
      case isTrue => exact absurd h Reported.nil
      case isFalse =>
        obtain ⟨-, -, hworded⟩ := h.of_failAt
        cases hworded
    | _ => exact absurd h Reported.nil
  | unevaluatedItems seen s =>
    cases v with
    | array vs =>
      rw [Keyword.failures] at h
      split at h
      case isTrue => exact absurd h Reported.nil
      case isFalse =>
        obtain ⟨-, -, hworded⟩ := h.of_failAt
        cases hworded
    | _ => exact absurd h Reported.nil

lemma Form.reports_all {ks : List Keyword} (h : (Form.all ks).Reports r path c) :
    ∃ k ∈ ks, k.Reports r path c := by
  obtain ⟨l, v, h⟩ := h
  obtain ⟨k, hk, h⟩ := allFailures_reported h
  exact ⟨k, hk, Keyword.reports h⟩

end

end AgentManifest.Schema
