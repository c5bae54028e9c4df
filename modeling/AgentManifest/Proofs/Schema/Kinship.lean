import AgentManifest.Proofs.Schema.Reporting

/-!
# Schemas that say the same of every document

Two schemas are akin if all that they report under one path is worded the same, whatever the values
are; only the names of members that are missing or not expected come from the values. The keywords of
a schema stand under names of their own, so that a schema is akin to itself if each keyword is, and
then it says the same of every document.
-/

namespace AgentManifest.Schema

open Json (Value Members Segment Location)

/-! ## The first step of a path -/

/-- All that is reported stands under some names. -/
def Reporting.Headed (R : Reporting) (P : String → Prop) : Prop :=
  ∀ ⦃path c⦄, R path c → ∃ name rest, path = (Segment.key name).write :: rest ∧ P name

namespace Reporting

variable {R R' : Reporting} {P P' : String → Prop}

lemma Headed.imp (h : R.Headed P) (hP : ∀ name, P name → P' name) : R.Headed P' := by
  intro path c hc
  obtain ⟨name, rest, hpath, hname⟩ := h hc
  exact ⟨name, rest, hpath, hP name hname⟩

lemma headed_under (R : Reporting) (name : String) (start : Location) :
    (R.Under (.key name :: start)).Headed (· = name) := by
  rintro path c ⟨-⟩
  exact ⟨name, _, rfl, rfl⟩

/-- What stands under different names stands under different paths. -/
lemma Akin.of_headed (h : R.Headed P) (h' : R'.Headed P') (hapart : ∀ name, P name → ¬ P' name) :
    R.Akin R' := by
  intro path c c' hc hc'
  obtain ⟨name, rest, rfl, hname⟩ := h hc
  obtain ⟨name', rest', hpath, hname'⟩ := h' hc'
  cases write_key_inj.mp (List.cons.inj hpath).1
  exact absurd hname' (hapart name hname)

lemma Akin.of_ne {name name' : String} (h : R.Headed (· = name)) (h' : R'.Headed (· = name'))
    (hne : name ≠ name') : R.Akin R' :=
  .of_headed h h' fun _ heq heq' => hne (heq.symm.trans heq')

end Reporting

/-! ## Keywords that are akin -/

/-- What references report is akin. -/
def Complaints.Akin (r r' : Complaints) : Prop := ∀ t, (r.Reports t).Akin (r'.Reports t)

/-- What two keywords report is akin, if what references report is. -/
def Keyword.Akin (k k' : Keyword) : Prop :=
  ∀ ⦃r r' : Complaints⦄, r.Akin r' → (k.Reports r).Akin (k'.Reports r')

/-- What two schemas report is akin, if what references report is. -/
def Form.Akin (s s' : Form) : Prop :=
  ∀ ⦃r r' : Complaints⦄, r.Akin r' → (s.Reports r).Akin (s'.Reports r')

/-- What a schema reports of one value is akin to what it reports of another. -/
def Form.Coherent (s : Form) : Prop := s.Akin s

/-- Of some schemas by name those under one name are akin. -/
def NamedCoherent (named : List (String × Form)) : Prop :=
  ∀ n ∈ named, ∀ n' ∈ named, n.1 = n'.1 → n.2.Akin n'.2

/-- Of some schemas by pattern those under one pattern are akin. -/
def MatchingCoherent (matching : List (NamePattern × Form)) : Prop :=
  ∀ p ∈ matching, ∀ p' ∈ matching, p.1.text = p'.1.text → p.2.Akin p'.2

namespace Keyword

variable {named : List (String × Form)} {matching : List (NamePattern × Form)}
  {s t e other : Form} {schemas : List Form} {keyword : String}

lemma akin_test (place : Location) (a : Assertion) : Akin (.test place a) (.test place a) := by
  -- the value decides whether there is a wording, and not which
  have hcause {v w : Value} (hv : (a.cause v).topic?.isSome = true)
      (hw : (a.cause w).topic?.isSome = true) : a.cause v = a.cause w := by
    cases a with
    | pattern text matcher =>
      have hpattern {u : Value} (hu : ((Assertion.pattern text matcher).cause u).topic?.isSome = true) :
          (Assertion.pattern text matcher).cause u = .pattern text := by
        rw [Assertion.cause.eq_def] at hu ⊢
        cases u with
        | string text' =>
          dsimp only at hu ⊢
          split at hu
          case isTrue => cases hu
          case isFalse hsearch => rw [if_neg hsearch]
        | _ => rfl
      rw [hpattern hv, hpattern hw]
    | base64 ofJson =>
      rw [Assertion.cause.eq_def] at hv
      cases v with
      | string text =>
        dsimp only at hv
        split at hv
        · cases hv
        · split at hv
          · cases hv
          · cases hv
      | _ => cases hv
    | _ => rfl
  intro r r' hr path c c' h h'
  cases h with
  | test v _ hv =>
    cases h' with
    | test w _ hw =>
      rw [hcause hv hw]
      exact .refl _

lemma akin_required (place : Location) (names names' : List String) :
    Akin (.required place names) (.required place names') := by
  intro r r' hr path c c' h h'
  cases h with
  | required name =>
    cases h' with
    | required name' => exact .required name name'

lemma akin_properties (h : NamedCoherent named) : Akin (.properties named) (.properties named) := by
  intro r r' hr path c c' hc hc'
  cases hc with
  | @properties _ n _ _ hn hc =>
    cases hc' with
    | @properties _ n' _ _ hn' hc' =>
      refine Reporting.Akin.under (by rfl) (fun htokens => ?_) hc hc'
      have hname := (List.cons.inj (List.cons.inj htokens).2).1
      exact h n hn n' hn' (write_key_inj.mp hname) hr

lemma akin_patternProperties (h : MatchingCoherent matching) :
    Akin (.patternProperties matching) (.patternProperties matching) := by
  intro r r' hr path c c' hc hc'
  cases hc with
  | @patternProperties _ p _ _ hp hc =>
    cases hc' with
    | @patternProperties _ p' _ _ hp' hc' =>
      refine Reporting.Akin.under (by rfl) (fun htokens => ?_) hc hc'
      have hname := (List.cons.inj (List.cons.inj htokens).2).1
      exact h p hp p' hp' (write_key_inj.mp hname) hr

lemma headed_properties (r : Complaints) :
    (Reports r (.properties named)).Headed (· = "properties") := by
  intro path c h
  cases h with
  | properties _ h => exact Reporting.headed_under _ _ _ h

lemma headed_patternProperties (r : Complaints) :
    (Reports r (.patternProperties matching)).Headed (· = "patternProperties") := by
  intro path c h
  cases h with
  | patternProperties _ h => exact Reporting.headed_under _ _ _ h

/-- The keywords about members that have a name, match a pattern, or do neither. -/
def memberKeywords : List String := ["properties", "patternProperties", "additionalProperties"]

/-- A keyword reports as those for named and for matching members do, and otherwise under one name
of its own. -/
structure OnMembers (k : Keyword) (named : List (String × Form))
    (matching : List (NamePattern × Form)) (others : Complaints → Reporting) : Prop where
  split : ∀ ⦃r path c⦄, k.Reports r path c →
    Reports r (.properties named) path c ∨ Reports r (.patternProperties matching) path c ∨
      others r path c
  headed : ∀ r, (others r).Headed (· = "additionalProperties")
  akin : ∀ ⦃r r'⦄, Complaints.Akin r r' → (others r).Akin (others r')

namespace OnMembers

variable {k : Keyword} {others : Complaints → Reporting}

lemma headed_keyword (h : k.OnMembers named matching others) (r : Complaints) :
    (k.Reports r).Headed (· ∈ memberKeywords) := by
  intro path c hc
  obtain hc | hc | hc := h.split hc
  · exact (headed_properties r).imp (by rintro _ rfl; decide) hc
  · exact (headed_patternProperties r).imp (by rintro _ rfl; decide) hc
  · exact (h.headed r).imp (by rintro _ rfl; decide) hc

lemma akin_keyword (h : k.OnMembers named matching others) (hnamed : NamedCoherent named)
    (hmatching : MatchingCoherent matching) : Akin k k := by
  intro r r' hr path c c' hc hc'
  have hproperties (r : Complaints) : (Reports r (.properties named)).Headed (· = "properties") :=
    headed_properties r
  have hpatterns (r : Complaints) :
      (Reports r (.patternProperties matching)).Headed (· = "patternProperties") :=
    headed_patternProperties r
  obtain hc | hc | hc := h.split hc
  · obtain hc' | hc' | hc' := h.split hc'
    · exact akin_properties hnamed hr hc hc'
    · exact Reporting.Akin.of_ne (hproperties r) (hpatterns r') (by decide) hc hc'
    · exact Reporting.Akin.of_ne (hproperties r) (h.headed r') (by decide) hc hc'
  · obtain hc' | hc' | hc' := h.split hc'
    · exact Reporting.Akin.of_ne (hpatterns r) (hproperties r') (by decide) hc hc'
    · exact akin_patternProperties hmatching hr hc hc'
    · exact Reporting.Akin.of_ne (hpatterns r) (h.headed r') (by decide) hc hc'
  · obtain hc' | hc' | hc' := h.split hc'
    · exact Reporting.Akin.of_ne (h.headed r) (hproperties r') (by decide) hc hc'
    · exact Reporting.Akin.of_ne (h.headed r) (hpatterns r') (by decide) hc hc'
    · exact h.akin hr hc hc'

end OnMembers

/-- What is reported of members that are not expected. -/
inductive Unexpected : Reporting
  | intro (names : List String) :
      Unexpected (tokens [.key "additionalProperties"]) (.additionalProperties names)

lemma onMembers_closed (named : List (String × Form)) (matching : List (NamePattern × Form)) :
    OnMembers (.closed named matching) named matching fun _ => Unexpected where
  split := by
    intro r path c h
    cases h with
    | closed names hpath =>
      subst hpath
      exact .inr (.inr ⟨names⟩)
    | closedNamed h => exact .inl h
    | closedMatching h => exact .inr (.inl h)
  headed := by
    rintro r path c ⟨names⟩
    exact ⟨_, [], rfl, rfl⟩
  akin := by
    rintro r r' hr path c c' ⟨names⟩ hc'
    generalize tokens _ = path at hc'
    obtain ⟨names'⟩ := hc'
    exact .additionalProperties names names'

lemma onMembers_additional (named : List (String × Form)) (matching : List (NamePattern × Form))
    (h : other.Coherent) :
    OnMembers (.additional named matching other) named matching fun r =>
      (other.Reports r).Under [.key "additionalProperties"] where
  split := by
    intro r path c hc
    cases hc with
    | additional hc => exact .inr (.inr hc)
    | additionalNamed hc => exact .inl hc
    | additionalMatching hc => exact .inr (.inl hc)
  headed := fun r => Reporting.headed_under _ _ _
  akin := fun r r' hr => .under rfl fun _ => h hr

end Keyword

/-! ## Families of keywords -/

/-- Keywords that report under some names only, and of which any two are akin. -/
structure Family (P : String → Prop) (ks : List Keyword) : Prop where
  headed : ∀ k ∈ ks, ∀ r, (k.Reports r).Headed P
  akin : ∀ k ∈ ks, ∀ k' ∈ ks, k.Akin k'

namespace Family

variable {P P' : String → Prop} {ks : List Keyword} {keyword : String} {s t e : Form}
  {schemas : List Form} {named : List (String × Form)} {matching : List (NamePattern × Form)}

lemma imp (h : Family P ks) (hP : ∀ name, P name → P' name) : Family P' ks where
  headed k hk r := (h.headed k hk r).imp hP
  akin := h.akin

lemma nil : Family P [] where
  headed _ hk := absurd hk List.not_mem_nil
  akin _ hk := absurd hk List.not_mem_nil

lemma single {k : Keyword} (hhead : ∀ r, (k.Reports r).Headed P) (hakin : k.Akin k) :
    Family P [k] where
  headed := List.forall_mem_singleton.mpr hhead
  akin := List.forall_mem_singleton.mpr (List.forall_mem_singleton.mpr hakin)

/-- A keyword that reports what a schema further down reports. -/
lemma single_under {k : Keyword}
    (h : ∀ ⦃r path c⦄, k.Reports r path c → (s.Reports r).Under [.key keyword] path c)
    (hs : s.Coherent) : Family (· = keyword) [k] :=
  single (fun _ _ _ hc => Reporting.headed_under _ _ _ (h hc))
    fun _ _ hr _ _ _ hc hc' => Reporting.Akin.under (by rfl) (fun _ => hs hr) (h hc) (h hc')

/-- A keyword that reports in one way. -/
lemma single_at {k : Keyword}
    (h : ∀ ⦃r path c⦄, k.Reports r path c → path = tokens [.key keyword])
    (hakin : k.Akin k) : Family (· = keyword) [k] :=
  single (fun _ _ _ hc => ⟨keyword, [], h hc, rfl⟩) hakin

/-- A keyword of which nothing is reported that has a wording. -/
lemma single_silent {k : Keyword} (h : ∀ ⦃r path c⦄, ¬ k.Reports r path c) : Family P [k] :=
  single (fun _ _ _ hc => (h hc).elim) fun _ _ _ _ _ _ hc => (h hc).elim

lemma test (keyword : String) (a : Assertion) : Family (· = keyword) [.test [.key keyword] a] := by
  refine single_at (fun r path c h => ?_) (Keyword.akin_test _ a)
  cases h with
  | test v hpath => exact hpath

lemma required (keyword : String) (names : List String) :
    Family (· = keyword) [.required [.key keyword] names] := by
  refine single_at (fun r path c h => ?_) (Keyword.akin_required _ names names)
  cases h with
  | required name hpath => exact hpath

lemma properties (h : NamedCoherent named) : Family (· = "properties") [.properties named] :=
  single Keyword.headed_properties (Keyword.akin_properties h)

lemma patternProperties (h : MatchingCoherent matching) :
    Family (· = "patternProperties") [.patternProperties matching] :=
  single Keyword.headed_patternProperties (Keyword.akin_patternProperties h)

lemma closed (hnamed : NamedCoherent named) (hmatching : MatchingCoherent matching) :
    Family (· ∈ Keyword.memberKeywords) [.closed named matching] :=
  single (Keyword.onMembers_closed named matching).headed_keyword
    ((Keyword.onMembers_closed named matching).akin_keyword hnamed hmatching)

lemma additional (hnamed : NamedCoherent named) (hmatching : MatchingCoherent matching)
    (hs : s.Coherent) : Family (· ∈ Keyword.memberKeywords) [.additional named matching s] :=
  single (Keyword.onMembers_additional named matching hs).headed_keyword
    ((Keyword.onMembers_additional named matching hs).akin_keyword hnamed hmatching)

lemma propertyNames (s : Form) : Family P [.propertyNames s] := single_silent nofun

lemma itemsFrom (skip : Nat) (hs : s.Coherent) :
    Family (· = keyword) [.itemsFrom keyword skip s] := by
  refine single_under (fun r path c h => ?_) hs
  cases h with
  | itemsFrom h => exact h

lemma tuple (h : ∀ s ∈ schemas, s.Coherent) : Family (· = keyword) [.tuple keyword schemas] := by
  refine single (fun r path c hc => ?_) fun r r' hr path c c' hc hc' => ?_
  · cases hc with
    | tuple _ hc => exact Reporting.headed_under _ _ _ hc
  · cases hc with
    | @tuple _ _ n t _ _ ht hc =>
      cases hc' with
      | @tuple _ _ n' t' _ _ ht' hc' =>
        refine Reporting.Akin.under (by rfl) (fun htokens => ?_) hc hc'
        cases write_index_inj.mp (List.cons.inj (List.cons.inj htokens).2).1
        cases ht.symm.trans ht'
        exact h t (List.mem_of_getElem? ht) hr

lemma contains (rule : ContainsRule) (s : Form) :
    Family (· ∈ ["contains", "minContains", "maxContains"]) [.contains rule s] := by
  have hkeyword (n : Nat) : rule.keyword n ∈ ["contains", "minContains", "maxContains"] := by
    rw [ContainsRule.keyword]
    split
    · decide
    · decide
    · decide
    · split <;> decide
  refine single (fun r path c hc => ?_) fun r r' hr path c c' hc hc' => ?_
  · cases hc with
    | contains n hpath => exact ⟨_, [], hpath, hkeyword n⟩
  · cases hc with
    | contains n =>
      cases hc' with
      | contains n' => exact .refl _

lemma allOf (h : ∀ s ∈ schemas, s.Coherent) : Family (· = "allOf") [.allOf schemas] := by
  refine single (fun r path c hc => ?_) fun r r' hr path c c' hc hc' => ?_
  · cases hc with
    | allOf _ hc => exact Reporting.headed_under _ _ _ hc
  · cases hc with
    | @allOf _ n t _ _ ht hc =>
      cases hc' with
      | @allOf _ n' t' _ _ ht' hc' =>
        refine Reporting.Akin.under (by rfl) (fun htokens => ?_) hc hc'
        cases write_index_inj.mp (List.cons.inj (List.cons.inj htokens).2).1
        cases ht.symm.trans ht'
        exact h t (List.mem_of_getElem? ht) hr

lemma anyOf (schemas : List Form) : Family (· = "anyOf") [.anyOf schemas] := by
  refine single_at (fun r path c h => ?_) fun r r' hr path c c' hc hc' => ?_
  · cases h with
    | anyOf hpath => exact hpath
  · cases hc
    cases hc'
    exact .refl _

lemma oneOf (schemas : List Form) : Family (· = "oneOf") [.oneOf schemas] := by
  refine single_at (fun r path c h => ?_) fun r r' hr path c c' hc hc' => ?_
  · cases h with
    | oneOf several hpath => exact hpath
  · cases hc
    cases hc'
    exact .worded rfl rfl

lemma not (written : Value) (s : Form) : Family (· = "not") [.not written s] := by
  refine single_at (fun r path c h => ?_) fun r r' hr path c c' hc hc' => ?_
  · cases h with
    | not hpath => exact hpath
  · cases hc
    cases hc'
    exact .refl _

lemma conditional (s : Form) (ht : t.Coherent) (he : e.Coherent) :
    Family (· ∈ ["then", "else"]) [.conditional s t e] := by
  refine single (fun r path c hc => ?_) fun r r' hr path c c' hc hc' => ?_
  · cases hc with
    | consequence hc => exact (Reporting.headed_under _ _ _).imp (by rintro _ rfl; decide) hc
    | alternative hc => exact (Reporting.headed_under _ _ _).imp (by rintro _ rfl; decide) hc
  · have happart : "then" ≠ "else" := by decide
    cases hc with
    | consequence hc =>
      cases hc' with
      | consequence hc' => exact Reporting.Akin.under (by rfl) (fun _ => ht hr) hc hc'
      | alternative hc' =>
        exact Reporting.Akin.of_ne (Reporting.headed_under _ _ _) (Reporting.headed_under _ _ _)
          happart hc hc'
    | alternative hc =>
      cases hc' with
      | consequence hc' =>
        exact Reporting.Akin.of_ne (Reporting.headed_under _ _ _) (Reporting.headed_under _ _ _)
          happart.symm hc hc'
      | alternative hc' => exact Reporting.Akin.under (by rfl) (fun _ => he hr) hc hc'

/-- What a member calls for in one of two ways: names, or a schema. -/
inductive IsDependent (keyword : String) : String → Keyword → Prop
  | names (trigger : String) (names : List String) : IsDependent keyword trigger
      (.dependent keyword [.key keyword] trigger (.all [.required [] names]))
  | schema (trigger : String) {s : Form} (hs : s.Coherent) : IsDependent keyword trigger
      (.dependent keyword [.key keyword, .key trigger] trigger s)

namespace IsDependent

variable {trigger trigger' : String} {k k' : Keyword}

lemma headed (h : IsDependent keyword trigger k) (r : Complaints) :
    (k.Reports r).Headed (· = keyword) := by
  intro path c hc
  cases h with
  | names =>
    cases hc with
    | dependent hc => exact Reporting.headed_under _ _ _ hc
  | schema =>
    cases hc with
    | dependent hc => exact Reporting.headed_under _ _ _ hc

/-- Names that are called for are reported where the keyword stands. -/
lemma reports_names {names : List String} {r : Complaints} {path : Tokens} {c : Cause}
    (h : (Form.all [.required [] names]).Reports r path c) : path = [] ∧ ∃ name, c = .required name := by
  obtain ⟨k, hk, h⟩ := Form.reports_all h
  cases List.eq_of_mem_singleton hk
  cases h with
  | required name hpath => exact ⟨hpath, name, rfl⟩

/-- What two members call for is reported further down, or as missing names. -/
lemma akin (h : IsDependent keyword trigger k) (h' : IsDependent keyword trigger' k')
    (hsame : trigger = trigger' → k = k') : k.Akin k' := by
  intro r r' hr path c c' hc hc'
  cases h with
  | names names =>
    cases hc with
    | dependent hc =>
      obtain ⟨hc⟩ := hc
      obtain ⟨rfl, name, rfl⟩ := reports_names hc
      cases h' with
      | names names' =>
        cases hc' with
        | dependent hc' =>
          generalize hpath : tokens _ ++ _ = path at hc'
          obtain ⟨hc'⟩ := hc'
          obtain ⟨-, name', rfl⟩ := reports_names hc'
          exact .required name name'
      | schema hs =>
        cases hc' with
        | dependent hc' =>
          generalize hpath : tokens _ ++ _ = path at hc'
          obtain ⟨hc'⟩ := hc'
          cases (List.cons.inj hpath).2
  | schema hs =>
    cases h' with
    | names names' =>
      cases hc' with
      | dependent hc' =>
        obtain ⟨hc'⟩ := hc'
        obtain ⟨rfl, name', rfl⟩ := reports_names hc'
        cases hc with
        | dependent hc =>
          generalize hpath : tokens _ ++ _ = path at hc
          obtain ⟨hc⟩ := hc
          cases (List.cons.inj hpath).2
    | schema hs' =>
      cases hc with
      | dependent hc =>
        cases hc' with
        | dependent hc' =>
          refine Reporting.Akin.under (by rfl) (fun htokens => ?_) hc hc'
          have htrigger := write_key_inj.mp (List.cons.inj (List.cons.inj htokens).2).1
          cases hsame htrigger
          exact hs hr

end IsDependent

lemma dependents {triggers : List String} (htriggers : triggers.Nodup)
    (h : List.Forall₂ (IsDependent keyword) triggers ks) : Family (· = keyword) ks := by
  obtain ⟨hlength, hget⟩ := List.forall₂_iff_get.mp h
  constructor
  · intro k hk
    obtain ⟨i, hi, rfl⟩ := List.mem_iff_getElem.mp hk
    exact (hget i (hlength ▸ hi) hi).headed
  · intro k hk k' hk'
    obtain ⟨i, hi, rfl⟩ := List.mem_iff_getElem.mp hk
    obtain ⟨j, hj, rfl⟩ := List.mem_iff_getElem.mp hk'
    refine (hget i (hlength ▸ hi) hi).akin (hget j (hlength ▸ hj) hj) fun htrigger => ?_
    have hij : i = j := (List.Nodup.getElem_inj_iff htriggers).mp htrigger
    subst hij
    rfl

lemma nested (hs : s.Coherent) : Family (· = keyword) [.nested keyword s] := by
  refine single_under (fun r path c h => ?_) hs
  cases h with
  | nested h => exact h

lemma reference (keyword : String) (t : Target) : Family (· = keyword) [.reference keyword t] := by
  refine single (fun r path c hc => ?_) fun r r' hr path c c' hc hc' => ?_
  · cases hc with
    | reference hc => exact Reporting.headed_under _ _ _ hc
  · cases hc with
    | reference hc =>
      cases hc' with
      | reference hc' => exact Reporting.Akin.under (by rfl) (fun _ => hr t) hc hc'

lemma unevaluatedProperties (seen : Coverage) (s : Form) :
    Family P [.unevaluatedProperties seen s] := single_silent nofun

lemma unevaluatedItems (seen : Coverage) (s : Form) :
    Family P [.unevaluatedItems seen s] := single_silent nofun

end Family

lemma Form.coherent_always : Form.always.Coherent := by
  intro r r' hr path c c' hc
  obtain ⟨l, v, hc⟩ := hc
  exact absurd hc Reported.nil

lemma Form.coherent_never : Form.never.Coherent := by
  intro r r' hr path c c' hc hc'
  obtain ⟨l, v, hc⟩ := hc
  obtain ⟨l', v', hc'⟩ := hc'
  obtain ⟨-, rfl, -⟩ := hc.of_failAt
  obtain ⟨-, rfl, -⟩ := hc'.of_failAt
  exact .refl _

/-- Keywords that come from members with different names, and report under names of which each
belongs to one of the members, are akin. -/
lemma Form.coherent_all {α : Type} {as : List α} {key : α → String} (owner : String → String)
    (hkeys : (as.map key).Nodup) {kss : List (List Keyword)}
    (h : List.Forall₂ (fun a ks => Family (fun name => owner name = key a) ks) as kss) :
    (Form.all kss.flatten).Coherent := by
  intro r r' hr path c c' hc hc'
  obtain ⟨k, hk, hc⟩ := Form.reports_all hc
  obtain ⟨k', hk', hc'⟩ := Form.reports_all hc'
  obtain ⟨ks, hks, hk⟩ := List.mem_flatten.mp hk
  obtain ⟨ks', hks', hk'⟩ := List.mem_flatten.mp hk'
  obtain ⟨i, hi, rfl⟩ := List.mem_iff_getElem.mp hks
  obtain ⟨j, hj, rfl⟩ := List.mem_iff_getElem.mp hks'
  obtain ⟨hlength, hfamily⟩ := List.forall₂_iff_get.mp h
  have hfamilyi := hfamily i (hlength ▸ hi) hi
  have hfamilyj := hfamily j (hlength ▸ hj) hj
  obtain ⟨name, rest, hpath, hname⟩ := hfamilyi.headed k hk r hc
  obtain ⟨name', rest', hpath', hname'⟩ := hfamilyj.headed k' hk' r' hc'
  cases write_key_inj.mp (List.cons.inj (hpath.symm.trans hpath')).1
  -- one name belongs to one member
  have hij : i = j := by
    have hias : i < (as.map key).length := by rwa [List.length_map, hlength]
    have hjas : j < (as.map key).length := by rwa [List.length_map, hlength]
    have hkey : (as.map key)[i] = (as.map key)[j] := by
      rw [List.getElem_map, List.getElem_map]
      exact hname.symm.trans hname'
    exact (List.Nodup.getElem_inj_iff hkeys).mp hkey
  subst hij
  exact hfamilyi.akin k hk k' hk' hr hc hc'

end AgentManifest.Schema
