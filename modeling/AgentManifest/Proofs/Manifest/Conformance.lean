import AgentManifest.Proofs.Decimal.Value
import AgentManifest.Proofs.Manifest.Version
import AgentManifest.Proofs.Schema.Agreement
import AgentManifest.Proofs.Schema.Keyword

/-!
# What a manifest looks like

`IsManifest` says what a manifest is: an object whose members are sections of known names, each of
its own kind, or further sections, and which has the four sections that every manifest needs. It
mentions neither keywords nor references. The schema of manifests reports nothing exactly on these
documents (`evaluate_builtin_eq_nil_iff`).
-/

namespace AgentManifest.Manifest

open Decimal (Binary64)
open Json (Value Members Number)
open Schema

/-! ## Documents -/

/-- A string. -/
def IsText (v : Value) : Prop := ∃ s, v = .string s

/-- A string that is not empty. -/
def IsSomeText (v : Value) : Prop := ∃ s, v = .string s ∧ s ≠ ""

/-- A string whose length is between two limits. -/
def IsTextBetween (least most : Nat) (v : Value) : Prop :=
  ∃ s, v = .string s ∧ least ≤ s.length ∧ s.length ≤ most

/-- One of some strings. -/
def IsOneOf (options : List String) (v : Value) : Prop := ∃ s ∈ options, v = .string s

/-- A version as a string. -/
def IsVersionText (v : Value) : Prop := ∃ s, v = .string s ∧ IsVersion s.toList

/-- An array of values of one kind. -/
def IsListOf (P : Value → Prop) (v : Value) : Prop := ∃ vs, v = .array vs ∧ ∀ w ∈ vs, P w

/-- An object with properties of its members. -/
def IsObject (P : Members → Prop) (v : Value) : Prop := ∃ ms, v = .object ms ∧ P ms

/-- There is a member of some kind under a name. -/
def Has (ms : Members) (name : String) (P : Value → Prop) : Prop :=
  ∃ v, Members.get? ms name = some v ∧ P v

/-- If there is a member under a name it is of some kind. -/
def MayHave (ms : Members) (name : String) (P : Value → Prop) : Prop :=
  ∀ v, Members.get? ms name = some v → P v

/-- A number whose value is a whole number from one to five, however it is written. -/
def IsPriority (v : Value) : Prop :=
  ∃ n, v = .number n ∧ ∃ k : Int, 1 ≤ k ∧ k ≤ 5 ∧ n.value? = some (k : ℚ)

/-- At most twenty different strings that are not empty. -/
def IsKeywords (v : Value) : Prop :=
  ∃ vs, v = .array vs ∧ (∀ w ∈ vs, IsSomeText w) ∧ vs.length ≤ 20 ∧ vs.Nodup

/-- An example of use. -/
def IsUsage (v : Value) : Prop :=
  IsObject (fun ms =>
    Has ms "description" IsSomeText ∧ Has ms "code" IsSomeText ∧
      MayHave ms "language" IsText ∧ MayHave ms "output" IsText) v

/-- A common pattern. -/
def IsPattern (v : Value) : Prop :=
  IsObject (fun ms =>
    Has ms "name" IsSomeText ∧ Has ms "code" IsSomeText ∧
      MayHave ms "description" IsText ∧ MayHave ms "language" IsText) v

/-- An error and what to do about it. -/
def IsErrorEntry (v : Value) : Prop :=
  IsObject (fun ms =>
    Has ms "error" IsSomeText ∧ MayHave ms "cause" IsText ∧ MayHave ms "solution" IsText ∧
      MayHave ms "example" IsText) v

/-- What is said about the manifest itself. -/
def IsMetadata (v : Value) : Prop :=
  IsObject (fun ms =>
    MayHave ms "maintainers" (IsListOf IsText) ∧ MayHave ms "min_runtime_version" IsText ∧
      MayHave ms "stability" (IsOneOf ["experimental", "beta", "stable", "deprecated"]) ∧
      MayHave ms "priority" IsPriority) v

/-- What stands under a name of a manifest. Names that are not listed are those of further sections,
which may hold anything. -/
def IsSection (name : String) (v : Value) : Prop :=
  match name with
  | "name" => IsTextBetween 1 100 v
  | "version" => IsVersionText v
  | "description" => IsTextBetween 10 500 v
  | "language" => IsSomeText v
  | "category" =>
    IsOneOf ["library", "framework", "cli", "service", "api", "tool", "plugin", "other"] v
  | "repository" => IsSomeText v
  | "keywords" => IsKeywords v
  | "quick_usage" => IsListOf IsUsage v
  | "common_patterns" => IsListOf IsPattern v
  | "decision_tree" => IsObject (fun _ => True) v
  | "error_handling" => IsListOf IsErrorEntry v
  | "related" => IsListOf IsSomeText v
  | "metadata" => IsMetadata v
  | other => IsExtension other.toList

/-- A manifest: every member is a section, and the four that are needed are there. -/
def IsManifest (v : Value) : Prop :=
  IsObject (fun ms =>
    (∀ m ∈ ms, IsSection m.1 m.2) ∧
      ∀ name ∈ ["name", "version", "description", "quick_usage"], ∃ w, (name, w) ∈ ms) v

/-! ## Parts of the schema -/

section

variable (l : Links) (v : Value)

lemma holds_text : Builtin.text.holds l v = true ↔ IsText v := by
  refine (typed_iff l v (admits_string_iff v) _ []).trans ?_
  simp only [allHold_nil, and_true, IsText]

lemma holds_someText : Builtin.someText.holds l v = true ↔ IsSomeText v := by
  refine (typed_iff l v (admits_string_iff v) _ [Builtin.test "minLength" _]).trans ?_
  apply exists_congr
  intro s
  apply and_congr_right'
  have hcount : allHold l [Builtin.test "minLength" (.count .characters true 1)] (.string s) =
      (decide (1 ≤ s.toList.length) && true) := rfl
  rw [hcount, Bool.and_true, decide_eq_true_eq, Nat.one_le_iff_ne_zero, ne_eq,
    List.length_eq_zero_iff, String.toList_eq_nil_iff]

lemma holds_textBetween (least most : Nat) :
    (Builtin.textBetween least most).holds l v = true ↔ IsTextBetween least most v := by
  refine (typed_iff l v (admits_string_iff v) _
    [Builtin.test "maxLength" _, Builtin.test "minLength" _]).trans ?_
  apply exists_congr
  intro s
  apply and_congr_right'
  have hcounts : allHold l [Builtin.test "maxLength" (.count .characters false most),
      Builtin.test "minLength" (.count .characters true least)] (.string s) =
        (decide (s.toList.length ≤ most) && (decide (least ≤ s.toList.length) && true)) := rfl
  rw [hcounts, Bool.and_true, Bool.and_eq_true, decide_eq_true_eq, decide_eq_true_eq, and_comm,
    String.length_toList]

lemma holds_oneOf (options : List String) :
    (Builtin.oneOf options).holds l v = true ↔ IsOneOf options v := by
  refine (typed_iff l v (admits_string_iff v) _ [Builtin.test "enum" _]).trans ?_
  have henum (s : String) : allHold l [Builtin.test "enum" (.enum (options.map .string))]
      (.string s) = true ↔ s ∈ options := by
    simp [allHold_cons, allHold_nil, Builtin.test, Keyword.holds_test, Assertion.holds, Value.equal,
      Value.equalBy]
  constructor
  · rintro ⟨s, rfl, h⟩
    exact ⟨s, (henum s).mp h, rfl⟩
  · rintro ⟨s, hs, rfl⟩
    exact ⟨s, rfl, (henum s).mpr hs⟩

lemma holds_listOf {s : Form} {P : Value → Prop} (h : ∀ w, s.holds l w = true ↔ P w) :
    (Builtin.listOf s).holds l v = true ↔ IsListOf P v := by
  refine (typed_iff l v (admits_array_iff v) _ [.itemsFrom "items" 0 s]).trans ?_
  apply exists_congr
  intro vs
  apply and_congr_right'
  have hitems : allHold l [.itemsFrom "items" 0 s] (.array vs) = (vs.all (s.holds l) && true) := rfl
  rw [hitems, Bool.and_true, List.all_eq_true]
  exact forall₂_congr fun w _ => h w

lemma holds_versionText :
    (Form.all [Builtin.test "pattern"
      (.pattern Builtin.versionPattern (.simple Builtin.version)), Builtin.ofType .string]).holds
        l v = true ↔ IsVersionText v := by
  refine (typed_iff l v (admits_string_iff v) _ [Builtin.test "pattern" _]).trans ?_
  apply exists_congr
  intro s
  apply and_congr_right'
  have hpattern : allHold l [Builtin.test "pattern"
      (.pattern Builtin.versionPattern (.simple Builtin.version))] (.string s) =
        (Pattern.Matcher.occursIn (.simple Builtin.version) s && true) := rfl
  rw [hpattern, Bool.and_true, simple_occursIn, version_occursIn_iff]

lemma holds_anyObject :
    (Form.all [Builtin.ofType .object]).holds l v = true ↔ IsObject (fun _ => True) v := by
  refine (typed_iff l v (admits_object_iff v) _ []).trans ?_
  simp only [allHold_nil, and_true, IsObject]

lemma holds_members (members : List (String × Form)) :
    (Form.all [.properties members, Builtin.ofType .object]).holds l v = true ↔
      IsObject (fun ms => ∀ p ∈ members, MayHave ms p.1 fun w => p.2.holds l w = true) v := by
  refine (typed_iff l v (admits_object_iff v) _ [.properties members]).trans ?_
  apply exists_congr
  intro ms
  apply and_congr_right'
  have hmembers : allHold l [.properties members] (.object ms) =
      (namedHold l members ms && true) := rfl
  rw [hmembers, Bool.and_true]
  exact namedHold_iff l members ms

lemma holds_record (required : List String) (members : List (String × Form)) :
    (Builtin.record required members).holds l v = true ↔
      IsObject (fun ms => (∀ name ∈ required, ∃ w, Members.get? ms name = some w) ∧
        ∀ p ∈ members, MayHave ms p.1 fun w => p.2.holds l w = true) v := by
  refine (typed_iff l v (admits_object_iff v) _
    [.properties members, .required [.key "required"] required]).trans ?_
  apply exists_congr
  intro ms
  apply and_congr_right'
  have hrecord : allHold l [.properties members, .required [.key "required"] required]
      (.object ms) =
        (namedHold l members ms && (required.all (fun name => Members.contains ms name) && true)) :=
    rfl
  rw [hrecord, Bool.and_true, Bool.and_eq_true, namedHold_iff, and_comm, List.all_eq_true]
  simp only [Members.contains, Option.isSome_iff_exists, MayHave]

/-- A member that is required and has a schema. -/
lemma has_iff (ms : Members) (name : String) (P : Value → Prop) :
    Has ms name P ↔ (∃ v, Members.get? ms name = some v) ∧ MayHave ms name P := by
  rw [Has, MayHave]
  constructor
  · rintro ⟨w, found, h⟩
    refine ⟨⟨w, found⟩, fun w' found' => ?_⟩
    cases found.symm.trans found'
    exact h
  · rintro ⟨⟨w, found⟩, h⟩
    exact ⟨w, found, h w found⟩

/-- Objects with properties of their members that are the same. -/
lemma isObject_congr {P Q : Members → Prop} (h : ∀ ms, P ms ↔ Q ms) :
    IsObject P v ↔ IsObject Q v := by
  simp only [IsObject, h]

lemma holds_usage :
    (Builtin.record ["description", "code"]
      [("code", Builtin.someText), ("description", Builtin.someText), ("language", Builtin.text),
        ("output", Builtin.text)]).holds l v = true ↔ IsUsage v := by
  rw [holds_record, IsUsage]
  apply isObject_congr
  intro ms
  simp only [has_iff, List.forall_mem_cons, List.not_mem_nil, false_implies, implies_true,
    and_true, holds_text, holds_someText]
  tauto

lemma holds_pattern :
    (Builtin.record ["name", "code"]
      [("code", Builtin.someText), ("description", Builtin.text), ("language", Builtin.text),
        ("name", Builtin.someText)]).holds l v = true ↔ IsPattern v := by
  rw [holds_record, IsPattern]
  apply isObject_congr
  intro ms
  simp only [has_iff, List.forall_mem_cons, List.not_mem_nil, false_implies, implies_true,
    and_true, holds_text, holds_someText]
  tauto

lemma holds_errorEntry :
    (Builtin.record ["error"]
      [("cause", Builtin.text), ("error", Builtin.someText), ("example", Builtin.text),
        ("solution", Builtin.text)]).holds l v = true ↔ IsErrorEntry v := by
  rw [holds_record, IsErrorEntry]
  apply isObject_congr
  intro ms
  simp only [has_iff, List.forall_mem_cons, List.not_mem_nil, false_implies, implies_true,
    and_true, holds_text, holds_someText]
  tauto

lemma atMost_iff {n : Number} {x : ℚ} (h : n.value? = some x) (k : Int) :
    Comparison.atMost.admits (.int k) n = true ↔ x ≤ k := by
  simp only [Comparison.admits, Number.compare?_int h, bne_iff_ne, ne_eq, compare_gt_iff_gt,
    not_lt]

lemma atLeast_iff {n : Number} {x : ℚ} (h : n.value? = some x) (k : Int) :
    Comparison.atLeast.admits (.int k) n = true ↔ (k : ℚ) ≤ x := by
  simp only [Comparison.admits, Number.compare?_int h, bne_iff_ne, ne_eq, compare_lt_iff_lt,
    not_lt]

/-- A number is an integer by its value, however it is written. -/
lemma integer_iff (n : Number) :
    Kind.integer.admits false (.number n) = true ↔ ∃ k : Int, n.value? = some (k : ℚ) := by
  cases n with
  | int n => exact iff_of_true rfl ⟨n, rfl⟩
  | float x =>
    rw [Kind.admits, Bool.not_false, Bool.true_and]
    cases x with
    | finite s m q =>
      simp only [Number.value?, Binary64.value?, Option.some.injEq]
      exact Binary64.isIntegral_finite_iff s m q
    | infinite s => simp [Binary64.isIntegral, Number.value?, Binary64.value?]
    | nan => simp [Binary64.isIntegral, Number.value?, Binary64.value?]

lemma holds_priority :
    (Form.all [Builtin.test "maximum" (.bound .atMost (.int 5)),
      Builtin.test "minimum" (.bound .atLeast (.int 1)), Builtin.ofType .integer]).holds l v =
        true ↔ IsPriority v := by
  cases v with
  | number n =>
    simp only [Form.holds, allHold, Keyword.holds, Builtin.ofType, Builtin.test, Assertion.holds,
      List.any_cons, List.any_nil, Bool.or_false, Bool.and_true, Bool.and_eq_true, integer_iff,
      IsPriority, Value.number.injEq, exists_eq_left']
    constructor
    · rintro ⟨most, least, k, value⟩
      rw [atMost_iff value, Int.cast_le] at most
      rw [atLeast_iff value, Int.cast_le] at least
      exact ⟨k, least, most, value⟩
    · rintro ⟨k, least, most, value⟩
      rw [atMost_iff value, atLeast_iff value, Int.cast_le, Int.cast_le]
      exact ⟨most, least, k, value⟩
  | _ => simp [Builtin.ofType, Builtin.test, Form.holds, allHold, Keyword.holds, Assertion.holds,
      Kind.admits, IsPriority]

lemma holds_metadata : Builtin.metadata.holds l v = true ↔ IsMetadata v := by
  rw [Builtin.metadata, holds_members, IsMetadata]
  apply isObject_congr
  intro ms
  simp only [List.forall_mem_cons, List.not_mem_nil, false_implies, implies_true, and_true,
    holds_text, holds_listOf l _ (holds_text l), holds_oneOf, holds_priority, Builtin.stabilities]
  tauto

/-- Strings that are not empty are distinct as values if they are distinct as strings. -/
lemma pairwiseApart_iff (same : Number → Number → Bool) {vs : List Value}
    (texts : ∀ w ∈ vs, IsSomeText w) :
    Value.pairwiseApart (Value.equalBy same) vs = true ↔ vs.Nodup := by
  induction vs with
  | nil => simp [Value.pairwiseApart]
  | cons w vs ih =>
    obtain ⟨⟨s, rfl, -⟩, others⟩ := List.forall_mem_cons.mp texts
    rw [Value.pairwiseApart, Bool.and_eq_true, ih others, List.nodup_cons]
    apply and_congr_left'
    rw [Bool.not_eq_true', ← Bool.not_eq_true, List.any_eq_true, not_iff_not]
    constructor
    · rintro ⟨w, hw, equal⟩
      obtain ⟨t, rfl, -⟩ := others w hw
      rw [Value.equalBy, beq_iff_eq] at equal
      rwa [equal]
    · intro hw
      exact ⟨_, hw, by rw [Value.equalBy, beq_self_eq_true]⟩

lemma holds_keywords :
    (Form.all [.itemsFrom "items" 0 Builtin.someText,
      Builtin.test "maxItems" (.count .items false 20), Builtin.ofType .array,
      Builtin.test "uniqueItems" .uniqueItems]).holds l v = true ↔ IsKeywords v := by
  cases v with
  | array vs =>
    simp only [Builtin.ofType, Builtin.test, Form.holds, allHold, Keyword.holds, Assertion.holds,
      Kind.admits, Measure.size?, List.any_cons, List.any_nil, Bool.or_false, Bool.true_and,
      Bool.and_true, Bool.and_eq_true, List.drop_zero, List.all_eq_true, holds_someText,
      Bool.false_eq_true, if_false, decide_eq_true_eq, IsKeywords, Value.array.injEq,
      exists_eq_left']
    apply and_congr_right
    intro texts
    apply and_congr_right
    intro _
    rw [Value.allDistinct]
    split
    · exact pairwiseApart_iff Number.equal texts
    · exact pairwiseApart_iff Number.alike texts
  | _ => simp [Builtin.ofType, Builtin.test, Form.holds, allHold, Keyword.holds, Assertion.holds,
      Kind.admits, IsKeywords]

end

/-! ## References -/

/-- The places of different definitions differ. -/
lemma target_inj {a b : String} : Builtin.target a = Builtin.target b ↔ a = b := by
  simp [Builtin.target]

/-- A definition is found at its place. -/
lemma lookup_target (name : String) :
    builtin.table.forms.lookup (Builtin.target name) = Builtin.definitions.lookup name := by
  rw [builtin]
  induction Builtin.definitions with
  | nil => rfl
  | cons d ds ih =>
    obtain ⟨called, s⟩ := d
    by_cases e : name = called
    · simp [e]
    · rw [List.map_cons, List.lookup_cons, List.lookup_cons, ih, beq_false_of_ne e,
        beq_false_of_ne (target_inj.not.mpr e)]

/-- A reference to a definition says what the definition says. -/
lemma holds_reference (n : Nat) (v : Value) {name : String} {s : Form}
    (found : Builtin.definitions.lookup name = some s) :
    (Form.all [.reference "$ref" (Builtin.target name)]).holds (builtin.table.links (n + 1)) v =
      s.holds (builtin.table.links n) v := by
  simp only [Form.holds, allHold, Keyword.holds, Table.links, lookup_target, found, Bool.and_true]

/-! ## Sections -/

section

variable (n : Nat)

/-- The schema for a section says what stands under its name. -/
lemma section_holds_iff {name : String} {s : Form} (h : (name, s) ∈ Builtin.sections) (v : Value) :
    s.holds (builtin.table.links (n + 1)) v = true ↔ IsSection name v := by
  simp only [Builtin.sections, List.mem_cons, Prod.mk.injEq, List.not_mem_nil, or_false] at h
  -- one case for each section, in the order of the schema
  rcases h with ⟨rfl, rfl⟩ | ⟨rfl, rfl⟩ | ⟨rfl, rfl⟩ | ⟨rfl, rfl⟩ | ⟨rfl, rfl⟩ | ⟨rfl, rfl⟩ |
    ⟨rfl, rfl⟩ | ⟨rfl, rfl⟩ | ⟨rfl, rfl⟩ | ⟨rfl, rfl⟩ | ⟨rfl, rfl⟩ | ⟨rfl, rfl⟩ | ⟨rfl, rfl⟩
  · exact holds_oneOf _ v _
  · refine holds_listOf _ v fun w => ?_
    rw [holds_reference n w rfl, holds_pattern]
  · exact holds_anyObject _ v
  · exact holds_textBetween _ v 10 500
  · refine holds_listOf _ v fun w => ?_
    rw [holds_reference n w rfl, holds_errorEntry]
  · exact holds_keywords _ v
  · exact holds_someText _ v
  · exact holds_metadata _ v
  · exact holds_textBetween _ v 1 100
  · refine holds_listOf _ v fun w => ?_
    rw [holds_reference n w rfl, holds_usage]
  · exact holds_listOf _ v (holds_someText _)
  · exact holds_someText _ v
  · exact holds_versionText _ v

/-- A name without a schema is that of a further section, if of any. -/
lemma isSection_of_not_named {name : String} (h : isNamed Builtin.sections name = false)
    (v : Value) : IsSection name v ↔ IsExtension name.toList := by
  unfold IsSection
  split
  iterate 13 exact absurd h (by decide)
  exact Iff.rfl

/-- A member satisfies the schema exactly if it is a section. -/
lemma member_holds_iff (name : String) (v : Value) :
    (memberHolds (builtin.table.links (n + 1)) Builtin.sections name v = true ∧
      matchingHold (builtin.table.links (n + 1)) [(Builtin.extensionName, .all [])] name v = true) ∧
      (isNamed Builtin.sections name = true ∨
        isMatched [(Builtin.extensionName, .all [])] name = true) ↔ IsSection name v := by
  have anything : matchingHold (builtin.table.links (n + 1))
      [(Builtin.extensionName, .all [])] name v = true := by
    simp [matchingHold, Form.holds, allHold]
  have further : isMatched [(Builtin.extensionName, .all [])] name = true ↔
      IsExtension name.toList := by
    simp only [isMatched, Bool.or_false, extensionName_occursIn_iff]
  rw [and_iff_left anything, memberHolds_iff, further]
  cases named : isNamed Builtin.sections name with
  | true =>
    obtain ⟨s, hs⟩ := (isNamed_iff _ _).mp named
    rw [and_iff_left (.inl rfl)]
    constructor
    · intro h
      exact (section_holds_iff n hs v).mp (h s hs)
    · intro h t ht
      exact (section_holds_iff n ht v).mpr h
  | false =>
    rw [isSection_of_not_named named, or_iff_right Bool.false_ne_true, and_iff_right]
    intro s hs
    rw [(isNamed_iff _ _).mpr ⟨s, hs⟩] at named
    cases named

end

/-- At least one reference can be followed. -/
lemma exists_reach_eq (d : Value) : ∃ n, builtin.reach d = n + 1 := by
  apply Nat.exists_eq_succ_of_ne_zero
  rw [Compiled.reach]
  exact Nat.mul_ne_zero (Nat.succ_ne_zero _) (Nat.succ_ne_zero _)

/-- The schema of manifests holds of manifests alone. -/
lemma builtin_isValid_iff (d : Value) : builtin.isValid d = true ↔ IsManifest d := by
  obtain ⟨n, reach⟩ := exists_reach_eq d
  rw [Compiled.isValid, reach, IsManifest, IsObject]
  cases d with
  | object ms =>
    have members := closed_holds_iff (builtin.table.links (n + 1)) Builtin.sections
      [(Builtin.extensionName, .all [])] ms
    simp only [member_holds_iff] at members
    have needed : Keyword.holds (builtin.table.links (n + 1))
        (.required [.key "required"] Builtin.requiredSections) (.object ms) = true ↔
          ∀ name ∈ ["name", "version", "description", "quick_usage"], ∃ w, (name, w) ∈ ms := by
      simp only [Keyword.holds, List.all_eq_true, Members.contains_iff, Builtin.requiredSections]
    have object : Keyword.holds (builtin.table.links (n + 1)) (Builtin.ofType .object)
        (.object ms) = true := rfl
    simp only [builtin, Form.holds, allHold, Bool.and_eq_true, and_true, Value.object.injEq,
      exists_eq_left'] at members needed object ⊢
    rw [members, needed]
    exact and_congr_right fun _ => and_iff_left object
  | _ => simp [builtin, Builtin.ofType, Builtin.test, Form.holds, allHold, Keyword.holds,
      Assertion.holds, Kind.admits]

/-- The schema of manifests has nothing to report exactly on manifests. -/
theorem evaluate_builtin_eq_nil_iff (d : Value) : builtin.evaluate d = [] ↔ IsManifest d := by
  rw [Compiled.evaluate_eq_nil_iff, builtin_isValid_iff]

end AgentManifest.Manifest
