import Mathlib.Logic.Basic
import Mathlib.Tactic.Lemma
import AgentManifest.Schema.Compiled

/-!
# The two readings of a schema agree

A value satisfies a schema exactly if no failure is collected for it. The induction follows the
schema: each keyword collects a failure, its own or one raised from below, exactly if it does not
hold. References add nothing as long as they are followed equally often in both readings
(`Table.complaints_agree`).
-/

namespace AgentManifest.Schema

open Json (Value Members)

/-- What references fail with agrees with what they lead to. -/
def Agree (l : Links) (r : Complaints) : Prop := ∀ t v, r t v = [] ↔ l.holds t v = true

/-! ## Collected failures -/

@[simp] lemma raise_eq_nil_iff {place keyword : Json.Location} {fs : List Failure} :
    raise place keyword fs = [] ↔ fs = [] := List.map_eq_nil_iff

@[simp] lemma failAt_ne_nil {keyword : Json.Location} {cause : Cause} :
    failAt keyword cause ≠ [] := List.cons_ne_nil _ _

/-- A failure that is reported unless a list is empty. -/
lemma failUnlessEmpty_eq_nil_iff {α : Type} {as : List α} {keyword : Json.Location}
    {cause : Cause} : (if as.isEmpty then [] else failAt keyword cause) = [] ↔ as = [] := by
  simp

/-- What fails for some items fails for none exactly if nothing fails for any. -/
lemma flatMap_eq_nil_iff_all {α : Type} {fails : α → List Failure} {ok : α → Bool} {as : List α}
    (h : ∀ a ∈ as, fails a = [] ↔ ok a = true) : as.flatMap fails = [] ↔ as.all ok = true := by
  rw [List.flatMap_eq_nil_iff, List.all_eq_true]
  exact forall₂_congr h

/-- The items behind the first ones, with their indices or without. -/
lemma forall_mem_drop_indexed {P : Value → Prop} (skip : Nat) (vs : List Value) :
    (∀ p ∈ (indexed vs).drop skip, P p.2) ↔ ∀ v ∈ vs.drop skip, P v := by
  have items : (indexed vs).map Prod.snd = vs := by
    rw [indexed, List.mapIdx_eq_zipIdx_map, List.map_map]
    exact List.zipIdx_map_fst 0 vs
  have drop : vs.drop skip = ((indexed vs).drop skip).map Prod.snd := by
    rw [List.map_drop, items]
  rw [drop, List.forall_mem_map]

/-- A keyword about the rest has nothing to report if every name is known. -/
lemma unexpectedNames_eq_nil_iff (named : List (String × Form))
    (matching : List (NamePattern × Form)) (ms : Members) :
    unexpectedNames named matching ms = [] ↔
      ∀ m ∈ ms, (isNamed named m.1 || isMatched matching m.1) = true := by
  rw [unexpectedNames, List.filter_eq_nil_iff]
  simp only [List.forall_mem_map, ← Bool.not_or, Bool.not_eq_true', Bool.not_eq_false]

/-- Nothing is left over if everything is looked at or satisfies the schema for the rest. -/
lemma leftOver_eq_nil_iff {α : Type} {as : List α} {seen ok : α → Bool} :
    (as.filter fun a => !seen a && !ok a) = [] ↔ (as.all fun a => seen a || ok a) = true := by
  simp only [List.filter_eq_nil_iff, List.all_eq_true, ← Bool.not_or, Bool.not_eq_true',
    Bool.not_eq_false]

/-- All of some schemas are counted exactly if none of them is missed. -/
lemma countHolding_le (l : Links) (schemas : List Form) (v : Value) :
    countHolding l schemas v ≤ schemas.length := by
  induction schemas with
  | nil => exact Nat.le_refl 0
  | cons s schemas ih =>
    rw [countHolding, List.length_cons]
    split <;> omega

mutual

/-- No failure is collected for a schema exactly if the value satisfies it. -/
theorem Form.failures_eq_nil_iff {l : Links} {r : Complaints} (h : Agree l r) :
    ∀ (s : Form) (v : Value), s.failures l r v = [] ↔ s.holds l v = true
  | .always, v => by simp [Form.failures, Form.holds]
  | .never, v => by simp [Form.failures, Form.holds]
  | .all ks, v => by rw [Form.failures, Form.holds, allFailures_eq_nil_iff h ks v]

theorem allFailures_eq_nil_iff {l : Links} {r : Complaints} (h : Agree l r) :
    ∀ (ks : List Keyword) (v : Value), allFailures l r ks v = [] ↔ allHold l ks v = true
  | [], v => by simp [allFailures, allHold]
  | k :: ks, v => by
    rw [allFailures, allHold, List.append_eq_nil_iff, Bool.and_eq_true,
      Keyword.failures_eq_nil_iff h k v, allFailures_eq_nil_iff h ks v]

theorem Keyword.failures_eq_nil_iff {l : Links} {r : Complaints} (h : Agree l r) :
    ∀ (k : Keyword) (v : Value), k.failures l r v = [] ↔ k.holds l v = true
  | .test place a, v => by
    rw [Keyword.failures, Keyword.holds]
    split <;> simp_all
  | .required place names, v => by
    cases v with
    | object ms =>
      rw [Keyword.failures, Keyword.holds, List.flatMap_eq_nil_iff]
      simp
    | _ => simp [Keyword.failures, Keyword.holds]
  | .properties named, v => by
    cases v with
    | object ms =>
      rw [Keyword.failures, Keyword.holds, namedFailures_eq_nil_iff h named ms]
    | _ => simp [Keyword.failures, Keyword.holds]
  | .patternProperties matching, v => by
    cases v with
    | object ms =>
      rw [Keyword.failures, Keyword.holds, patternFailures_eq_nil_iff h matching ms]
    | _ => simp [Keyword.failures, Keyword.holds]
  | .closed named matching, v => by
    cases v with
    | object ms =>
      rw [Keyword.failures, Keyword.holds]
      simp only [List.append_eq_nil_iff, List.flatMap_eq_nil_iff,
        memberFailures_eq_nil_iff h named, matchingFailures_eq_nil_iff h matching,
        failUnlessEmpty_eq_nil_iff, unexpectedNames_eq_nil_iff, List.all_eq_true, Bool.and_eq_true,
        ← forall₂_and]
    | _ => simp [Keyword.failures, Keyword.holds]
  | .additional named matching other, v => by
    cases v with
    | object ms =>
      rw [Keyword.failures, Keyword.holds]
      apply flatMap_eq_nil_iff_all
      intro m _
      rw [List.append_eq_nil_iff, List.append_eq_nil_iff, memberFailures_eq_nil_iff h named,
        matchingFailures_eq_nil_iff h matching, Bool.and_eq_true, Bool.and_eq_true]
      -- a name that is listed is no concern of the other schema
      apply and_congr_right'
      split
      · simp_all
      · simp_all [Form.failures_eq_nil_iff h other]
    | _ => simp [Keyword.failures, Keyword.holds]
  | .propertyNames s, v => by
    cases v with
    | object ms =>
      rw [Keyword.failures, Keyword.holds]
      apply flatMap_eq_nil_iff_all
      intro m _
      rw [List.map_eq_nil_iff, Form.failures_eq_nil_iff h s]
    | _ => simp [Keyword.failures, Keyword.holds]
  | .itemsFrom keyword skip s, v => by
    cases v with
    | array vs =>
      rw [Keyword.failures, Keyword.holds, List.flatMap_eq_nil_iff, List.all_eq_true]
      simp only [raise_eq_nil_iff, Form.failures_eq_nil_iff h s]
      exact forall_mem_drop_indexed (P := fun w => s.holds l w = true) skip vs
    | _ => simp [Keyword.failures, Keyword.holds]
  | .tuple keyword schemas, v => by
    cases v with
    | array vs =>
      rw [Keyword.failures, Keyword.holds, tupleFailures_eq_nil_iff h keyword schemas 0 vs]
    | _ => simp [Keyword.failures, Keyword.holds]
  | .contains rule s, v => by
    cases v with
    | array vs =>
      rw [Keyword.failures, Keyword.holds]
      simp
    | _ => simp [Keyword.failures, Keyword.holds]
  | .allOf schemas, v => by
    rw [Keyword.failures, Keyword.holds, eachFailures_eq_nil_iff h schemas 0 v, beq_iff_eq]
  | .anyOf schemas, v => by
    rw [Keyword.failures, Keyword.holds]
    simp
  | .oneOf schemas, v => by
    rw [Keyword.failures, Keyword.holds]
    simp
  | .not written s, v => by
    rw [Keyword.failures, Keyword.holds]
    simp
  | .conditional c t e, v => by
    rw [Keyword.failures, Keyword.holds]
    split
    · rw [raise_eq_nil_iff, Form.failures_eq_nil_iff h t v]
    · rw [raise_eq_nil_iff, Form.failures_eq_nil_iff h e v]
  | .dependent keyword place trigger s, v => by
    cases v with
    | object ms =>
      rw [Keyword.failures, Keyword.holds]
      cases Members.contains ms trigger <;> simp [Form.failures_eq_nil_iff h s]
    | _ => simp [Keyword.failures, Keyword.holds]
  | .nested keyword s, v => by
    rw [Keyword.failures, Keyword.holds, raise_eq_nil_iff, Form.failures_eq_nil_iff h s v]
  | .reference keyword t, v => by
    rw [Keyword.failures, Keyword.holds, raise_eq_nil_iff, h t v]
  | .unevaluatedProperties seen s, v => by
    cases v with
    | object ms =>
      rw [Keyword.failures, Keyword.holds, failUnlessEmpty_eq_nil_iff]
      exact leftOver_eq_nil_iff
    | _ => simp [Keyword.failures, Keyword.holds]
  | .unevaluatedItems seen s, v => by
    cases v with
    | array vs =>
      rw [Keyword.failures, Keyword.holds, failUnlessEmpty_eq_nil_iff]
      exact leftOver_eq_nil_iff
    | _ => simp [Keyword.failures, Keyword.holds]

theorem namedFailures_eq_nil_iff {l : Links} {r : Complaints} (h : Agree l r) :
    ∀ (named : List (String × Form)) (ms : Members),
      namedFailures l r named ms = [] ↔ namedHold l named ms = true
  | [], ms => by simp [namedFailures, namedHold]
  | (name, s) :: named, ms => by
    rw [namedFailures, namedHold, List.append_eq_nil_iff, Bool.and_eq_true,
      namedFailures_eq_nil_iff h named ms]
    cases Members.get? ms name with
    | none => simp
    | some v => simp [Form.failures_eq_nil_iff h s v]

theorem memberFailures_eq_nil_iff {l : Links} {r : Complaints} (h : Agree l r) :
    ∀ (named : List (String × Form)) (key : String) (v : Value),
      memberFailures l r named key v = [] ↔ memberHolds l named key v = true
  | [], key, v => by simp [memberFailures, memberHolds]
  | (name, s) :: named, key, v => by
    rw [memberFailures, memberHolds, List.append_eq_nil_iff, Bool.and_eq_true,
      memberFailures_eq_nil_iff h named key v]
    by_cases e : name = key
    · simp [e, Form.failures_eq_nil_iff h s v]
    · simp [e]

theorem patternFailures_eq_nil_iff {l : Links} {r : Complaints} (h : Agree l r) :
    ∀ (matching : List (NamePattern × Form)) (ms : Members),
      patternFailures l r matching ms = [] ↔
        (ms.all fun m => matchingHold l matching m.1 m.2) = true
  | [], ms => by simp [patternFailures, matchingHold]
  | (p, s) :: matching, ms => by
    rw [patternFailures, List.append_eq_nil_iff, patternFailures_eq_nil_iff h matching ms]
    simp only [List.flatMap_eq_nil_iff, List.mem_filter, and_imp, raise_eq_nil_iff,
      Form.failures_eq_nil_iff h s, List.all_eq_true, matchingHold, Bool.and_eq_true,
      forall₂_and]
    apply and_congr_left'
    apply forall₂_congr
    intro m _
    cases p.matcher.occursIn m.1 <;> simp

theorem matchingFailures_eq_nil_iff {l : Links} {r : Complaints} (h : Agree l r) :
    ∀ (matching : List (NamePattern × Form)) (key : String) (v : Value),
      matchingFailures l r matching key v = [] ↔ matchingHold l matching key v = true
  | [], key, v => by simp [matchingFailures, matchingHold]
  | (p, s) :: matching, key, v => by
    rw [matchingFailures, matchingHold, List.append_eq_nil_iff, Bool.and_eq_true,
      matchingFailures_eq_nil_iff h matching key v]
    cases p.matcher.occursIn key <;> simp [Form.failures_eq_nil_iff h s v]

theorem tupleFailures_eq_nil_iff {l : Links} {r : Complaints} (h : Agree l r) (keyword : String) :
    ∀ (schemas : List Form) (i : Nat) (vs : List Value),
      tupleFailures l r keyword i schemas vs = [] ↔ tupleHolds l schemas vs = true
  | [], i, vs => by simp [tupleFailures, tupleHolds]
  | s :: schemas, i, [] => by simp [tupleFailures, tupleHolds]
  | s :: schemas, i, v :: vs => by
    rw [tupleFailures, tupleHolds, List.append_eq_nil_iff, Bool.and_eq_true, raise_eq_nil_iff,
      Form.failures_eq_nil_iff h s v, tupleFailures_eq_nil_iff h keyword schemas (i + 1) vs]

theorem eachFailures_eq_nil_iff {l : Links} {r : Complaints} (h : Agree l r) :
    ∀ (schemas : List Form) (i : Nat) (v : Value),
      eachFailures l r i schemas v = [] ↔ countHolding l schemas v = schemas.length
  | [], i, v => by simp [eachFailures, countHolding]
  | s :: schemas, i, v => by
    rw [eachFailures, countHolding, List.append_eq_nil_iff, raise_eq_nil_iff,
      Form.failures_eq_nil_iff h s v, eachFailures_eq_nil_iff h schemas (i + 1) v,
      List.length_cons]
    -- a schema that fails is missed by the count, which cannot make up for it
    have bound := countHolding_le l schemas v
    split <;> simp_all <;> omega

end

/-! ## Compiled schemas -/

/-- References that are followed equally often agree. -/
lemma Table.complaints_agree (table : Table) (n : Nat) :
    Agree (table.links n) (table.complaints n) := by
  induction n with
  | zero =>
    intro t v
    simp [Table.links, Table.complaints]
  | succ n ih =>
    intro t v
    simp only [Table.links, Table.complaints]
    cases table.forms.lookup t with
    | none => exact iff_of_true rfl rfl
    | some s => exact Form.failures_eq_nil_iff ih s v

/-- A value has no violations exactly if it is valid. -/
theorem Compiled.evaluate_eq_nil_iff (s : Compiled) (v : Value) :
    s.evaluate v = [] ↔ s.isValid v = true := by
  rw [Compiled.evaluate, List.map_eq_nil_iff, Compiled.failures, Compiled.isValid]
  exact Form.failures_eq_nil_iff (s.table.complaints_agree _) s.root v

end AgentManifest.Schema
