import Mathlib.Logic.ExistsUnique
import AgentManifest.Proofs.Schema.Isolation
import AgentManifest.Proofs.Schema.SelfReference

/-!
# Combinations of schemas

A combination counts which of the schemas in it hold of a value, and never collects what they fail
with. Since both readings of a schema agree, what a combination reports is decided by what the
schemas in it report by themselves.
-/

namespace AgentManifest.Schema

open Json (Value Members)
open Compiling (Settles)

/-! ## Counting -/

lemma countHolding_eq_countP (l : Links) (schemas : List Form) (v : Value) :
    countHolding l schemas v = schemas.countP fun s => s.holds l v := by
  induction schemas with
  | nil => rfl
  | cons s schemas ih => rw [countHolding, ih, List.countP_cons, Nat.add_comm]

/-- One element of a list is counted exactly if there is one place where it stands. -/
lemma countP_eq_one_iff {α : Type} {p : α → Bool} (as : List α) :
    as.countP p = 1 ↔ ∃! i : Nat, ∃ a, as[i]? = some a ∧ p a = true := by
  induction as with
  | nil => simp [ExistsUnique]
  | cons a as ih =>
    rw [List.countP_cons]
    cases hp : p a with
    | true =>
      -- the first place is taken, so that no other may be
      rw [if_pos rfl, Nat.add_eq_right, List.countP_eq_zero]
      constructor
      · intro hnone
        refine ⟨0, ⟨a, rfl, hp⟩, ?_⟩
        rintro (_ | i) ⟨b, hb, hpb⟩
        · rfl
        · exact absurd hpb (hnone b (List.mem_of_getElem? hb))
      · rintro ⟨i, -, hunique⟩ b hb hpb
        obtain ⟨j, hj⟩ := List.mem_iff_getElem?.mp hb
        have hfirst := hunique 0 ⟨a, rfl, hp⟩
        have hother := hunique (j + 1) ⟨b, hj, hpb⟩
        omega
    | false =>
      rw [if_neg Bool.false_ne_true, Nat.add_zero, ih]
      constructor
      · rintro ⟨i, hi, hunique⟩
        refine ⟨i + 1, hi, ?_⟩
        rintro (_ | j) ⟨b, hb, hpb⟩
        · cases hb
          rw [hp] at hpb
          cases hpb
        · exact congrArg (· + 1) (hunique j ⟨b, hb, hpb⟩)
      · rintro ⟨i, ⟨b, hb, hpb⟩, hunique⟩
        cases i with
        | zero =>
          cases hb
          rw [hp] at hpb
          cases hpb
        | succ i => exact ⟨i, ⟨b, hb, hpb⟩, fun j hj => Nat.succ.inj (hunique (j + 1) hj)⟩

/-! ## Schemas without references -/

/-- Without anything to refer to, nothing is reported exactly if the form holds. -/
lemma Compiled.evaluate_eq_nil_iff_holds {s : Compiled} (h : s.table = {}) (v : Value) :
    s.evaluate v = [] ↔ s.root.holds (Table.links {} 0) v = true := by
  rw [Compiled.evaluate, List.map_eq_nil_iff, Compiled.failures_eq h, Form.ownFailures]
  exact Form.failures_eq_nil_iff (Table.complaints_agree {} 0) s.root v

/-- A schema that reads as one keyword reports nothing exactly if the keyword holds. -/
lemma evaluate_of_keyword {ms : Members} {t : Compiled} {k : Keyword} (hdraft : NamesDraft7 ms)
    (ht : compile (.object ms) [] = .ok t)
    (hform : ∀ (r : Reader) (c : Context), c.draft = .draft7 →
      ((Part.of r (.object ms)).form c).Settles (.all [k])) (v : Value) :
    t.evaluate v = [] ↔ k.holds (Table.links {} 0) v = true := by
  obtain ⟨hroot, htable⟩ := compile_of_form hdraft ht hform
  rw [Compiled.evaluate_eq_nil_iff_holds htable, hroot, Form.holds, allHold, allHold, Bool.and_true]

/-- A schema in draft 7 without references, and what it is compiled to. -/
structure Independent where
  members : Members
  compiled : Compiled
  referenceFree : ReferenceFree (.object members)
  compiles : compile (.object members) [] = .ok compiled

namespace Independent

/-- The schema as it is written. -/
def written (S : Independent) : Value := .object S.members

/-- The schema of values that satisfy at least one of several schemas. -/
def anyOf (branches : List Independent) : Value :=
  .object [("anyOf", .array (branches.map written))]

/-- The schema of values that satisfy exactly one of several schemas. -/
def oneOf (branches : List Independent) : Value :=
  .object [("oneOf", .array (branches.map written))]

/-- The schema of values that do not satisfy a schema. -/
def not (S : Independent) : Value := .object [("not", S.written)]

/-- The schema of values that satisfy one schema or another, which a condition decides. -/
def conditional (condition consequence alternative : Independent) : Value :=
  .object [("else", alternative.written), ("if", condition.written), ("then", consequence.written)]

/-- The schema of lists of which some item satisfies a schema. -/
def contains (S : Independent) : Value := .object [("contains", S.written)]

/-- What a schema that was compiled says by itself. -/
def holds (S : Independent) (v : Value) : Bool := S.compiled.root.holds (Table.links {} 0) v

lemma reads (S : Independent) : Reads S.written S.compiled.root :=
  (S.referenceFree.reads S.compiles).1

lemma evaluate_eq_nil_iff (S : Independent) (v : Value) :
    S.compiled.evaluate v = [] ↔ S.holds v = true :=
  Compiled.evaluate_eq_nil_iff_holds (S.referenceFree.reads S.compiles).2 v

lemma namesDraft7_single {keyword : String} (hkeyword : keyword ∉ linkingKeywords) (v : Value) :
    NamesDraft7 [(keyword, v)] := by
  refine namesDraft7_of_keys ?_
  rwa [List.forall_mem_singleton]

/-! ## Reading combinations -/

section

variable {r : Reader} {c : Context} (hc : c.draft = .draft7)
include hc

lemma form_anyOf (branches : List Independent) :
    ((Part.of r (anyOf branches)).form c).Settles
      (.all [.anyOf (branches.map fun S => S.compiled.root)]) := by
  refine form_single hc (by decide) (w := .anyOf) rfl ?_
  have hmany : (piecesOf r [("anyOf", .array (branches.map written))]).many? "anyOf" =
      some (itemParts r (branches.map written)) := rfl
  rw [Word.read]
  exact readMany_settles hc (fun S _ => reads S) hmany _ _

lemma form_oneOf (branches : List Independent) :
    ((Part.of r (oneOf branches)).form c).Settles
      (.all [.oneOf (branches.map fun S => S.compiled.root)]) := by
  refine form_single hc (by decide) (w := .oneOf) rfl ?_
  have hmany : (piecesOf r [("oneOf", .array (branches.map written))]).many? "oneOf" =
      some (itemParts r (branches.map written)) := rfl
  rw [Word.read]
  exact readMany_settles hc (fun S _ => reads S) hmany _ _

lemma form_not (S : Independent) :
    ((Part.of r S.not).form c).Settles (.all [.not S.written S.compiled.root]) := by
  refine form_single hc (by decide) (w := .not) rfl ?_
  have hone : (piecesOf r [("not", S.written)]).one? "not" = some (Part.of r S.written) := rfl
  rw [Word.read]
  exact readOne_settles hc S.reads hone _

lemma form_contains (S : Independent) :
    ((Part.of r S.contains).form c).Settles
      (.all [.contains { least := none, most := none } S.compiled.root]) := by
  refine form_single hc (by decide) (w := .contains) rfl ?_
  have hone : (piecesOf r [("contains", S.written)]).one? "contains" =
      some (Part.of r S.written) := rfl
  have hnew : Draft.since .draft7 .draft2019 = false := rfl
  rw [Word.read, readContains, hc, hnew]
  exact readOne_settles hc S.reads hone _

/-- A condition is read with what it leads to, which says nothing elsewhere. -/
lemma form_conditional (condition consequence alternative : Independent) :
    ((Part.of r (conditional condition consequence alternative)).form c).Settles
      (.all [.conditional condition.compiled.root consequence.compiled.root
        alternative.compiled.root]) := by
  let ms : Members := [("else", alternative.written), ("if", condition.written),
    ("then", consequence.written)]
  let k : Keyword := .conditional condition.compiled.root consequence.compiled.root
    alternative.compiled.root
  have href : ∀ m ∈ ms, m.1 ≠ "$ref" := by
    simp [ms]
  have hif : (piecesOf r ms).one? "if" = some (Part.of r condition.written) := rfl
  have hthen : (piecesOf r ms).one? "then" = some (Part.of r consequence.written) := rfl
  have helse : (piecesOf r ms).one? "else" = some (Part.of r alternative.written) := rfl
  have hread : (readConditional c (piecesOf r ms) "if").Settles [k] := by
    rw [readConditional, hif, hthen, helse]
    exact (condition.reads r (c.down _) hc).bind ((consequence.reads r (c.down _) hc).bind
      ((alternative.reads r (c.down _) hc).bind (Settles.pure _)))
  let keywords (m : String × Value) : List Keyword := if m.1 = "if" then [k] else []
  have hform : ((Part.of r (.object ms)).form c).Settles (.all (ms.map keywords).flatten) := by
    refine form_settles hc href ?_
    simp only [ms, List.forall_mem_cons, List.not_mem_nil, false_implies, implies_true, and_true]
    exact ⟨Settles.pure _, hread, Settles.pure _⟩
  exact hform

end

/-! ## What combinations say -/

variable {t : Compiled} (v : Value)

lemma evaluate_anyOf {branches : List Independent} (ht : compile (anyOf branches) [] = .ok t) :
    t.evaluate v = [] ↔ ∃ S ∈ branches, S.compiled.evaluate v = [] := by
  rw [evaluate_of_keyword (namesDraft7_single (by decide) _) ht
      fun r c hc => form_anyOf hc branches, Keyword.holds, bne_iff_ne, countHolding_eq_countP,
    List.countP_map, ← Nat.pos_iff_ne_zero, List.countP_pos_iff]
  simp only [evaluate_eq_nil_iff, holds, Function.comp_apply]

lemma evaluate_oneOf {branches : List Independent} (ht : compile (oneOf branches) [] = .ok t) :
    t.evaluate v = [] ↔ ∃! i : Nat, ∃ S, branches[i]? = some S ∧ S.compiled.evaluate v = [] := by
  rw [evaluate_of_keyword (namesDraft7_single (by decide) _) ht
      fun r c hc => form_oneOf hc branches, Keyword.holds, beq_iff_eq, countHolding_eq_countP,
    List.countP_map, countP_eq_one_iff]
  simp only [evaluate_eq_nil_iff, holds, Function.comp_apply]

lemma evaluate_not {S : Independent} (ht : compile S.not [] = .ok t) :
    t.evaluate v = [] ↔ S.compiled.evaluate v ≠ [] := by
  rw [evaluate_of_keyword (namesDraft7_single (by decide) _) ht fun r c hc => form_not hc S,
    Keyword.holds, Ne, evaluate_eq_nil_iff, holds, Bool.not_eq_true, Bool.not_eq_true']

lemma evaluate_contains {S : Independent} (ht : compile S.contains [] = .ok t)
    (vs : List Value) :
    t.evaluate (.array vs) = [] ↔ ∃ v ∈ vs, S.compiled.evaluate v = [] := by
  rw [evaluate_of_keyword (namesDraft7_single (by decide) _) ht fun r c hc => form_contains hc S,
    Keyword.holds, ContainsRule.admits, decide_eq_true_iff, List.countP_pos_iff]
  simp only [evaluate_eq_nil_iff, holds]

lemma evaluate_conditional {condition consequence alternative : Independent}
    (ht : compile (conditional condition consequence alternative) [] = .ok t) :
    t.evaluate v = [] ↔
      if condition.compiled.evaluate v = [] then consequence.compiled.evaluate v = []
      else alternative.compiled.evaluate v = [] := by
  have hdraft : NamesDraft7 [("else", alternative.written), ("if", condition.written),
      ("then", consequence.written)] := by
    intro w hw
    cases hw
  rw [evaluate_of_keyword hdraft ht fun r c hc => form_conditional hc _ _ _, Keyword.holds]
  simp only [evaluate_eq_nil_iff, holds]
  split
  all_goals rfl

end Independent

/-- A value is valid exactly if nothing is reported on it, and what a combination of schemas without
references reports is decided by what each of them reports. -/
theorem combinations_agree (branches : List Independent)
    (schema condition consequence alternative : Independent) :
    (∀ (s : Compiled) (v : Value), s.isValid v = true ↔ s.evaluate v = []) ∧
    (∀ t, compile (Independent.anyOf branches) [] = .ok t → ∀ v,
      (t.evaluate v = [] ↔ ∃ S ∈ branches, S.compiled.evaluate v = [])) ∧
    (∀ t, compile (Independent.oneOf branches) [] = .ok t → ∀ v,
      (t.evaluate v = [] ↔
        ∃! i : Nat, ∃ S, branches[i]? = some S ∧ S.compiled.evaluate v = [])) ∧
    (∀ t, compile schema.not [] = .ok t → ∀ v,
      (t.evaluate v = [] ↔ schema.compiled.evaluate v ≠ [])) ∧
    (∀ t, compile (Independent.conditional condition consequence alternative) [] = .ok t → ∀ v,
      (t.evaluate v = [] ↔
        if condition.compiled.evaluate v = [] then consequence.compiled.evaluate v = []
        else alternative.compiled.evaluate v = [])) ∧
    (∀ t, compile schema.contains [] = .ok t → ∀ vs,
      (t.evaluate (.array vs) = [] ↔ ∃ v ∈ vs, schema.compiled.evaluate v = [])) := by
  refine ⟨fun s v => (s.evaluate_eq_nil_iff v).symm, fun t ht v => ?_, fun t ht v => ?_,
    fun t ht v => ?_, fun t ht v => ?_, fun t ht vs => ?_⟩
  · exact Independent.evaluate_anyOf v ht
  · exact Independent.evaluate_oneOf v ht
  · exact Independent.evaluate_not v ht
  · exact Independent.evaluate_conditional v ht
  · exact Independent.evaluate_contains ht vs

/-- The schema that asks for null lets null pass and nothing else, and the one that must not be
satisfied lets the rest pass. -/
theorem combinations_agree_not :
    ∃ (S : Independent) (t : Compiled), S.written = .object [("const", .null)] ∧
      compile S.not [] = .ok t ∧
      S.compiled.evaluate .null = [] ∧ t.evaluate .null ≠ [] ∧
      S.compiled.evaluate (.bool true) ≠ [] ∧ t.evaluate (.bool true) = [] := by
  have htaken : TakenAsSchema (.object [("const", .null)]) :=
    takenAsSchema_of_members (List.forall_mem_singleton.mpr (takenUnder_const .null))
  have hisolated : Isolated (.object [("const", .null)]) :=
    .intro (by decide) (List.forall_mem_nil _)
  have hnegated : Isolated (.object [("not", .object [("const", .null)])]) := by
    have hinside : schemasInside (.object [("not", .object [("const", .null)])]) =
        [.object [("const", .null)], .object [("const", .null)]] := rfl
    refine .intro (by decide) ?_
    rw [hinside]
    exact List.forall_mem_cons.mpr ⟨hisolated, List.forall_mem_singleton.mpr hisolated⟩
  let S : Independent :=
    { members := [("const", .null)]
      compiled :=
        { id? := none, root := .all [.test [.key "const"] (.const .null)], table := {} }
      referenceFree := hisolated.referenceFree
      compiles := hisolated.compile_eq_ok htaken.flaw?_eq_none fun _ => rfl }
  have ht : compile S.not [] =
      .ok { id? := none, root := .all [.not S.written S.compiled.root], table := {} } :=
    hnegated.compile_eq_ok (flaw?_draft7_of_members (List.forall_mem_singleton.mpr htaken.not))
      fun _ => rfl
  have hnull : S.compiled.evaluate .null = [] := rfl
  have htrue : S.compiled.evaluate (.bool true) ≠ [] := List.cons_ne_nil _ _
  obtain ⟨-, -, -, hnot, -⟩ := combinations_agree [] S S S S
  refine ⟨S, _, rfl, ht, hnull, fun h => ?_, htrue, (hnot _ ht (.bool true)).mpr htrue⟩
  exact (hnot _ ht .null).mp h hnull

end AgentManifest.Schema
