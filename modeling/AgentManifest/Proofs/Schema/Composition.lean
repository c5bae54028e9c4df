import AgentManifest.Proofs.Schema.Compilation
import AgentManifest.Proofs.Schema.Isolation
import AgentManifest.Proofs.Schema.Places
import AgentManifest.Proofs.Schema.SelfReference

/-!
# Schemas made of schemas

A schema for lists, for objects or for values that satisfy several schemas reports what the schemas
inside it report, one after the other, with its own places in front. Text that is not in UTF-8 is
the exception: it is reported without its place in the schema, wherever it lies.
-/

namespace AgentManifest.Schema

open Json (Value Members Location)
open Compiling (Settles)
open Report (Violation)

/-- A schema that stands alone, and what it is compiled to. -/
structure Standalone where
  members : Members
  compiled : Compiled
  selfContained : SelfContained (.object members)
  compiles : compile (.object members) [] = .ok compiled

namespace Standalone

/-- The schema as it is written. -/
def written (S : Standalone) : Value := .object S.members

lemma reads (S : Standalone) : Reads S.written S.compiled.root :=
  (S.selfContained.referenceFree.reads S.compiles).1

lemma table_eq (S : Standalone) : S.compiled.table = {} :=
  (S.selfContained.referenceFree.reads S.compiles).2

/-- The schema of lists of which every item satisfies a schema. -/
def listOf (S : Standalone) : Value := .object [("items", S.written)]

/-- The schema of objects whose members satisfy the schemas with their names. -/
def membersOf (named : List (String × Standalone)) : Value :=
  .object [("properties", .object (named.map fun p => (p.1, p.2.written)))]

/-- The schema of values that satisfy several schemas. -/
def allOf (branches : List Standalone) : Value :=
  .object [("allOf", .array (branches.map written))]

/-- The members that have a schema, each with its name and its schema, in the order of the
schemas. -/
def present (named : List (String × Standalone)) (ms : Members) :
    List (String × Standalone × Value) :=
  named.filterMap fun p => (Members.get? ms p.1).map fun v => (p.1, p.2, v)

lemma names_present (named : List (String × Standalone)) (ms : Members) :
    ((present named ms).map Prod.fst).Sublist (named.map Prod.fst) := by
  induction named with
  | nil => exact List.Sublist.slnil
  | cons p named ih =>
    rw [present, List.filterMap_cons]
    cases Members.get? ms p.1 with
    | none => exact ih.cons p.1
    | some v => exact ih.cons_cons p.1

/-- The members of a well-formed schema stand in the order of their names. -/
lemma present_increasing {named : List (String × Standalone)} (h : (membersOf named).WellFormed)
    (ms : Members) : ((present named ms).map Prod.fst).Pairwise (· < ·) := by
  have hnames : (named.map Prod.fst).Pairwise (· < ·) := by
    have hinner := h.2.1.1
    rw [List.map_map] at hinner
    exact hinner
  exact hnames.sublist (names_present named ms)

end Standalone

section

variable {r : Reader} {c : Context} (hc : c.draft = .draft7)
include hc

lemma form_listOf (S : Standalone) :
    ((Part.of r S.listOf).form c).Settles (.all [.itemsFrom "items" 0 S.compiled.root]) := by
  refine form_single hc (by decide) (w := .items) rfl ?_
  have hone : (piecesOf r [("items", S.written)]).one? "items" = some (Part.of r S.written) := rfl
  exact readOne_settles hc S.reads hone _

lemma form_membersOf (named : List (String × Standalone)) :
    ((Part.of r (Standalone.membersOf named)).form c).Settles
      (.all [.properties (named.map fun p => (p.1, p.2.compiled.root))]) := by
  refine form_single hc (by decide) (w := .properties) rfl ?_
  have hpieces (ns : Members) :
      (piecesOf r [("properties", .object ns)]).named? "properties" = some (memberParts r ns) := rfl
  have hread : (readNamed c "properties" (named.map fun p => (p.1, Part.of r p.2.written))).Settles
      (named.map fun p => (p.1, p.2.compiled.root)) := by
    rw [readNamed, List.mapM_map]
    exact Settles.mapM fun p _ => (p.2.reads r (c.down _) hc).bind (Settles.pure _)
  have htakes (v : Value) : takesOverMembers [("properties", v)] = false := rfl
  rw [Word.read, htakes, hpieces, memberParts_eq_map, List.map_map]
  exact hread.bind (Settles.pure _)

lemma form_allOf (branches : List Standalone) :
    ((Part.of r (Standalone.allOf branches)).form c).Settles
      (.all [.allOf (branches.map fun S => S.compiled.root)]) := by
  refine form_single hc (by decide) (w := .allOf) rfl ?_
  have hmany : (piecesOf r [("allOf", .array (branches.map Standalone.written))]).many? "allOf" =
      some (itemParts r (branches.map Standalone.written)) := rfl
  rw [Word.read]
  exact readMany_settles hc (fun S _ => Standalone.reads S) hmany _ _

end

/-! ## Failures of schemas made of schemas -/

lemma Standalone.failures_eq (S : Standalone) (v : Value) :
    S.compiled.failures v = S.compiled.root.ownFailures v := Compiled.failures_eq S.table_eq v

/-- The failures of a list are those of each item, in turn. -/
lemma failures_listOf (S : Standalone) {t : Compiled}
    (ht : compile S.listOf [] = .ok t) (vs : List Value) :
    t.failures (.array vs) = vs.zipIdx.flatMap fun p =>
      raise [.index p.2] [.key "items"] (S.compiled.failures p.1) := by
  rw [failures_of_single (by decide) ht fun r c hc => form_listOf hc S, Keyword.failures,
    List.drop_zero, indexed, List.mapIdx_eq_zipIdx_map, List.flatMap_map]
  simp only [S.failures_eq, Form.ownFailures]

/-- The failures of an object are those of each member with a schema, in the order of the
schemas. -/
lemma failures_membersOf (named : List (String × Standalone)) {t : Compiled}
    (ht : compile (Standalone.membersOf named) [] = .ok t) (ms : Members) :
    t.failures (.object ms) = (Standalone.present named ms).flatMap fun p =>
      raise [.key p.1] [.key "properties", .key p.1] (p.2.1.compiled.failures p.2.2) := by
  rw [failures_of_single (by decide) ht fun r c hc => form_membersOf hc named, Keyword.failures,
    namedFailures_eq_flatMap, List.flatMap_map, Standalone.present,
    List.filterMap_eq_flatMap_toList, List.flatMap_assoc]
  refine List.flatMap_congr fun p _ => ?_
  cases Members.get? ms p.1 with
  | none => rfl
  | some v =>
    simp only [Option.elim_some, Option.map_some, Option.toList_some, List.flatMap_singleton,
      p.2.failures_eq, Form.ownFailures]

/-- The failures of branches are those of each branch, in turn. -/
lemma failures_allOf (branches : List Standalone) {t : Compiled}
    (ht : compile (Standalone.allOf branches) [] = .ok t) (v : Value) :
    t.failures v = branches.zipIdx.flatMap fun p =>
      raise [] [.key "allOf", .index p.2] (p.1.compiled.failures v) := by
  rw [failures_of_single (by decide) ht fun r c hc => form_allOf hc branches, Keyword.failures,
    eachFailures_eq_flatMap, List.zipIdx_map, List.flatMap_map]
  simp only [Standalone.failures_eq, Form.ownFailures, Prod.map_fst, Prod.map_snd, id_eq]

/-! ## The schema of encoded text -/

/-- The schema of text that holds JSON in base64. -/
def encodedMembers : Members :=
  [("contentEncoding", .string "base64"), ("contentMediaType", .string "application/json")]

/-- What the schema of text that holds JSON in base64 is compiled to. -/
def encodedCompiled : Compiled :=
  { id? := none, root := .all [.test [.key "contentMediaType"] (.base64 true)], table := {} }

lemma takenAsSchema_encoded : TakenAsSchema (.object encodedMembers) := by
  refine takenAsSchema_of_members (List.forall_mem_cons.mpr ⟨?_, List.forall_mem_singleton.mpr ?_⟩)
  · exact takenUnder_text _ (((Members.gathers_ofList _).get?_eq "contentEncoding").trans rfl)
  · exact takenUnder_text _ (((Members.gathers_ofList _).get?_eq "contentMediaType").trans rfl)

lemma isolated_encoded : Isolated (.object encodedMembers) :=
  .intro (by decide) (List.forall_mem_nil _)

/-- The schema of text that holds JSON in base64 stands alone. -/
def Standalone.encoded : Standalone where
  members := encodedMembers
  compiled := encodedCompiled
  selfContained := .object (by decide) (List.forall_mem_cons.mpr
    ⟨List.forall_mem_nil _, List.forall_mem_singleton.mpr (List.forall_mem_nil _)⟩)
  compiles := isolated_encoded.compile_eq_ok takenAsSchema_encoded.flaw?_eq_none fun _ => rfl

/-! ## Violations of schemas made of schemas -/

/-- The violations of a value, with pointers for their paths. -/
def Compiled.violations (s : Compiled) (v : Value) : List Violation :=
  (s.evaluate v).map Violation.pointed

/-- Every failure of a value is reported with its places. -/
def Compiled.Traceable (s : Compiled) (v : Value) : Prop :=
  ∀ f ∈ s.failures v, f.cause.hidesKeyword = false

lemma Compiled.violations_eq (s : Compiled) (v : Value) :
    s.violations v = (s.failures v).map Failure.pointed := by
  rw [Compiled.violations, Compiled.evaluate, List.map_map]
  rfl

lemma Standalone.addressed (S : Standalone) {v : Value} (hv : "" ∉ v.names) :
    Addressed (S.compiled.failures v) := S.compiled.addressed hv

/-- Failures that are raised from several places are reported with the places in front, if each of
them is reported with its places. -/
lemma map_pointed_iff {α : Type} {as : List α} {fails : α → List Failure}
    {place keyword : α → Location} (hplace : ∀ a ∈ as, .key "" ∉ place a)
    (hkeyword : ∀ a, keyword a ≠ []) (h : ∀ a ∈ as, Addressed (fails a)) :
    (as.flatMap fun a => raise (place a) (keyword a) (fails a)).map Failure.pointed =
        (as.flatMap fun a =>
          ((fails a).map Failure.pointed).map (Violation.under (place a) (keyword a))) ↔
      ∀ a ∈ as, ∀ f ∈ fails a, f.cause.hidesKeyword = false := by
  have hraised : (as.flatMap fun a => raise (place a) (keyword a) (fails a)).map Failure.pointed =
      (as.flatMap fun a => (fails a).map fun f => (a, f)).map fun p =>
        (p.2.under (place p.1) (keyword p.1)).pointed := by
    simp only [List.map_flatMap, raise, List.map_map]
    rfl
  have hpointed : (as.flatMap fun a =>
        ((fails a).map Failure.pointed).map (Violation.under (place a) (keyword a))) =
      (as.flatMap fun a => (fails a).map fun f => (a, f)).map fun p =>
        p.2.pointed.under (place p.1) (keyword p.1) := by
    simp only [List.map_flatMap, List.map_map]
    rfl
  rw [hraised, hpointed, List.map_inj_left]
  constructor
  · intro heq a ha f hf
    have hmem : (a, f) ∈ as.flatMap fun a => (fails a).map fun f => (a, f) :=
      List.mem_flatMap.mpr ⟨a, ha, List.mem_map_of_mem hf⟩
    exact (Failure.pointed_under_iff (hplace a ha) (hkeyword a) (h a ha f hf)).mp (heq (a, f) hmem)
  · intro hshown p hp
    obtain ⟨a, ha, hp⟩ := List.mem_flatMap.mp hp
    obtain ⟨f, hf, rfl⟩ := List.mem_map.mp hp
    exact (Failure.pointed_under_iff (hplace a ha) (hkeyword a) (h a ha f hf)).mpr
      (hshown a ha f hf)

lemma forall_mem_zipIdx {α : Type} {as : List α} {P : α → Prop} :
    (∀ p ∈ as.zipIdx, P p.1) ↔ ∀ a ∈ as, P a := by
  have hfst := List.zipIdx_map_fst 0 as
  rw [← List.forall_mem_map (f := Prod.fst) (P := P), hfst]

lemma names_of_present {named : List (String × Standalone)} {ms : Members}
    (hms : "" ∉ (Value.object ms).names) {p : String × Standalone × Value}
    (hp : p ∈ Standalone.present named ms) : p.1 ≠ "" ∧ "" ∉ p.2.2.names := by
  obtain ⟨q, -, hq⟩ := List.mem_filterMap.mp hp
  obtain ⟨v, hget, rfl⟩ := Option.map_eq_some_iff.mp hq
  have hmem := Members.mem_of_get? hget
  exact ⟨fun hname => hms (Value.names_member hmem (.inl hname.symm)),
    fun hname => hms (Value.names_member hmem (.inr hname))⟩

/-- The violations under a schema made of schemas are the violations under those, with the places
in front, exactly if each of them is reported with its places. -/
theorem violations_decompose (S : Standalone) (named : List (String × Standalone))
    (branches : List Standalone) :
    (∀ t, compile S.listOf [] = .ok t → ∀ vs, "" ∉ (Value.array vs).names →
      (t.violations (.array vs) = (vs.zipIdx.flatMap fun p =>
          (S.compiled.violations p.1).map (Violation.under [.index p.2] [.key "items"])) ↔
        ∀ v ∈ vs, S.compiled.Traceable v)) ∧
    (∀ t, compile (Standalone.membersOf named) [] = .ok t → ∀ ms,
      "" ∉ (Value.object ms).names →
      (t.violations (.object ms) = ((Standalone.present named ms).flatMap fun p =>
          (p.2.1.compiled.violations p.2.2).map
            (Violation.under [.key p.1] [.key "properties", .key p.1])) ↔
        ∀ p ∈ Standalone.present named ms, p.2.1.compiled.Traceable p.2.2)) ∧
    ((Standalone.membersOf named).WellFormed → ∀ ms,
      ((Standalone.present named ms).map Prod.fst).Pairwise (· < ·)) ∧
    (∀ t, compile (Standalone.allOf branches) [] = .ok t → ∀ v, "" ∉ v.names →
      (t.violations v = (branches.zipIdx.flatMap fun p =>
          (p.1.compiled.violations v).map (Violation.under [] [.key "allOf", .index p.2])) ↔
        ∀ S ∈ branches, S.compiled.Traceable v)) := by
  refine ⟨fun t ht vs hvs => ?_, fun t ht ms hms => ?_,
    fun h ms => Standalone.present_increasing h ms, fun t ht v hv => ?_⟩
  · simp only [Compiled.violations_eq, failures_listOf S ht]
    refine (map_pointed_iff ?_ ?_ ?_).trans ?_
    · exact fun p _ => by simp
    · exact fun p => List.cons_ne_nil _ _
    · exact fun p hp => S.addressed fun hname =>
        hvs (Value.names_item (List.fst_mem_of_mem_zipIdx hp) hname)
    · exact forall_mem_zipIdx (P := S.compiled.Traceable)
  · simp only [Compiled.violations_eq, failures_membersOf named ht]
    refine (map_pointed_iff ?_ ?_ ?_).trans Iff.rfl
    · intro p hp
      have hname := (names_of_present hms hp).1
      simpa using hname.symm
    · exact fun p => List.cons_ne_nil _ _
    · exact fun p hp => p.2.1.addressed (names_of_present hms hp).2
  · simp only [Compiled.violations_eq, failures_allOf branches ht]
    refine (map_pointed_iff ?_ ?_ ?_).trans ?_
    · exact fun p _ => List.not_mem_nil
    · exact fun p => List.cons_ne_nil _ _
    · exact fun p _ => p.1.addressed hv
    · exact forall_mem_zipIdx (P := fun S : Standalone => S.compiled.Traceable v)

/-- In a list, text that is not in base64 is reported with its place in front, and the text `/w==`,
which holds a byte that is not UTF-8, is not. -/
theorem violations_decompose_encoded :
    ∃ t, compile Standalone.encoded.listOf [] = .ok t ∧
      (t.violations (.array [.string "!"]) = [Value.string "!"].zipIdx.flatMap fun p =>
        (encodedCompiled.violations p.1).map (Violation.under [.index p.2] [.key "items"])) ∧
      (t.violations (.array [.string "/w=="]) ≠ [Value.string "/w=="].zipIdx.flatMap fun p =>
        (encodedCompiled.violations p.1).map (Violation.under [.index p.2] [.key "items"])) := by
  have hlist : Isolated Standalone.encoded.listOf := by
    have hinside : schemasInside Standalone.encoded.listOf =
        [Standalone.encoded.written, Standalone.encoded.written] := rfl
    refine .intro (by decide) ?_
    rw [hinside]
    exact List.forall_mem_cons.mpr
      ⟨isolated_encoded, List.forall_mem_singleton.mpr isolated_encoded⟩
  have ht : compile Standalone.encoded.listOf [] =
      .ok { id? := none, root := .all [.itemsFrom "items" 0 encodedCompiled.root], table := {} } :=
    hlist.compile_eq_ok
      (flaw?_draft7_of_members (List.forall_mem_singleton.mpr takenAsSchema_encoded.items))
      fun _ => rfl
  have hshown : ∀ f ∈ encodedCompiled.failures (.string "!"), f.cause.hidesKeyword = false := by
    decide +kernel
  have hhidden : ¬ ∀ f ∈ encodedCompiled.failures (.string "/w=="),
      f.cause.hidesKeyword = false := by
    decide +kernel
  obtain ⟨hitems, -⟩ := violations_decompose Standalone.encoded [] []
  refine ⟨_, ht, (hitems _ ht _ (by decide)).mpr (List.forall_mem_singleton.mpr hshown), ?_⟩
  exact fun heq => hhidden (List.forall_mem_singleton.mp ((hitems _ ht _ (by decide)).mp heq))

end AgentManifest.Schema
