import AgentManifest.Proofs.Schema.Agreement
import AgentManifest.Proofs.Schema.Reading
import AgentManifest.Schema.Compile

/-!
# Compiling schemas without references

A schema in draft 7 that refers to nothing is compiled to the form that it reads as wherever it
stands, and nothing is put off. A schema with one keyword, whose parts read as forms, is compiled to
that keyword of those forms.
-/

namespace AgentManifest.Schema

open Json (Value Members)
open Compiling (Settles)

variable {ms : Members} {s : Compiled}

/-! ## From the root to its form -/

/-- Where a root stands, and the registry that grows from another one with it. -/
def Registry.situate (start : Registry) (root : Value) (supplied : List (String × Value)) :
    Except Fault (Registry × Context) := do
  let draft ← rootDraft root supplied
  let base ←
    match draft.identifier? root with
    | some id => rootIdentifier id
    | none => .ok defaultBase
  let reg ← start.build base draft root supplied
  .ok (reg, Context.root draft (reg.vocabularies draft root) base)

lemma situate_eq (root : Value) (supplied : List (String × Value)) :
    Schema.situate root supplied = Registry.standard.situate root supplied := rfl

/-- A root schema that names no other draft is in draft 7. -/
lemma rootDraft_eq (hdraft : NamesDraft7 ms) (supplied : List (String × Value)) :
    rootDraft (.object ms) supplied = .ok .draft7 := by
  rw [rootDraft, draftOf]
  cases hschema : Members.get? ms "$schema" with
  | none =>
    simp only [Value.get?, hschema]
    rfl
  | some v =>
    obtain ⟨text, rfl, htext⟩ := hdraft v hschema
    simp only [Value.get?, hschema, Option.bind_some, Value.string?, htext]

/-- What goes on after another result gives one only if both do. -/
lemma exists_of_bind_eq_ok {ε α β : Type} {x : Except ε α} {f : α → Except ε β} {b : β}
    (h : x >>= f = .ok b) : ∃ a, x = .ok a ∧ f a = .ok b := by
  cases x with
  | error fault => cases h
  | ok a => exact ⟨a, rfl, h⟩

/-- A root schema that names no other draft stands in draft 7, whatever the registry starts from. -/
lemma Registry.draft_of_situate (hdraft : NamesDraft7 ms) {start reg : Registry} {c : Context}
    (h : start.situate (.object ms) [] = .ok (reg, c)) : c.draft = .draft7 := by
  obtain ⟨draft, hroot, h⟩ := exists_of_bind_eq_ok h
  cases (rootDraft_eq hdraft []).symm.trans hroot
  dsimp only at h
  split at h
  all_goals
    obtain ⟨base, -, h⟩ := exists_of_bind_eq_ok h
    obtain ⟨reg', -, h⟩ := exists_of_bind_eq_ok h
    cases h
    rfl

/-- What a root schema of draft 7 is compiled to. -/
lemma form_of_compile (hdraft : NamesDraft7 ms) (h : compile (.object ms) [] = .ok s) :
    ∃ (r : Reader) (c : Context) (n : Nat) (p : Progress), c.draft = .draft7 ∧
      ((Part.of r (.object ms)).form c).run Progress.start = .ok (s.root, p) ∧
      s.table = Table.complete r n {} p.deferred := by
  rw [compile, situate_eq] at h
  generalize Registry.standard = start at h
  split at h
  case h_1 => cases h
  case h_2 reg c hsituate =>
    have hc := Registry.draft_of_situate hdraft hsituate
    split at h
    case h_1 => cases h
    case h_2 =>
      split at h
      case h_2 => cases h
      case h_1 hlink =>
        cases h
        simp only [link] at hlink
        split at hlink
        case h_2 => cases hlink
        case h_1 form p hrun =>
          cases hlink
          -- the identifier of the root is laid over the base, and the draft stays
          cases henter : c.enterAs c.draft (.object ms) with
          | error fault =>
            rw [henter] at hrun
            cases hrun
          | ok inner =>
            rw [henter] at hrun
            exact ⟨reg.reader, inner, reg.exploration, p, (draft_of_enterAs henter).trans hc, hrun,
              rfl⟩

/-- A schema reads as a form in draft 7, wherever it stands. -/
def Reads (v : Value) (s : Form) : Prop :=
  ∀ (r : Reader) (c : Context), c.draft = .draft7 → ((Part.of r v).within c).Settles s

/-- A root schema that reads as a form is compiled to it, and nothing is put off. -/
lemma compile_of_form (hdraft : NamesDraft7 ms) (h : compile (.object ms) [] = .ok s) {form : Form}
    (hform : ∀ (r : Reader) (c : Context), c.draft = .draft7 →
      ((Part.of r (.object ms)).form c).Settles form) :
    s.root = form ∧ s.table = {} := by
  obtain ⟨r, c, n, p, hc, hrun, htable⟩ := form_of_compile hdraft h
  obtain ⟨hroot, rfl⟩ := hform r c hc hrun
  refine ⟨hroot, ?_⟩
  rw [htable]
  cases n <;> rfl

/-- A schema without references that reads as a form somewhere reads as that form everywhere, and
puts nothing off. -/
lemma ReferenceFree.reads_of_run {v : Value} (hfree : ReferenceFree v) {r : Reader} {c : Context}
    {p q : Progress} {form : Form} (hrun : ((Part.of r v).form c).run p = .ok (form, q))
    (hc : c.draft = .draft7) : Reads v form ∧ q = p := by
  refine ⟨fun r' c' hc' => ?_, ((hfree.form_alike hc hc).settles hrun hrun).2⟩
  rw [Part.within, written_of]
  exact Settles.lift_bind fun inner henter =>
    (hfree.form_alike hc (draft_of_enter hfree.namesDraft7 hc' henter)).settles hrun

/-- A schema without references reads as what it is compiled to. -/
lemma ReferenceFree.reads (hfree : ReferenceFree (.object ms))
    (h : compile (.object ms) [] = .ok s) : Reads (.object ms) s.root ∧ s.table = {} := by
  have hdraft := hfree.namesDraft7 ms rfl
  obtain ⟨r, c, n, p, hc, hrun, -⟩ := form_of_compile hdraft h
  have hform (r' : Reader) (c' : Context) (hc' : c'.draft = .draft7) :
      ((Part.of r' (.object ms)).form c').Settles s.root :=
    (hfree.form_alike hc hc').settles hrun
  exact ⟨(hfree.reads_of_run hrun hc).1, (compile_of_form hdraft h hform).2⟩

/-! ## Reading the parts of a keyword -/

section

variable {α : Type} {r : Reader} {c : Context} {written : α → Value} {root : α → Form}

/-- A list of schemas reads as the list of their forms. -/
lemma readList_settles (hc : c.draft = .draft7) {as : List α}
    (h : ∀ a ∈ as, Reads (written a) (root a)) (keyword : String) :
    (readList c keyword ((as.map written).map (Part.of r))).Settles (as.map root) := by
  have hroots : as.map root = as.zipIdx.map fun p => root p.1 := by
    have hfst := congrArg (List.map root) (List.zipIdx_map_fst 0 as)
    rw [List.map_map] at hfst
    exact hfst.symm
  rw [readList_map, List.zipIdx_map, List.mapM_map, hroots]
  exact Settles.mapM fun p hp => h p.1 (List.fst_mem_of_mem_zipIdx hp) r (c.down _) hc

/-- A keyword with a list of schemas reads as itself with the list of their forms. -/
lemma readMany_settles (hc : c.draft = .draft7) {as : List α}
    (h : ∀ a ∈ as, Reads (written a) (root a)) {ps : Pieces} {keyword : String}
    (hps : ps.many? keyword = some (itemParts r (as.map written))) (v : Value)
    (f : List Form → Keyword) : (readMany c ps keyword v f).Settles [f (as.map root)] := by
  rw [readMany, hps, itemParts_eq_map]
  exact (readList_settles hc h keyword).bind (Settles.pure _)

/-- A keyword with one schema reads as itself with the form of the schema. -/
lemma readOne_settles (hc : c.draft = .draft7) {v : Value} {s : Form} (h : Reads v s) {ps : Pieces}
    {keyword : String} (hps : ps.one? keyword = some (Part.of r v)) (f : Form → Keyword) :
    (readOne c ps keyword f).Settles [f s] := by
  rw [readOne, hps]
  exact (h r (c.down _) hc).bind (Settles.pure _)

/-- A schema whose members each read as some keywords reads as all of these. -/
lemma form_settles (hc : c.draft = .draft7) (href : ∀ m ∈ ms, m.1 ≠ "$ref")
    {keywords : String × Value → List Keyword}
    (h : ∀ m ∈ ms, (match Word.of? .draft7 c.vocabularies m.1 with
      | some w => w.read r c ms (piecesOf r ms) m.1 m.2
      | none => pure []).Settles (keywords m)) :
    ((Part.of r (.object ms)).form c).Settles (.all (ms.map keywords).flatten) := by
  rw [Part.of]
  dsimp only
  rw [assemble, hc, effectiveMembers_draft7 href]
  exact (Settles.mapM h).bind (Settles.pure _)

/-- A schema with one keyword reads as that keyword. -/
lemma form_single {keyword : String} {v : Value} {w : Word} {ks : List Keyword}
    (hc : c.draft = .draft7) (hkeyword : keyword ∉ linkingKeywords)
    (hw : Word.of? .draft7 c.vocabularies keyword = some w)
    (hread : (w.read r c [(keyword, v)] (piecesOf r [(keyword, v)]) keyword v).Settles ks) :
    ((Part.of r (.object [(keyword, v)])).form c).Settles (.all ks) := by
  have href : ∀ m ∈ [(keyword, v)], m.1 ≠ "$ref" := by
    rw [List.forall_mem_singleton]
    rintro rfl
    exact hkeyword (by decide)
  have hform : ((Part.of r (.object [(keyword, v)])).form c).Settles
      (.all (([(keyword, v)].map fun _ => ks).flatten)) := by
    refine form_settles hc href ?_
    rw [List.forall_mem_singleton, hw]
    exact hread
  rwa [List.map_singleton, List.flatten_singleton] at hform

end

/-! ## Evaluating what was compiled -/

/-- What fails without anything to refer to. -/
def Form.ownFailures (s : Form) (v : Value) : List Failure :=
  s.failures (Table.links {} 0) (Table.complaints {} 0) v

lemma Compiled.failures_eq (h : s.table = {}) (v : Value) :
    s.failures v = s.root.ownFailures v := by
  have hlinks (n : Nat) : Table.links {} n = Table.links {} 0 := by cases n <;> rfl
  have hcomplaints (n : Nat) : Table.complaints {} n = Table.complaints {} 0 := by
    cases n <;> rfl
  rw [Compiled.failures, h, hlinks, hcomplaints, Form.ownFailures]

/-- A schema with one keyword that reads as one fails as that one does. -/
lemma failures_of_single {keyword : String} {w : Value} {k : Keyword} {t : Compiled}
    (hkeyword : keyword ∉ linkingKeywords) (ht : compile (.object [(keyword, w)]) [] = .ok t)
    (hform : ∀ (r : Reader) (c : Context), c.draft = .draft7 →
      ((Part.of r (.object [(keyword, w)])).form c).Settles (.all [k])) (v : Value) :
    t.failures v = k.failures (Table.links {} 0) (Table.complaints {} 0) v := by
  have hkeys : ∀ m ∈ [(keyword, w)], m.1 ∉ linkingKeywords := by
    rwa [List.forall_mem_singleton]
  obtain ⟨hroot, htable⟩ := compile_of_form (namesDraft7_of_keys hkeys) ht hform
  rw [Compiled.failures_eq htable, Form.ownFailures, hroot, Form.failures, allFailures, allFailures,
    List.append_nil]

end AgentManifest.Schema
