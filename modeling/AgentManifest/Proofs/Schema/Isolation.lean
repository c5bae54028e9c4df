import AgentManifest.Proofs.Schema.Filling

/-!
# Isolated schemas

A schema of draft 7 is isolated if neither it nor any schema inside it refers to another, names
itself or its draft. It adds nothing to a registry that is being filled, so as a root schema it comes
to lie in the registry of the drafts, and nothing else does.
-/

namespace AgentManifest.Schema

open Json (Value Members Location)

variable {v : Value} {supplied : List (String × Value)} {draft : Draft}

/-- A schema that neither refers to another nor names itself or its draft. The schemas inside it
may. -/
def Unlinked (v : Value) : Prop := ∀ keyword ∈ linkingKeywords, v.get? keyword = none

instance (v : Value) : Decidable (Unlinked v) :=
  inferInstanceAs (Decidable (∀ keyword ∈ linkingKeywords, v.get? keyword = none))

/-- The schemas inside a schema of draft 7: those that its keywords hold, and those that have a place
there for others to refer to. -/
def schemasInside : Value → List Value
  | .object ms =>
    ms.flatMap fun m =>
      (if inDraft7 m.1 then schemasOf m.1 m.2 else []) ++
        (Draft.draft7.subschemasOf m.1 m.2).map Prod.snd
  | _ => []

/-- Neither a schema nor any schema inside it refers to another, names itself or its draft. -/
inductive Isolated : Value → Prop
  | intro {v : Value} (hkeys : Unlinked v) (hinside : ∀ w ∈ schemasInside v, Isolated w) :
      Isolated v

lemma Isolated.unlinked (h : Isolated v) : Unlinked v := by
  cases h with
  | intro hkeys => exact hkeys

lemma Isolated.of_mem_subschemas (h : Isolated v) : ∀ s ∈ Draft.draft7.subschemas v, Isolated s.2 := by
  intro s hs
  cases h with
  | intro hkeys hinside =>
    cases v with
    | object ms =>
      obtain ⟨m, hm, hs⟩ := List.mem_flatMap.mp hs
      exact hinside _ (List.mem_flatMap.mpr
        ⟨m, hm, List.mem_append_right _ (List.mem_map_of_mem hs)⟩)
    | _ => exact absurd hs List.not_mem_nil

lemma Isolated.referenceFree (h : Isolated v) : ReferenceFree v := by
  induction h with
  | @intro v hkeys hinside ih =>
    cases v with
    | object ms =>
      have hget (keyword : String) (hkeyword : keyword ∈ linkingKeywords) :
          Members.get? ms keyword = none := hkeys keyword hkeyword
      refine .object (fun m hm href => ?_) (fun w hw => ?_) fun m hm hknown w hw => ?_
      · obtain ⟨w, hw⟩ := Members.exists_get?_of_mem hm
        rw [href, hget "$ref" (by decide)] at hw
        cases hw
      · rw [hget "$schema" (by decide)] at hw
        cases hw
      · refine ih w (List.mem_flatMap.mpr ⟨m, hm, List.mem_append_left _ ?_⟩)
        rwa [if_pos hknown]
    | _ => exact .plain nofun

/-! ## Schemas without links -/

namespace Unlinked

variable (h : Unlinked v)
include h

lemma id?_eq_none : (v.get? "$id").bind Value.string? = none := by
  rw [h "$id" (by decide), Option.bind_none]

lemma identifier?_eq_none : Draft.identifier? .draft7 v = none := by
  have hid : v.get? (Draft.idKeyword .draft7) = none := h _ (by decide)
  rw [Draft.identifier?, hid]
  rfl

lemma anchors_eq_nil : Draft.anchors .draft7 v = [] := by
  have hid : v.get? (Draft.idKeyword .draft7) = none := h _ (by decide)
  simp only [Draft.anchors, hid, Option.bind_none]

lemma draftOf_eq (outer : Draft) : draftOf outer v = .ok outer := by
  have hschema : v.get? "$schema" = none := h _ (by decide)
  rw [draftOf, hschema]
  rfl

lemma rootDraft_eq (supplied : List (String × Value)) : rootDraft v supplied = .ok .draft7 := by
  have hschema : v.get? "$schema" = none := h _ (by decide)
  rw [rootDraft, hschema, h.draftOf_eq]
  rfl

lemma innerBase_eq (base : String) : innerBase .draft7 base v = .ok base := by
  rw [innerBase, h.identifier?_eq_none]

/-- A schema without links is read where it stands. -/
lemma enterAs_eq {c : Context} (hc : c.draft = .draft7) : c.enterAs c.draft v = .ok c := by
  rw [Context.enterAs, hc, h.innerBase_eq, ← hc]
  rfl

/-- A schema without links refers to nothing outside. -/
lemma externalOf_eq (depth : Nat) (base : String) (seen : List (String × String)) :
    (externalOf depth base v).run seen = .ok ([], seen) := by
  cases depth with
  | zero => rfl
  | succ depth =>
    have href : v.get? "$ref" = none := h _ (by decide)
    have hschema : v.get? "$schema" = none := h _ (by decide)
    rw [externalOf]
    split
    · rfl
    · rw [externalUnder, externalUnder, href, hschema]
      rfl

lemma settle_eq (reg : Registry) (base : String) :
    reg.settle base { contents := v, draft := .draft7 } = .ok (base, reg) := by
  simp only [Registry.settle, h.identifier?_eq_none]

lemma insertNames_eq (reg : Registry) (base : String) :
    reg.insertNames base { contents := v, draft := .draft7 } = reg := by
  simp only [Registry.insertNames, h.anchors_eq_nil, List.map_nil, List.nil_append]

/-- Looking through a schema without links leaves the schemas below it. -/
lemma lookThrough_eq (base : String) (f : Filling) (rest : List Waiting) :
    lookThrough f { base, resource := { contents := v, draft := .draft7 } } rest =
      .ok { f with
        waiting := rest ++ childrenOf base { contents := v, draft := .draft7 } } := by
  have hexternal := h.externalOf_eq (v.nesting + 1) base f.seen
  simp only [lookThrough, h.settle_eq, hexternal, h.insertNames_eq, bind, Except.bind,
    List.filter_nil, List.append_nil]

end Unlinked

/-! ## Filling -/

/-- A schema that waits to be looked through is isolated. -/
def Waiting.Isolated (w : Waiting) : Prop :=
  w.resource.draft = .draft7 ∧ Schema.Isolated w.resource.contents

lemma Waiting.Isolated.children {w : Waiting} (h : w.Isolated) (base : String) :
    ∀ w' ∈ childrenOf base w.resource, w'.Isolated := by
  intro w' hw'
  obtain ⟨hdraft, hcontents⟩ := h
  rw [childrenOf, hdraft] at hw'
  obtain ⟨s, hs, rfl⟩ := List.mem_map.mp hw'
  exact ⟨rfl, hcontents.of_mem_subschemas s hs⟩

/-- Isolated schemas add nothing to a registry. -/
lemma fill_isolated {f : Filling} (h : ∀ w ∈ f.waiting, w.Isolated) :
    fill supplied draft f = fill supplied draft { f with waiting := [] } := by
  induction hweight : weight f.waiting using Nat.strong_induction_on generalizing f with
  | h n ih =>
    cases hwaiting : f.waiting with
    | nil => rw [← hwaiting]
    | cons w rest =>
      obtain ⟨hw, hrest⟩ := List.forall_mem_cons.mp (hwaiting ▸ h)
      have hlt : weight (rest ++ childrenOf w.base w.resource) < n := by
        have hbelow := weight_childrenOf w.base w.resource
        rw [← hweight, hwaiting, weight_append, weight_cons]
        omega
      have hnext := List.forall_mem_append.mpr ⟨hrest, hw.children w.base⟩
      obtain ⟨base, contents, draft'⟩ := w
      obtain ⟨hdraft, hcontents⟩ := hw
      cases hdraft
      rw [fill_of_waiting hwaiting, hcontents.unlinked.lookThrough_eq]
      exact ih _ hlt hnext rfl

/-! ## Root schemas -/

/-- Where nothing is put off, nothing is added. -/
lemma Table.complete_nil (r : Reader) (n : Nat) (table : Table) :
    table.complete r n [] = table := by
  cases n <;> rfl

/-- The registry of the drafts with a root schema of draft 7 at the default base. -/
def Registry.withRoot (start : Registry) (v : Value) : Registry :=
  start.insert defaultBase { contents := v, draft := .draft7 }

/-- What is left to do for a registry once a root schema of draft 7 is looked through that has no
links itself. -/
def Filling.below (start : Registry) (v : Value) : Filling :=
  { registry := start.withRoot v,
    waiting := childrenOf defaultBase { contents := v, draft := .draft7 }, external := [],
    seen := [] }

/-- Where a root schema of draft 7 without an identifier stands. -/
def Context.atDefaultBase : Context := Context.root .draft7 [] defaultBase

/-- A root schema without links lies at the default base, on top of the drafts. -/
lemma Unlinked.situate_eq (h : Unlinked v) (supplied : List (String × Value)) :
    situate v supplied = fill supplied .draft7 (.below Registry.standard v) >>= fun reg =>
      .ok (reg, .atDefaultBase) := by
  have hfind : Registry.standard.find? defaultBase = none := rfl
  rw [Schema.situate_eq]
  generalize Registry.standard = start at hfind
  have hvocabularies (reg : Registry) : reg.vocabularies .draft7 v = [] := by
    rw [Registry.vocabularies, h.draftOf_eq]
    rfl
  have hbuild : start.build defaultBase .draft7 v supplied =
      fill supplied .draft7 (.below start v) := by
    rw [Registry.build, hfind, if_neg (by decide), fill_of_waiting rfl, h.lookThrough_eq]
    rfl
  simp only [Registry.situate, h.rootDraft_eq, h.identifier?_eq_none, hbuild, hvocabularies, bind,
    Except.bind]
  rfl

/-- What a root schema without links is compiled to. -/
lemma Unlinked.compile_eq_ok_iff (h : Unlinked v) {s : Compiled} :
    compile v supplied = .ok s ↔ flaw? .draft7 v = none ∧ ∃ reg,
      fill supplied .draft7 (.below Registry.standard v) = .ok reg ∧
        link reg none .atDefaultBase v = .ok s := by
  rw [compile, h.situate_eq, h.id?_eq_none]
  -- the steps are taken apart one by one, as none of them computes
  constructor
  · intro hs
    split at hs
    case h_1 => cases hs
    case h_2 reg c hsituate =>
      obtain ⟨reg', hfill, hplace⟩ := exists_of_bind_eq_ok hsituate
      cases hplace
      split at hs
      case h_1 => cases hs
      case h_2 hflaw =>
        split at hs
        case h_2 => cases hs
        case h_1 hlink =>
          cases hs
          exact ⟨hflaw, reg, hfill, hlink⟩
  · rintro ⟨hflaw, reg, hfill, hlink⟩
    rw [hfill]
    split
    case h_1 hsituate => cases hsituate
    case h_2 hsituate =>
      cases hsituate
      split
      case h_1 hflaw' => cases hflaw.symm.trans hflaw'
      case h_2 =>
        split
        case h_1 hlink' =>
          cases hlink'.symm.trans hlink
          rfl
        case h_2 hlink' => cases hlink.symm.trans hlink'

/-- What a root schema without links is compiled to is decided by what it refers to. -/
lemma Unlinked.compile_congr (h : Unlinked v) {supplied' : List (String × Value)}
    (hfill : fill supplied' .draft7 (.below Registry.standard v) =
      fill supplied .draft7 (.below Registry.standard v)) :
    compile v supplied' = compile v supplied := by
  rw [compile, compile, h.situate_eq, h.situate_eq, hfill]

/-- A root schema without links that cannot be compiled has a flaw. -/
lemma Unlinked.exists_flaw (h : Unlinked v) (hfails : ∀ s, compile v supplied ≠ .ok s) :
    ∃ flaw, compile v supplied = .error (.flawed none flaw) := by
  rw [compile, h.id?_eq_none] at hfails ⊢
  split at hfails
  case h_1 => exact ⟨_, rfl⟩
  case h_2 =>
    split at hfails
    case h_1 => exact ⟨_, rfl⟩
    case h_2 =>
      split at hfails
      case h_1 s _ => exact absurd rfl (hfails s)
      case h_2 => exact ⟨_, rfl⟩

/-- Only an isolated root schema itself comes to lie in the registry. -/
lemma Isolated.fill_below (h : Isolated v) (start : Registry) (supplied : List (String × Value)) :
    fill supplied .draft7 (.below start v) = .ok (start.withRoot v) := by
  have hroot : Waiting.Isolated
      { base := defaultBase, resource := { contents := v, draft := .draft7 } } := ⟨rfl, h⟩
  exact (fill_isolated (hroot.children _)).trans (fill_of_nil rfl rfl)

/-- An isolated root schema without flaws is compiled to what it is read as, if nothing is put off
there. -/
lemma Isolated.compile_eq_ok (h : Isolated v) (hflaw : flaw? .draft7 v = none) {form : Form}
    (hread : ∀ r : Reader, ((Part.of r v).form .atDefaultBase).run Progress.start =
      .ok (form, Progress.start)) :
    compile v supplied = .ok { id? := none, root := form, table := {} } := by
  refine h.unlinked.compile_eq_ok_iff.mpr ⟨hflaw, _, h.fill_below _ _, ?_⟩
  have hlift : Compiling.lift (.ok Context.atDefaultBase) = pure Context.atDefaultBase := rfl
  rw [link, h.unlinked.enterAs_eq rfl, hlift, pure_bind, hread]
  dsimp only
  rw [Progress.start, Table.complete_nil]

/-- An isolated root schema is compiled to the same whatever is supplied. -/
lemma Isolated.compile_congr (h : Isolated v) (supplied supplied' : List (String × Value)) :
    compile v supplied = compile v supplied' :=
  h.unlinked.compile_congr ((h.fill_below _ _).trans (h.fill_below _ _).symm)

end AgentManifest.Schema
