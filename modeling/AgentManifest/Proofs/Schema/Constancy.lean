import AgentManifest.Proofs.Schema.Completion
import AgentManifest.Proofs.Schema.DraftSeven
import AgentManifest.Proofs.Schema.Isolation

/-!
# What is said of documents comes from the schema

A schema without double names is compiled to one that is coherent, together with all that its
references lead to. So the wording of a violation and its parameters are determined by the path of
the keyword: no two documents are told different things by one keyword, except for the names that are
missing from a document or not expected in it.
-/

namespace AgentManifest.Schema

open Json (Value Members)
open Report (Violation)
open Compiling (Ensures)

/-! ## What references lead to -/

/-- A schema that was put off has no double names. -/
def Deferred.WellFormed (d : Deferred) : Prop := d.contents.WellFormed

/-- All schemas that references lead to are coherent. -/
def Table.Coherent : Table → Prop := Table.All fun _ s => s.Coherent

/-- What is put off is read as a coherent schema. -/
lemma Registry.WellFormed.keeps {reg : Registry} (h : reg.WellFormed) (n : Nat) :
    (Reader.following reg n).Keeps Deferred.WellFormed fun _ s => s.Coherent := by
  have hsound : (Reader.following reg n).Sound Deferred.WellFormed :=
    Reader.following_sound h (fun l hl _ _ _ _ _ => h.reaches hl) n
  exact
    { form := fun d hd => hsound.form _ _ hd
      coverage := fun focus d hd => hsound.coverage _ _ _ hd
      always := fun _ => Form.coherent_always }

/-- What references fail with in two documents is akin, however deep either goes. -/
lemma Table.Coherent.complaints_akin {table : Table} (h : table.Coherent) (n m : Nat) :
    (table.complaints n).Akin (table.complaints m) := by
  induction n generalizing m with
  | zero =>
    rintro t path c c' ⟨v, hc⟩
    exact absurd hc Reported.nil
  | succ n ih =>
    cases m with
    | zero =>
      rintro t path c c' - ⟨v, hc'⟩
      exact absurd hc' Reported.nil
    | succ m =>
      rintro t path c c' ⟨v, hc⟩ ⟨w, hc'⟩
      cases hs : table.forms.lookup t with
      | none =>
        simp only [Table.complaints, hs] at hc
        exact absurd hc Reported.nil
      | some s =>
        simp only [Table.complaints, hs] at hc hc'
        exact Table.All.lookup h hs (ih m) ⟨_, v, hc⟩ ⟨_, w, hc'⟩

/-! ## Compiled schemas -/

/-- A compiled schema and all that its references lead to is coherent. -/
structure Compiled.Coherent (s : Compiled) : Prop where
  root : s.root.Coherent
  table : s.table.Coherent

lemma link_coherent {reg : Registry} (hreg : reg.WellFormed) {id? : Option String} {c : Context}
    {root : Value} (hroot : root.WellFormed) {s : Compiled} (h : link reg id? c root = .ok s) :
    s.Coherent := by
  have hr : reg.reader.Sound Deferred.WellFormed :=
    Reader.following_sound hreg (fun l hl _ _ _ _ _ => hreg.reaches hl) _
  have hstart : ∀ d ∈ Progress.start.deferred, d.WellFormed := List.forall_mem_nil _
  simp only [link] at h
  split at h
  case h_2 => cases h
  case h_1 form p hrun =>
    cases h
    have hread : Ensures Deferred.WellFormed
        (do (Part.of reg.reader root).form (← Compiling.lift (c.enterAs c.draft root)))
        Form.Coherent :=
      .bind (.lift fun _ _ => trivial) fun inner _ => (Part.sound_of hr hroot).form inner
    obtain ⟨hform, hp⟩ := hread hstart hrun
    exact ⟨hform, Table.All.empty.complete (hreg.keeps _) _ hp⟩

/-- A schema is compiled to a coherent one. -/
lemma compile_coherent {root : Value} {supplied : List (String × Value)} {s : Compiled}
    (hroot : root.WellFormed) (hsupplied : ∀ e ∈ supplied, e.2.WellFormed)
    (h : compile root supplied = .ok s) : s.Coherent := by
  rw [compile, situate_eq] at h
  have hstart := Registry.wellFormed_standard
  generalize Registry.standard = start at h hstart
  split at h
  case h_1 => cases h
  case h_2 reg c hsituate =>
    have hreg : reg.WellFormed := by
      obtain ⟨draft, -, hsituate⟩ := exists_of_bind_eq_ok hsituate
      dsimp only at hsituate
      split at hsituate
      all_goals
        obtain ⟨base, -, hsituate⟩ := exists_of_bind_eq_ok hsituate
        obtain ⟨reg', hbuild, hsituate⟩ := exists_of_bind_eq_ok hsituate
        cases hsituate
        exact hstart.build hroot hsupplied hbuild
    split at h
    case h_1 => cases h
    case h_2 =>
      split at h
      case h_1 hlink =>
        cases h
        exact link_coherent hreg hroot hlink
      case h_2 => cases h

lemma Compiled.Coherent.kin {s : Compiled} (h : s.Coherent) {v w : Value} {f g : Failure}
    (hf : f ∈ s.failures v) (hg : g ∈ s.failures w) (hfworded : f.cause.topic?.isSome = true)
    (hgworded : g.cause.topic?.isSome = true)
    (hpath : f.violation.schemaPath = g.violation.schemaPath) : f.cause.Kin g.cause := by
  have htokens : tokens g.keyword = tokens f.keyword := tokens_eq_of_pointer hpath.symm
  exact h.root (h.table.complaints_akin _ _) ⟨_, v, f, hf, rfl, rfl, hfworded⟩
    ⟨_, w, g, hg, htokens, rfl, hgworded⟩

/-! ## Wordings -/

/-- The wording and the parameters of a violation. -/
def wordingOf (x : Violation) : String × Option Members := (x.message, x.params)

/-- What is said of a member that is missing. -/
def missingWording (name : String) : String × Option Members :=
  ("must have required property '" ++ name ++ "'", some [("missingProperty", .string name)])

/-- What is said of members that are not expected. -/
def unexpectedWording (names : List String) : String × Option Members :=
  ("must NOT have additional properties: " ++ ", ".intercalate names,
    some [("additionalProperties", .array (names.map Value.string))])

/-- Two violations of one kind are worded the same; or else it is a missing member, and they differ
in its name, or members that are not expected, and they differ in the list of their names. -/
def SameWording (t : Topic) (x y : Violation) : Prop :=
  match t with
  | .required =>
    ∃ name name', wordingOf x = missingWording name ∧ wordingOf y = missingWording name'
  | .additionalProperties =>
    ∃ names names', wordingOf x = unexpectedWording names ∧ wordingOf y = unexpectedWording names'
  | _ => wordingOf x = wordingOf y

lemma wordingOf_violation {f : Failure} {worded : String × Option Members}
    (h : f.cause.description? = some worded) : wordingOf f.violation = worded := by
  simp only [wordingOf, Failure.violation, h, Option.getD_some, Violation.make]

/-- Causes that are akin are worded the same, up to names of the value. -/
lemma sameWording_of_kin {f g : Failure} (h : f.cause.Kin g.cause) {t : Topic}
    (ht : f.cause.topic? = some t) :
    g.cause.topic? = some t ∧ SameWording t f.violation g.violation := by
  generalize hf : f.cause = c at h ht
  generalize hg : g.cause = c' at h
  cases h with
  | required name name' =>
    cases ht
    refine ⟨rfl, name, name', wordingOf_violation ?_, wordingOf_violation ?_⟩
    · rw [hf]
      rfl
    · rw [hg]
      rfl
  | additionalProperties names names' =>
    cases ht
    refine ⟨rfl, names, names', wordingOf_violation ?_, wordingOf_violation ?_⟩
    · rw [hf]
      rfl
    · rw [hg]
      rfl
  | worded htopic hdescription =>
    have hsome : c.description?.isSome = true := by
      rw [← Cause.isSome_topic?, ht]
      rfl
    obtain ⟨worded, hworded⟩ := Option.isSome_iff_exists.mp hsome
    have hx : wordingOf f.violation = worded := wordingOf_violation (hf ▸ hworded)
    have hy : wordingOf g.violation = worded :=
      wordingOf_violation (hg ▸ hdescription ▸ hworded)
    refine ⟨htopic ▸ ht, ?_⟩
    unfold SameWording
    split
    case h_1 =>
      cases c with
      | required name =>
        cases hworded
        exact ⟨name, name, hx, hy⟩
      | _ => cases ht
    case h_2 =>
      cases c with
      | additionalProperties names =>
        cases hworded
        exact ⟨names, names, hx, hy⟩
      | _ => cases ht
    case h_3 => exact hx.trans hy.symm

/-- What is said of a document under one path of the schema is what is said of any other document
under it. -/
theorem wording_of_schemaPath {root : Value} {supplied : List (String × Value)} {s : Compiled}
    (hroot : root.WellFormed) (hsupplied : ∀ e ∈ supplied, e.2.WellFormed)
    (h : compile root supplied = .ok s) {v w : Value} {f g : Failure} (hf : f ∈ s.failures v)
    (hg : g ∈ s.failures w) (hpath : f.violation.schemaPath = g.violation.schemaPath)
    {t t' : Topic} (ht : f.cause.topic? = some t) (ht' : g.cause.topic? = some t') :
    t = t' ∧ SameWording t f.violation g.violation := by
  have hkin : f.cause.Kin g.cause :=
    (compile_coherent hroot hsupplied h).kin hf hg (by rw [ht]; rfl) (by rw [ht']; rfl) hpath
  obtain ⟨htopic, hwording⟩ := sameWording_of_kin hkin ht
  exact ⟨Option.some.inj (htopic.symm.trans ht'), hwording⟩

/-- Two documents that are not the constant that is asked for are told the same. -/
theorem wording_of_const :
    ∃ s f g, compile (.object [("const", .null)]) [] = .ok s ∧ f ∈ s.failures (.bool true) ∧
      g ∈ s.failures (.string "secret") ∧
        Topic.const = Topic.const ∧ SameWording .const f.violation g.violation := by
  have hinside : schemasInside (.object [("const", .null)]) = [] := rfl
  have hisolated : Isolated (.object [("const", .null)]) :=
    .intro (by decide) (hinside ▸ List.forall_mem_nil _)
  have hflaw : flaw? .draft7 (.object [("const", .null)]) = none :=
    flaw?_draft7_of_members (List.forall_mem_singleton.mpr (takenUnder_const .null).takenAsMember)
  have hcompile : compile (.object [("const", .null)]) [] = .ok _ :=
    hisolated.compile_eq_ok hflaw fun _ => rfl
  have hwf : (Value.object [("const", .null)]).WellFormed :=
    ⟨List.pairwise_singleton _ _, trivial, trivial⟩
  let f : Failure := { place := [], keyword := [.key "const"], cause := .const .null }
  refine ⟨_, f, f, hcompile, List.mem_singleton.mpr rfl, List.mem_singleton.mpr rfl, ?_⟩
  exact wording_of_schemaPath hwf (List.forall_mem_nil _) hcompile
    (v := .bool true) (w := .string "secret") (List.mem_singleton.mpr rfl)
    (List.mem_singleton.mpr rfl) rfl rfl rfl

end AgentManifest.Schema
