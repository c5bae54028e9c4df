import AgentManifest.Proofs.Schema.DraftSeven
import AgentManifest.Proofs.Schema.Isolation
import AgentManifest.Proofs.Schema.Mirroring

/-!
# Schemas that name no draft

A schema that names no draft is compiled to the same as the schema that names draft 7 instead. The
name of the draft is read nowhere but at the start: no keyword looks at it, and where a reference
leads to it, no schema lies there. So twins are read the same way, put off twins in turn, and are
linked to the same; and the schema of draft 7 takes the name, so it takes both or neither.
-/

namespace AgentManifest.Schema

open Json (Value Members Location)
open Compiling (Mirrors)

/-! ## The name of the draft -/

section

variable {r : Reader} {c : Context} {ms : Members} {name : String} (hname : name ≠ "$schema")
include hname

lemma lookup_piecesOf_without (r : Reader) (ms : Members) :
    (piecesOf r (Members.without ms "$schema")).lookup name = (piecesOf r ms).lookup name := by
  rw [lookup_piecesOf, lookup_piecesOf, Members.get?_without ms hname]

lemma one?_without (r : Reader) (ms : Members) :
    (piecesOf r (Members.without ms "$schema")).one? name = (piecesOf r ms).one? name := by
  rw [Pieces.one?, lookup_piecesOf_without hname, Pieces.one?]

lemma many?_without (r : Reader) (ms : Members) :
    (piecesOf r (Members.without ms "$schema")).many? name = (piecesOf r ms).many? name := by
  rw [Pieces.many?, lookup_piecesOf_without hname, Pieces.many?]

lemma named?_without (r : Reader) (ms : Members) :
    (piecesOf r (Members.without ms "$schema")).named? name = (piecesOf r ms).named? name := by
  rw [Pieces.named?, lookup_piecesOf_without hname, Pieces.named?]

lemma contains_without (ms : Members) :
    Members.contains (Members.without ms "$schema") name = Members.contains ms name := by
  rw [Members.contains, Members.get?_without ms hname, Members.contains]

end

section

variable (r : Reader) (c : Context) (ms : Members)

lemma takesOverMembers_without :
    takesOverMembers (Members.without ms "$schema") = takesOverMembers ms := by
  rw [takesOverMembers, Members.get?_without ms (show "additionalProperties" ≠ "$schema" by decide),
    takesOverMembers]

lemma readBound_without (keyword : String) (o : Comparison) (v : Value) :
    readBound c (Members.without ms "$schema") keyword o v = readBound c ms keyword o v := by
  unfold readBound
  split
  · dsimp only
    split
    case h_1 name strict hflag =>
      have hname : name ≠ "$schema" := by
        split at hflag <;> cases hflag <;> decide
      rw [Members.get?_without ms hname]
    case h_2 => rfl
  · rfl

lemma coverAll_without (focus : Focus) :
    coverAll r (Members.without ms "$schema") (piecesOf r (Members.without ms "$schema")) focus c =
      coverAll r ms (piecesOf r ms) focus c := by
  simp (disch := decide) only [coverAll, coverReferences, coverConditional, coverOwn, coverMembers,
    coverItems, coverCombinations, coverSatisfying, one?_without, many?_without, named?_without,
    contains_without, Members.get?_without]

/-- No keyword looks at the name of the draft. -/
lemma read_without {keyword : String} (hkeyword : keyword ≠ "$schema") (v : Value) (w : Word) :
    w.read r c (Members.without ms "$schema") (piecesOf r (Members.without ms "$schema")) keyword
        v = w.read r c ms (piecesOf r ms) keyword v := by
  have hone := one?_without hkeyword r ms
  have hmany := many?_without hkeyword r ms
  have hnamed := named?_without hkeyword r ms
  cases w with
  | additionalItems =>
    simp (disch := decide) only [Word.read, readAdditionalItems, readOne, hone,
      Members.get?_without]
  | additionalProperties =>
    simp (disch := decide) only [Word.read, readAdditional, hone, named?_without, contains_without]
  | allOf | anyOf | oneOf | prefixItems => simp only [Word.read, readMany, hmany]
  | condition => simp (disch := decide) only [Word.read, readConditional, hone, one?_without]
  | contains =>
    simp (disch := decide) only [Word.read, readContains, containsLimit, readOne, hone,
      Members.get?_without]
  | dependencies | dependentSchemas => simp only [Word.read, hnamed]
  | items =>
    simp (disch := decide) only [Word.read, readItems, readOne, hone, hmany, Members.get?_without]
  | not | propertyNames => simp only [Word.read, readOne, hone]
  | patternProperties | properties =>
    simp only [Word.read, takesOverMembers_without, hnamed]
  | unevaluatedItems | unevaluatedProperties =>
    simp only [Word.read, readUnevaluated, hone, coverAll_without]
  | bound o => exact readBound_without c ms keyword o v
  | contentEncoding | contentMediaType =>
    simp (disch := decide) only [Word.read, readCondition, readEncoding, readMediaType,
      contains_without, Members.get?_without]
  | _ => rfl

lemma effectiveMembers_without (d : Draft) :
    effectiveMembers d (Members.without ms "$schema") =
      Members.without (effectiveMembers d ms) "$schema" := by
  unfold effectiveMembers
  rw [Members.get?_without ms (show "$ref" ≠ "$schema" by decide)]
  split
  · rfl
  · split
    · rfl
    · rfl

/-- Steps that give nothing can be left out. -/
lemma mapM_filter_flatten {α β γ : Type} {f g : α → Compiling (List β)} {p : α → Bool}
    (hfg : ∀ a, p a = true → f a = g a) (hg : ∀ a, p a = false → g a = pure []) (as : List α)
    (k : List β → Compiling γ) :
    ((as.filter p).mapM f >>= fun bss => k bss.flatten) =
      as.mapM g >>= fun bss => k bss.flatten := by
  induction as generalizing k with
  | nil => rfl
  | cons a as ih =>
    cases ha : p a with
    | true =>
      rw [List.filter_cons_of_pos ha, List.mapM_cons, List.mapM_cons, hfg a ha]
      simp only [bind_assoc, pure_bind, List.flatten_cons]
      exact bind_congr fun bs => ih fun rest => k (bs ++ rest)
    | false =>
      rw [List.filter_cons_of_neg (Bool.eq_false_iff.mp ha), List.mapM_cons, hg a ha]
      simp only [bind_assoc, pure_bind, List.flatten_cons, List.nil_append]
      exact ih k

lemma assemble_without :
    assemble r (Members.without ms "$schema") (piecesOf r (Members.without ms "$schema")) c =
      assemble r ms (piecesOf r ms) c := by
  rw [assemble, assemble, effectiveMembers_without]
  refine mapM_filter_flatten (fun m hm => ?_) (fun m hm => ?_) _ fun ks => pure (Form.all ks)
  · have hname : m.1 ≠ "$schema" := by simpa using hm
    split
    · exact read_without r c ms hname m.2 _
    · rfl
  · have hname : m.1 = "$schema" := by simpa using hm
    rw [hname, Word.of?_schema]

end

/-! ## Readers -/

section

variable {v v' : Value} {reg reg' : Registry}

/-- Twins are read the same way by readers that read twins the same way. -/
lemma readAlike_twin {r r' : Reader} (hr : r.Mirrors r') (h : Twin v v') :
    (∀ c, Mirrors ((Part.of r v).form c) ((Part.of r' v').form c)) ∧
      ∀ focus c, Mirrors ((Part.of r v).coverage focus c) ((Part.of r' v').coverage focus c) := by
  cases h with
  | refl => exact ⟨(readAlike_of hr v).form, (readAlike_of hr v).coverage⟩
  | @marked ms ms' _ _ hrest =>
    -- both are read as the schema that is left without the name of the draft
    have halike := readAlike_of hr (.object (Members.without ms "$schema"))
    refine ⟨fun c => ?_, fun focus c => ?_⟩
    · have hform := halike.form c
      simp only [Part.of] at hform ⊢
      rw [assemble_without] at hform
      rwa [hrest, assemble_without] at hform
    · have hcoverage := halike.coverage focus c
      simp only [Part.of] at hcoverage ⊢
      rw [coverAll_without] at hcoverage
      rwa [hrest, coverAll_without] at hcoverage

/-- Readers that follow the same number of references read twins the same way. -/
lemma following_mirrors (h : reg.Twin reg') (n : Nat) :
    (Reader.following reg n).Mirrors (Reader.following reg' n) := by
  induction n with
  | zero => exact ⟨h, fun _ _ _ _ => .pure _, fun _ _ _ _ _ => .pure _⟩
  | succ n ih =>
    exact ⟨h, fun v v' hv => (readAlike_twin ih hv).1, fun v v' hv => (readAlike_twin ih hv).2⟩

lemma reader_mirrors (h : reg.Twin reg') : reg.reader.Mirrors reg'.reader := by
  rw [Registry.reader, Registry.reader, h.size_eq]
  exact following_mirrors h _

end

/-! ## Linking -/

section

variable {α : Type} {x y : Compiling α} {r r' : Reader} {d d' : Deferred} {table : Table}

/-- Steps that mirror each other give the same at the start, or neither gives anything. -/
lemma Compiling.Mirrors.run_start (h : Mirrors x y) (h' : Mirrors y x) :
    (∃ a p p', x.run Progress.start = .ok (a, p) ∧ y.run Progress.start = .ok (a, p') ∧
        p.Twin p') ∨
      ∃ e e', x.run Progress.start = .error e ∧ y.run Progress.start = .error e' := by
  cases hx : x.run Progress.start with
  | ok ap =>
    obtain ⟨⟨a, p'⟩, hy, hfst, hp⟩ := h .start hx
    cases hfst
    exact .inl ⟨ap.1, ap.2, p', rfl, hy, hp⟩
  | error e =>
    cases hy : y.run Progress.start with
    | ok ap =>
      obtain ⟨ap', hx', -⟩ := h' .start hy
      cases hx.symm.trans hx'
    | error e' => exact .inr ⟨e, e', rfl, rfl⟩

lemma Table.has_eq (h : d.Twin d') : table.has d = table.has d' := by
  rw [h.rest]
  rfl

variable (hr : r.Mirrors r') (hr' : r'.Mirrors r)
include hr hr'

/-- What was put off at twins adds the same, and puts twins off in turn. -/
lemma Table.add_twin (table : Table) (h : d.Twin d') :
    (table.add r d).1 = (table.add r' d').1 ∧
      List.Forall₂ Deferred.Twin (table.add r d).2 (table.add r' d').2 := by
  have hfocus : d'.focus? = d.focus? := by rw [h.rest]
  have htarget : d'.target = d.target := by rw [h.rest]
  have hcontext : d'.context = d.context := by rw [h.rest]
  unfold Table.add
  rw [hfocus, htarget, hcontext]
  split
  · obtain ⟨a, p, p', hrun, hrun', hp⟩ | ⟨e, e', hrun, hrun'⟩ :=
      (hr.form h.contents d.context).run_start (hr'.form h.contents.symm d.context)
    · rw [hrun, hrun']
      exact ⟨rfl, hp.deferred⟩
    · rw [hrun, hrun']
      exact ⟨rfl, .nil⟩
  · obtain ⟨a, p, p', hrun, hrun', hp⟩ | ⟨e, e', hrun, hrun'⟩ :=
      (hr.coverage h.contents _ d.context).run_start
        (hr'.coverage h.contents.symm _ d.context)
    · rw [hrun, hrun']
      exact ⟨rfl, hp.deferred⟩
    · rw [hrun, hrun']
      exact ⟨rfl, .nil⟩

/-- What was put off at twins is completed to the same table. -/
lemma Table.complete_eq {ds ds' : List Deferred} (h : List.Forall₂ Deferred.Twin ds ds')
    (fuel : Nat) : Table.complete r fuel table ds = Table.complete r' fuel table ds' := by
  induction fuel generalizing table ds ds' with
  | zero => rfl
  | succ fuel ih =>
    cases h with
    | nil => rfl
    | @cons d d' ds ds' hd hds =>
      rw [Table.complete, Table.complete, ← Table.has_eq hd]
      split
      · exact ih hds
      · obtain ⟨htable, hlater⟩ := Table.add_twin hr hr' table hd
        dsimp only
        rw [← htable]
        exact ih (List.rel_append hlater hds)

end

/-- Twins in twin registries are linked to the same. -/
lemma link_eq_of_twin {reg reg' : Registry} (hreg : reg.Twin reg') (hreg' : reg'.Twin reg)
    {v v' : Value} (h : Twin v v') {id? : Option String} {c : Context} {s : Compiled}
    (hs : link reg id? c v = .ok s) : link reg' id? c v' = .ok s := by
  have hr := reader_mirrors hreg
  have hr' := reader_mirrors hreg'
  have hread : Mirrors
      (do (Part.of reg.reader v).form (← Compiling.lift (c.enterAs c.draft v)))
      (do (Part.of reg'.reader v').form (← Compiling.lift (c.enterAs c.draft v'))) := by
    rw [Context.enterAs, Context.enterAs, h.innerBase_eq]
    exact (Mirrors.lift _).bind (readAlike_twin hr h).1
  unfold link at hs ⊢
  dsimp only at hs ⊢
  rw [Registry.exploration, ← hreg.size_eq, ← Registry.exploration]
  split at hs
  case h_1 form p hrun =>
    cases hs
    obtain ⟨⟨form', p'⟩, hrun', hform, hp⟩ := hread .start hrun
    cases hform
    rw [hrun']
    dsimp only
    rw [Table.complete_eq hr hr' hp.deferred]
  case h_2 => cases hs

/-! ## Compiling -/

section

variable {ms ms' : Members} {supplied : List (String × Value)}

lemma Marked.namesDraft7 (h : Marked ms) : NamesDraft7 ms := by
  intro v hv
  obtain rfl : v = draft7Mark := h _ (Members.mem_of_get? hv) rfl
  exact ⟨_, rfl, rfl⟩

/-- The schema of draft 7 does not tell twins apart: it takes the name of the draft. -/
lemma flaw?_draft7_of_twin (h : Marked ms) (h' : Marked ms')
    (hrest : Members.without ms "$schema" = Members.without ms' "$schema")
    (hflaw : flaw? .draft7 (.object ms) = none) : flaw? .draft7 (.object ms') = none := by
  have htwin := Twin.marked h h' hrest
  rw [flaw?_eq_none_iff, Compiled.isValid] at hflaw ⊢
  rw [Compiled.reach, ← htwin.nesting_eq, ← Compiled.reach]
  generalize (metaSchema .draft7).reach (.object ms) = n at hflaw ⊢
  obtain hdefault | ⟨c, p, hc, hbase, hrun, -⟩ := metaSchema_draft7
  · rw [hdefault]
    rfl
  · obtain ⟨named, hroot, hnamed⟩ := ReadAs.draft7 ⟨c, _, p, hc, hbase, hrun⟩
    rw [hroot, draft7Form_holds, namedHold_iff] at hflaw ⊢
    intro m hm v hv
    by_cases hname : m.1 = "$schema"
    · -- the name of draft 7 is a URI, and no more is asked of it
      obtain ⟨w, hw, hread⟩ := hnamed m hm
      rw [hname] at hw hv
      cases get?_schema.symm.trans hw
      cases h' _ (Members.mem_of_get? hv) rfl
      exact (hread rfl rfl).uri_holds _ (by decide)
    · have hget : Members.get? ms m.1 = Members.get? ms' m.1 := htwin.get?_eq hname
      exact hflaw m hm v (hget ▸ hv)

/-- Twins stand at the same place, in twin registries. -/
lemma situate_of_twin (h : Marked ms) (h' : Marked ms')
    (hrest : Members.without ms "$schema" = Members.without ms' "$schema") :
    Carries (fun a b => a.1.Twin b.1 ∧ a.2 = b.2 ∧ a.2.draft = .draft7)
      (situate (.object ms) supplied) (situate (.object ms') supplied) := by
  have htwin := Twin.marked h h' hrest
  rw [situate_eq, situate_eq]
  generalize Registry.standard = start
  unfold Registry.situate
  rw [rootDraft_eq h.namesDraft7, rootDraft_eq h'.namesDraft7]
  refine Carries.bind (R := fun a b => a = .draft7 ∧ b = .draft7) (.ok ⟨rfl, rfl⟩) ?_
  rintro _ _ ⟨rfl, rfl⟩
  rw [htwin.identifier?_eq]
  split
  all_goals
    refine .bind_same fun base => (build_carries start base htwin supplied).bind ?_
    intro reg reg' hreg
    rw [hreg.vocabularies_eq htwin (.inl rfl)]
    exact .ok ⟨hreg, rfl, rfl⟩

/-- Twins in draft 7 are compiled to the same. -/
lemma compile_of_twin (h : Marked ms) (h' : Marked ms')
    (hrest : Members.without ms "$schema" = Members.without ms' "$schema") {s : Compiled}
    (hs : compile (.object ms) supplied = .ok s) : compile (.object ms') supplied = .ok s := by
  have htwin := Twin.marked h h' hrest
  have hid : (Value.object ms).get? "$id" = (Value.object ms').get? "$id" :=
    htwin.get?_eq (by decide)
  unfold compile at hs ⊢
  dsimp only at hs ⊢
  rw [← hid]
  split at hs
  case h_1 => cases hs
  case h_2 reg c hsituate =>
    obtain ⟨⟨reg', c'⟩, hsituate', hreg, hc, hdraft⟩ := situate_of_twin h h' hrest hsituate
    -- the registries are twins in both directions, as there is but one for each of the schemas
    obtain ⟨⟨reg₀, c₀⟩, hback, hreg', -⟩ := situate_of_twin h' h hrest.symm hsituate'
    cases hsituate.symm.trans hback
    cases hc
    rw [hsituate']
    split at hs
    case h_1 => cases hs
    case h_2 hflaw =>
      dsimp only at hdraft ⊢
      rw [hdraft] at hflaw ⊢
      rw [flaw?_draft7_of_twin h h' hrest hflaw]
      split at hs
      case h_1 hlink =>
        cases hs
        rw [link_eq_of_twin hreg hreg' htwin hlink]
      case h_2 => cases hs

end

/-! ## The default draft -/

/-- A schema that is made to name draft 7. -/
def namingDraft7 (ms : Members) : Value := .object (Members.insert ms "$schema" draft7Mark)

/-- A schema that names no draft is compiled to the same as the one that names draft 7. -/
lemma compile_namingDraft7_iff {ms : Members} (h : Members.get? ms "$schema" = none)
    (supplied : List (String × Value)) (s : Compiled) :
    compile (namingDraft7 ms) supplied = .ok s ↔ compile (.object ms) supplied = .ok s := by
  have hms : Marked ms := by
    intro m hm hname
    obtain ⟨v, hv⟩ := Members.exists_get?_of_mem hm
    rw [hname, h] at hv
    cases hv
  have hnaming : Marked (Members.insert ms "$schema" draft7Mark) := by
    intro m hm hname
    obtain rfl | hm := Members.mem_insert hm
    · rfl
    · exact hms m hm hname
  have hrest := Members.without_insert ms "$schema" draft7Mark
  exact ⟨compile_of_twin hnaming hms hrest, compile_of_twin hms hnaming hrest.symm⟩

/-- Draft 7 is the default. A schema that names no draft, and the one that names draft 7 but is the
same otherwise, can both be compiled or neither, and they find the same violations, in the same
order, in every document. -/
theorem draft7_by_default {ms : Members} (h : Members.get? ms "$schema" = none)
    (supplied : List (String × Value)) :
    ((∃ s, compile (.object ms) supplied = .ok s) ↔
        ∃ s, compile (namingDraft7 ms) supplied = .ok s) ∧
      ∀ s s', compile (.object ms) supplied = .ok s →
        compile (namingDraft7 ms) supplied = .ok s' →
          ∀ d, s.evaluate d = s'.evaluate d ∧ s.isValid d = s'.isValid d := by
  refine ⟨exists_congr fun s => (compile_namingDraft7_iff h supplied s).symm, ?_⟩
  intro s s' hs hs' d
  cases hs.symm.trans ((compile_namingDraft7_iff h supplied s').mp hs')
  exact ⟨rfl, rfl⟩

/-- A keyword of a later draft says nothing, whether draft 7 is named or not. -/
theorem draft7_by_default_prefixItems :
    ∃ s s', compile (.object [("prefixItems", .array [.bool false])]) [] = .ok s ∧
      compile (namingDraft7 [("prefixItems", .array [.bool false])]) [] = .ok s' ∧
        ∀ d, s.evaluate d = s'.evaluate d ∧ s.isValid d = s'.isValid d := by
  let ms : Members := [("prefixItems", .array [.bool false])]
  have hisolated : Isolated (.object ms) := .intro (by decide) (List.forall_mem_nil _)
  have htaken : TakenAsMember "prefixItems" (.array [.bool false]) := by
    have hnone : Members.get? MetaSchema.draft7Properties "prefixItems" = none :=
      ((Members.gathers_ofList _).get?_eq "prefixItems").trans rfl
    intro w hw
    cases hnone.symm.trans hw
  have hflaw : flaw? .draft7 (.object ms) = none :=
    flaw?_draft7_of_members (List.forall_mem_singleton.mpr htaken)
  have hcompile : compile (.object ms) [] = .ok _ := hisolated.compile_eq_ok hflaw fun _ => rfl
  have hnone : Members.get? ms "$schema" = none := rfl
  obtain ⟨hiff, hsame⟩ := draft7_by_default hnone []
  obtain ⟨s', hs'⟩ := hiff.mp ⟨_, hcompile⟩
  exact ⟨_, s', hcompile, hs', hsame _ s' hcompile hs'⟩

end AgentManifest.Schema
