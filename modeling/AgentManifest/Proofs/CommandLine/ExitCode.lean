import AgentManifest.CommandLine.Run
import AgentManifest.Proofs.Manifest.Load
import AgentManifest.Proofs.Report.Outcome

/-!
# Exit codes

A run whose set-up succeeds returns 2 if some file that it checks gives no document, 1 if there is
no such file or some document breaks the schema, and 0 otherwise. The options that shape the report,
and the thresholds of the checks that follow the schema, have no part in it.
-/

namespace AgentManifest.CommandLine

open Files (Path Tree)
open Report (Outcome Summary)
open Manifest (Gives)

variable {color : Bool} {files : Tree} {r : Request} {s : Schema.Compiled} {v : Validator}
variable {p : Path} {d : Json.Value}

/-! ## Set-up -/

/-- A request names a schema: the one in its file, if it has one, else the one that is built in. -/
def Request.HasSchema (files : Tree) (r : Request) (s : Schema.Compiled) : Prop :=
  match r.schema? with
  | some path => Schema.compileFile files path = .ok s
  | none => s = Schema.builtin

/-- A request names no configuration, or one that can be loaded. -/
def Request.HasConfig (files : Tree) (r : Request) : Prop :=
  ∀ path, r.config? = some path → ∃ config, Lint.Config.ofFile files path = .ok config

/-- What a request names is there. -/
structure SetUp (files : Tree) (r : Request) (s : Schema.Compiled) : Prop where
  schema : r.HasSchema files s
  config : r.HasConfig files
  target : ∃ entry, files.resolve r.target = .ok entry

/-- The files that a run checks. -/
def checkedFiles (files : Tree) (r : Request) : List Path :=
  match files.directory? r.target with
  | some _ => files.manifests r.target r.recursive
  | none => [r.target]

/-- The validator of a request holds the schema that the request names. -/
lemma validator_of_schema (hs : r.HasSchema files s) (hc : r.HasConfig files) :
    ∃ v, validator files r = .ok v ∧ v.schema = s := by
  have hschema : ∃ config, validator files r = .ok { schema := s, config } := by
    unfold Request.HasSchema at hs
    cases hr : r.schema? with
    | none =>
      rw [hr] at hs
      subst hs
      cases hrc : r.config? with
      | none => exact ⟨{}, by simp only [validator, hr, hrc]⟩
      | some path =>
        obtain ⟨config, hconfig⟩ := hc path hrc
        exact ⟨config, by simp only [validator, hr, hrc, hconfig]⟩
    | some schemaPath =>
      rw [hr] at hs
      cases hrc : r.config? with
      | none => exact ⟨{}, by simp only [validator, hr, hs, hrc]⟩
      | some path =>
        obtain ⟨config, hconfig⟩ := hc path hrc
        exact ⟨config, by simp only [validator, hr, hs, hrc, hconfig]⟩
  obtain ⟨config, hconfig⟩ := hschema
  exact ⟨_, hconfig, rfl⟩

/-! ## One file -/

/-- The verdict on a document is favourable exactly if the schema finds nothing wrong with it. -/
lemma validate_isValid_iff (bestPractices : Bool) (size? : Option Nat) :
    (v.validate bestPractices d size?).isValid = true ↔ v.schema.evaluate d = [] := by
  unfold Validator.validate
  cases v.schema.evaluate d with
  | nil => simp [Report.Verdict.valid]
  | cons violation violations => simp [Report.Verdict.invalid]

/-- The outcome for a file that gives a document is the verdict of the schema on it. -/
lemma check_of_gives (h : Gives files p d) :
    (check v files r p).isFailure = false ∧
      ((check v files r p).isValid = true ↔ v.schema.evaluate d = []) := by
  obtain ⟨loaded, hl, rfl⟩ := Manifest.load_ok_iff.mpr h
  rw [← validate_isValid_iff r.bestPractices (some loaded.size)]
  simp only [check, Validator.validateFile, hl]
  cases r.quiet <;> exact ⟨rfl, Iff.rfl⟩

/-- The outcome for any other file is a failure. -/
lemma check_of_not_gives (h : ¬∃ d, Gives files p d) : (check v files r p).isFailure = true := by
  obtain ⟨e, he⟩ := Manifest.load_error_iff.mpr h
  have hv : v.validateFile r.bestPractices files p = .error e := by
    simp only [Validator.validateFile, he]
  simp only [check, hv, Outcome.ofLoadError]
  cases e.failure <;> rfl

lemma check_isFailure_iff :
    (check v files r p).isFailure = true ↔ ¬∃ d, Gives files p d := by
  constructor
  · rintro h ⟨d, hd⟩
    rw [(check_of_gives hd).1] at h
    cases h
  · exact check_of_not_gives

lemma check_isValid_iff :
    (check v files r p).isValid = true ↔ ∃ d, Gives files p d ∧ v.schema.evaluate d = [] := by
  constructor
  · intro h
    by_cases hd : ∃ d, Gives files p d
    · obtain ⟨d, hd⟩ := hd
      exact ⟨d, hd, (check_of_gives hd).2.mp h⟩
    · have hf := check_of_not_gives (v := v) (r := r) hd
      rw [Outcome.isFailure_of_isValid h] at hf
      cases hf
  · rintro ⟨d, hd, hs⟩
    exact (check_of_gives hd).2.mpr hs

lemma check_not_isValid_iff (h : ∃ d, Gives files p d) :
    (check v files r p).isValid = false ↔ ∃ d, Gives files p d ∧ v.schema.evaluate d ≠ [] := by
  obtain ⟨d, hd⟩ := h
  rw [← Bool.not_eq_true, (check_of_gives hd).2]
  constructor
  · intro hs
    exact ⟨d, hd, hs⟩
  · rintro ⟨d', hd', hs⟩
    rwa [hd.unique hd']

/-! ## All files -/

/-- What the code of a run says about the files that it checks. -/
structure Tells (files : Tree) (s : Schema.Compiled) (ps : List Path) (code : Nat) : Prop where
  le_two : code ≤ 2
  eq_two_iff : code = 2 ↔ ∃ p ∈ ps, ¬∃ d, Gives files p d
  eq_one_iff : code = 1 ↔ (∀ p ∈ ps, ∃ d, Gives files p d) ∧
    (ps = [] ∨ ∃ p ∈ ps, ∃ d, Gives files p d ∧ s.evaluate d ≠ [])
  eq_zero_iff : code = 0 ↔ ps ≠ [] ∧ ∀ p ∈ ps, ∃ d, Gives files p d ∧ s.evaluate d = []

/-- A run over no files tells that there are none. -/
lemma Tells.none : Tells files s [] 1 where
  le_two := by decide
  eq_two_iff := by simp
  eq_one_iff := by simp
  eq_zero_iff := by simp

/-- The counts of a run over some files tell what the files give. -/
lemma tells_of_summary {ps : List Path} (hps : ps ≠ []) :
    Tells files v.schema ps (Summary.ofOutcomes (ps.map (check v files r))).exitCode where
  le_two := Summary.exitCode_le_two _
  eq_two_iff := by
    rw [Summary.exitCode_eq_two_iff]
    constructor
    · rintro ⟨o, ho, hf⟩
      obtain ⟨p, hp, rfl⟩ := List.mem_map.mp ho
      exact ⟨p, hp, check_isFailure_iff.mp hf⟩
    · rintro ⟨p, hp, hd⟩
      exact ⟨_, List.mem_map_of_mem hp, check_of_not_gives hd⟩
  eq_one_iff := by
    have hgives : (∀ o ∈ ps.map (check v files r), o.isFailure = false) ↔
        ∀ p ∈ ps, ∃ d, Gives files p d := by
      simp only [List.forall_mem_map, ← Bool.not_eq_true, check_isFailure_iff, Classical.not_not]
    rw [Summary.exitCode_eq_one_iff, hgives]
    refine and_congr_right fun hall => ⟨?_, ?_⟩
    · rintro ⟨o, ho, hv⟩
      obtain ⟨p, hp, rfl⟩ := List.mem_map.mp ho
      exact .inr ⟨p, hp, (check_not_isValid_iff (hall p hp)).mp hv⟩
    · rintro (hnil | ⟨p, hp, hd⟩)
      · exact absurd hnil hps
      · exact ⟨_, List.mem_map_of_mem hp, (check_not_isValid_iff (hall p hp)).mpr hd⟩
  eq_zero_iff := by
    rw [Summary.exitCode_eq_zero_iff]
    simp only [List.forall_mem_map, check_isValid_iff]
    exact (and_iff_right hps).symm

/-- The code says the same of the same files. -/
lemma Tells.unique {ps : List Path} {code code' : Nat} (h : Tells files s ps code)
    (h' : Tells files s ps code') : code = code' := by
  have htwo : code = 2 ↔ code' = 2 := h.eq_two_iff.trans h'.eq_two_iff.symm
  have hone : code = 1 ↔ code' = 1 := h.eq_one_iff.trans h'.eq_one_iff.symm
  have hle := h.le_two
  have hle' := h'.le_two
  omega

/-- A run whose set-up succeeds has a result, whose code tells what the files give. -/
lemma run_tells (color : Bool) (h : SetUp files r s) :
    ∃ result, run color files r = .ok result ∧
      Tells files s (checkedFiles files r) result.code := by
  obtain ⟨v, hv, rfl⟩ := validator_of_schema h.schema h.config
  obtain ⟨entry, hentry⟩ := h.target
  -- whatever is no directory is checked by itself
  have hfile (hd : files.directory? r.target = none) :
      Tells files v.schema (checkedFiles files r)
        (reportFile color r (check v files r r.target)).code := by
    simp only [checkedFiles, hd]
    exact tells_of_summary (List.cons_ne_nil r.target [])
  cases entry with
  | file contents =>
    refine ⟨_, by simp only [run, hv, hentry], hfile ?_⟩
    simp only [Tree.directory?, hentry]
  | link target =>
    refine ⟨_, by simp only [run, hv, hentry], hfile ?_⟩
    simp only [Tree.directory?, hentry]
  | directory entries =>
    refine ⟨reportDirectory color r
      ((files.manifests r.target r.recursive).map (check v files r)), ?_, ?_⟩
    · simp only [run, hv, hentry]
    have hd : files.directory? r.target = some entries := by simp only [Tree.directory?, hentry]
    simp only [checkedFiles, hd, reportDirectory]
    cases hps : files.manifests r.target r.recursive with
    | nil => exact Tells.none
    | cons p ps => exact tells_of_summary (List.cons_ne_nil p ps)

/-- The exit code of a run whose set-up succeeds: 2 if some checked file gives no document, else 1
if no file is checked or some document breaks the schema, else 0. It stays the same in any colour,
and for every other request with the same target, depth and schema. -/
theorem run_code (color : Bool) (h : SetUp files r s) :
    ∃ result, run color files r = .ok result ∧
      (result.code = 2 ↔ ∃ p ∈ checkedFiles files r, ¬∃ d, Gives files p d) ∧
      (result.code = 1 ↔ (∀ p ∈ checkedFiles files r, ∃ d, Gives files p d) ∧
        (checkedFiles files r = [] ∨
          ∃ p ∈ checkedFiles files r, ∃ d, Gives files p d ∧ s.evaluate d ≠ [])) ∧
      (result.code = 0 ↔ checkedFiles files r ≠ [] ∧
        ∀ p ∈ checkedFiles files r, ∃ d, Gives files p d ∧ s.evaluate d = []) ∧
      ∀ (color' : Bool) (r' : Request), r'.target = r.target → r'.recursive = r.recursive →
        r'.schema? = r.schema? → r'.HasConfig files →
        ∃ result', run color' files r' = .ok result' ∧ result'.code = result.code := by
  obtain ⟨result, hrun, htells⟩ := run_tells color h
  refine ⟨result, hrun, htells.eq_two_iff, htells.eq_one_iff, htells.eq_zero_iff, ?_⟩
  intro color' r' htarget hrecursive hschema hconfig
  -- the other request has the same schema, and it checks the same files
  have h' : SetUp files r' s := by
    refine ⟨?_, hconfig, ?_⟩
    · unfold Request.HasSchema
      rw [hschema]
      exact h.schema
    · rw [htarget]
      exact h.target
  have hfiles : checkedFiles files r' = checkedFiles files r := by
    simp only [checkedFiles, htarget, hrecursive]
  obtain ⟨result', hrun', htells'⟩ := run_tells color' h'
  rw [hfiles] at htells'
  exact ⟨result', hrun', htells'.unique htells⟩

/-- A working directory with one manifest, which holds a byte that is no text. -/
def garbled : Tree :=
  { root := [([0x77], .directory [(Text.encode "llm.json".toList, .file [0xFF])])]
    here := [[0x77]] }

theorem run_code_garbled :
    SetUp garbled { target := Path.ofString "." } Schema.builtin ∧
      ∃ result, run true garbled { target := Path.ofString "." } = .ok result ∧
        result.code = 2 := by
  have hsetUp : SetUp garbled { target := Path.ofString "." } Schema.builtin :=
    ⟨rfl, nofun, ⟨_, rfl⟩⟩
  obtain ⟨result, hrun, htwo, -⟩ := run_code true hsetUp
  refine ⟨hsetUp, result, hrun, htwo.mpr ⟨Path.ofString "./llm.json", ?_, ?_⟩⟩
  · have hd : garbled.directory? (Path.ofString ".") =
        some [(Text.encode "llm.json".toList, .file [0xFF])] := rfl
    have hname :
        Files.isManifestName (Text.decodeLossy (Text.encode "llm.json".toList)) = true := by
      decide
    simp only [checkedFiles, hd, Tree.manifests, Files.manifestsIn, hname, if_true,
      List.mergeSort_singleton, List.mem_singleton]
    decide
  · rintro ⟨d, text, hread, -⟩
    have hbytes : garbled.read (Path.ofString "./llm.json") = .ok [0xFF] := rfl
    have htext := Text.decode?_eq_some_iff.mpr (Except.ok.inj (hbytes.symm.trans hread))
    cases htext

end AgentManifest.CommandLine
