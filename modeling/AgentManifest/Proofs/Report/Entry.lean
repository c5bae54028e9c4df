import Mathlib.Logic.ExistsUnique
import AgentManifest.Proofs.Report.Document

/-!
# Entries of a report

What a report for programs says of a file is one of three things: the file holds a manifest that
satisfies its schema, or one that breaks it, or no manifest. The counts of the report are counts of
its entries.
-/

namespace AgentManifest.Report

open Json (Value)

/-! ## Verdicts -/

namespace Verdict

/-- A manifest has errors exactly if it is not valid, and advice only if it is. -/
structure Sound (v : Verdict) : Prop where
  isValid_iff : v.isValid = true ↔ v.errors = []
  warnings_eq_nil : v.isValid = false → v.warnings = []

lemma sound_valid (warnings : List Warning) : (valid warnings).Sound where
  isValid_iff := by simp [valid]
  warnings_eq_nil := nofun

lemma sound_invalid (errors : List Violation) : (invalid errors).Sound where
  isValid_iff := List.isEmpty_iff
  warnings_eq_nil := fun _ => rfl

lemma Sound.clearWarnings {v : Verdict} (h : v.Sound) : v.clearWarnings.Sound where
  isValid_iff := h.isValid_iff
  warnings_eq_nil := fun _ => rfl

end Verdict

/-- The verdict in an outcome, if there is one, is sound. -/
def Outcome.Sound : Outcome → Prop
  | .checked _ verdict => verdict.Sound
  | _ => True

/-! ## Entries -/

/-- What may be said of a file. -/
inductive Standing where
  | valid
  | invalid
  | failed
  deriving DecidableEq

/-- What an entry says of its file. -/
def Standing.Shown (entry : Value) : Standing → Prop
  | .valid =>
    entry.get? "valid" = some (.bool true) ∧ entry.get? "errors" = some (.array []) ∧
      entry.get? "failure" = none
  | .invalid =>
    entry.get? "valid" = some (.bool false) ∧
      (∃ error errors, entry.get? "errors" = some (.array (error :: errors))) ∧
      entry.get? "warnings" = some (.array []) ∧ entry.get? "failure" = none
  | .failed =>
    entry.get? "valid" = some (.bool false) ∧ entry.get? "errors" = some (.array []) ∧
      entry.get? "warnings" = some (.array []) ∧ ∃ failure, entry.get? "failure" = some failure

/-- An entry says no more than one thing. -/
lemma Standing.Shown.unique {entry : Value} {a b : Standing} (ha : Shown entry a)
    (hb : Shown entry b) : a = b := by
  cases a <;> cases b <;> first | rfl | simp_all [Shown]

/-- Whether an entry says that its file is valid. -/
def entryValid (entry : Value) : Bool :=
  match entry.get? "valid" with
  | some (.bool b) => b
  | _ => false

/-- Whether an entry says why its file gives no manifest. -/
def entryFailed (entry : Value) : Bool := (entry.get? "failure").isSome

namespace Outcome

/-- What there is to say of a file. -/
def standing (o : Outcome) : Standing :=
  if o.isFailure then .failed else if o.isValid then .valid else .invalid

/-- The entry for an outcome says what there is to say. -/
lemma shown_toJson {o : Outcome} (h : o.Sound) : o.standing.Shown o.toJson := by
  cases o with
  | unread => exact ⟨rfl, rfl, rfl, _, rfl⟩
  | malformed => exact ⟨rfl, rfl, rfl, _, rfl⟩
  | checked path verdict =>
    cases hv : verdict.isValid with
    | true =>
      have herrors := h.isValid_iff.mp hv
      have hstanding : standing (.checked path verdict) = .valid := by
        simp [standing, isFailure, isValid, hv]
      rw [hstanding]
      refine ⟨?_, ?_, rfl⟩
      · rw [← hv]
        rfl
      · change some (Value.array (verdict.errors.map Violation.toJson)) = _
        rw [herrors, List.map_nil]
    | false =>
      have hwarnings := h.warnings_eq_nil hv
      have hstanding : standing (.checked path verdict) = .invalid := by
        simp [standing, isFailure, isValid, hv]
      rw [hstanding]
      cases herrors : verdict.errors with
      | nil =>
        rw [h.isValid_iff.mpr herrors] at hv
        cases hv
      | cons error errors =>
        refine ⟨?_, ⟨error.toJson, errors.map Violation.toJson, ?_⟩, ?_, rfl⟩
        · rw [← hv]
          rfl
        · change some (Value.array (verdict.errors.map Violation.toJson)) = _
          rw [herrors, List.map_cons]
        · change some (Value.array (verdict.warnings.map Warning.toJson)) = _
          rw [hwarnings, List.map_nil]

lemma entryValid_toJson (o : Outcome) : entryValid o.toJson = o.isValid := by
  cases o <;> rfl

lemma entryFailed_toJson (o : Outcome) : entryFailed o.toJson = o.isFailure := by
  cases o <;> rfl

end Outcome

/-! ## Counts -/

/-- Every file is of one kind. -/
lemma Summary.total_ofOutcomes (outcomes : List Outcome) :
    (ofOutcomes outcomes).total = (ofOutcomes outcomes).valid + (ofOutcomes outcomes).invalid +
      (ofOutcomes outcomes).failed := by
  induction outcomes with
  | nil => rfl
  | cons o outcomes ih =>
    have hone : (ofOutcomes [o]).total =
        (ofOutcomes [o]).valid + (ofOutcomes [o]).invalid + (ofOutcomes [o]).failed := by
      cases hf : o.isFailure <;> cases hv : o.isValid <;> simp [ofOutcomes, hf, hv]
      rw [Outcome.isFailure_of_isValid hv] at hf
      cases hf
    simp only [ofOutcomes, List.length_cons, List.countP_cons, List.countP_nil,
      List.length_nil] at hone ih ⊢
    omega

namespace Sheet

/-- The counts of a report are counts of its entries. -/
structure Adds (s : Sheet) : Prop where
  total_eq_length : s.summary.total = s.files.length
  total_eq_sum : s.summary.total = s.summary.valid + s.summary.invalid + s.summary.failed
  valid_eq : s.summary.valid = s.files.countP entryValid
  failed_eq : s.summary.failed = s.files.countP entryFailed

lemma adds_ofOutcomes (outcomes : List Outcome) : (ofOutcomes outcomes).Adds where
  total_eq_length := (List.length_map _).symm
  total_eq_sum := Summary.total_ofOutcomes outcomes
  valid_eq := by
    simp only [ofOutcomes, Summary.ofOutcomes, List.countP_map, Function.comp_def,
      Outcome.entryValid_toJson]
  failed_eq := by
    simp only [ofOutcomes, Summary.ofOutcomes, List.countP_map, Function.comp_def,
      Outcome.entryFailed_toJson]

/-- Every entry of a report says one thing of its file. -/
lemma existsUnique_shown {outcomes : List Outcome} (h : ∀ o ∈ outcomes, o.Sound) :
    ∀ entry ∈ (ofOutcomes outcomes).files, ∃! standing, Standing.Shown entry standing := by
  intro entry hentry
  obtain ⟨o, ho, rfl⟩ := List.mem_map.mp hentry
  have hshown := Outcome.shown_toJson (h o ho)
  exact ⟨o.standing, hshown, fun _ hother => hother.unique hshown⟩

end Sheet
end AgentManifest.Report
