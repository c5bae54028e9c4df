import Mathlib.Algebra.GroupWithZero.Nat
import AgentManifest.Report.Outcome

/-!
# Counting outcomes

The exit code of a run is that of its worst outcome, in whatever order the outcomes come.
-/

namespace AgentManifest.Report

namespace Outcome

/-- Whether the file holds a manifest that breaks its schema. -/
def isInvalid (o : Outcome) : Bool := !o.isFailure && !o.isValid

lemma isFailure_of_isValid {o : Outcome} (h : o.isValid = true) : o.isFailure = false := by
  cases o with
  | checked => rfl
  | unread => cases h
  | malformed => cases h

lemma isInvalid_iff {o : Outcome} :
    o.isInvalid = true ↔ o.isFailure = false ∧ o.isValid = false := by
  simp [isInvalid]

end Outcome

namespace Summary

variable {outcomes : List Outcome}

lemma exitCode_ofOutcomes (outcomes : List Outcome) :
    (ofOutcomes outcomes).exitCode =
      if outcomes.any Outcome.isFailure then 2
      else if outcomes.any Outcome.isInvalid then 1 else 0 := by
  have hf : 0 < outcomes.countP Outcome.isFailure ↔ outcomes.any Outcome.isFailure = true := by
    rw [List.countP_pos_iff, List.any_eq_true]
  have hi : 0 < outcomes.countP Outcome.isInvalid ↔ outcomes.any Outcome.isInvalid = true := by
    rw [List.countP_pos_iff, List.any_eq_true]
  have hcode : (ofOutcomes outcomes).exitCode =
      if 0 < outcomes.countP Outcome.isFailure then 2
      else if 0 < outcomes.countP Outcome.isInvalid then 1 else 0 := rfl
  simp only [hcode, hf, hi]

lemma exitCode_le_two (s : Summary) : s.exitCode ≤ 2 := by
  unfold exitCode
  split
  · exact Nat.le_refl 2
  · split <;> decide

/-- The code is 2 exactly if some file gives no manifest. -/
lemma exitCode_eq_two_iff :
    (ofOutcomes outcomes).exitCode = 2 ↔ ∃ o ∈ outcomes, o.isFailure = true := by
  rw [exitCode_ofOutcomes, ← List.any_eq_true]
  cases outcomes.any Outcome.isFailure with
  | true => simp
  | false => cases outcomes.any Outcome.isInvalid <;> simp

/-- The code is 1 exactly if every file gives a manifest, and some manifest breaks its schema. -/
lemma exitCode_eq_one_iff :
    (ofOutcomes outcomes).exitCode = 1 ↔
      (∀ o ∈ outcomes, o.isFailure = false) ∧ ∃ o ∈ outcomes, o.isValid = false := by
  have hf : (∀ o ∈ outcomes, o.isFailure = false) ↔ outcomes.any Outcome.isFailure = false := by
    simp
  -- where every file gives a manifest, those that are not valid break their schema
  have hi : outcomes.any Outcome.isFailure = false →
      ((∃ o ∈ outcomes, o.isValid = false) ↔ outcomes.any Outcome.isInvalid = true) := by
    intro h
    rw [List.any_eq_true]
    constructor
    · rintro ⟨o, ho, hv⟩
      exact ⟨o, ho, Outcome.isInvalid_iff.mpr ⟨hf.mpr h o ho, hv⟩⟩
    · rintro ⟨o, ho, hv⟩
      exact ⟨o, ho, (Outcome.isInvalid_iff.mp hv).2⟩
  rw [exitCode_ofOutcomes, hf]
  cases h : outcomes.any Outcome.isFailure with
  | true => simp
  | false =>
    rw [hi h]
    cases outcomes.any Outcome.isInvalid <;> simp

/-- The code is 0 exactly if every file holds a valid manifest. -/
lemma exitCode_eq_zero_iff :
    (ofOutcomes outcomes).exitCode = 0 ↔ ∀ o ∈ outcomes, o.isValid = true := by
  rw [exitCode_ofOutcomes]
  constructor
  · intro h o ho
    by_cases hf : outcomes.any Outcome.isFailure = true
    · simp [hf] at h
    · by_cases hi : outcomes.any Outcome.isInvalid = true
      · simp [hf, hi] at h
      · rw [List.any_eq_true] at hf hi
        cases hv : o.isValid with
        | true => rfl
        | false =>
          have hfo : o.isFailure = false := by
            cases hfo : o.isFailure with
            | true => exact absurd ⟨o, ho, hfo⟩ hf
            | false => rfl
          exact absurd ⟨o, ho, Outcome.isInvalid_iff.mpr ⟨hfo, hv⟩⟩ hi
  · intro h
    have hf : outcomes.any Outcome.isFailure = false := by
      rw [List.any_eq_false]
      intro o ho
      simp [Outcome.isFailure_of_isValid (h o ho)]
    have hi : outcomes.any Outcome.isInvalid = false := by
      rw [List.any_eq_false]
      intro o ho
      simp [Outcome.isInvalid, h o ho]
    simp [hf, hi]

/-- The code of a run is the largest that one of its files has. -/
lemma exitCode_cons (o : Outcome) :
    (ofOutcomes (o :: outcomes)).exitCode =
      max (ofOutcomes [o]).exitCode (ofOutcomes outcomes).exitCode := by
  simp only [exitCode_ofOutcomes, List.any_cons, List.any_nil, Bool.or_false]
  by_cases hf : outcomes.any Outcome.isFailure = true <;>
    by_cases hi : outcomes.any Outcome.isInvalid = true <;>
    by_cases hof : o.isFailure = true <;> by_cases hoi : o.isInvalid = true <;>
    simp [hf, hi, hof, hoi]

/-- The code of a run over at least one file is the code of some file alone, and of none a larger
one. -/
lemma exitCode_max? (hne : outcomes ≠ []) :
    (outcomes.map fun o => (ofOutcomes [o]).exitCode).max? =
      some (ofOutcomes outcomes).exitCode := by
  induction outcomes with
  | nil => exact absurd rfl hne
  | cons o outcomes ih =>
    cases outcomes with
    | nil => rfl
    | cons o' outcomes =>
      rw [List.map_cons, List.max?_cons, ih (List.cons_ne_nil _ _)]
      exact congrArg some (exitCode_cons o).symm

/-- The counts of files by the codes of runs on each of them. -/
def ofCodes (codes : List Nat) : Summary :=
  { total := codes.length, valid := codes.count 0, invalid := codes.count 1,
    failed := codes.count 2 }

/-- The code of a run on one file says of what kind the file is. -/
lemma ofOutcomes_eq_ofCodes (outcomes : List Outcome) :
    ofOutcomes outcomes = ofCodes (outcomes.map fun o => (ofOutcomes [o]).exitCode) := by
  have hvalid (o : Outcome) : ((ofOutcomes [o]).exitCode == 0) = o.isValid := by
    rw [Bool.eq_iff_iff, beq_iff_eq, exitCode_eq_zero_iff, List.forall_mem_singleton]
  have hinvalid (o : Outcome) : ((ofOutcomes [o]).exitCode == 1) = o.isInvalid := by
    rw [Bool.eq_iff_iff, beq_iff_eq, exitCode_eq_one_iff, Outcome.isInvalid_iff]
    simp
  have hfailed (o : Outcome) : ((ofOutcomes [o]).exitCode == 2) = o.isFailure := by
    rw [Bool.eq_iff_iff, beq_iff_eq, exitCode_eq_two_iff]
    simp
  unfold ofCodes List.count
  simp only [List.countP_map, List.length_map, Function.comp_def, hvalid, hinvalid, hfailed]
  rfl

/-- The sums of some counts. -/
def sum (summaries : List Summary) : Summary :=
  { total := (summaries.map total).sum, valid := (summaries.map valid).sum,
    invalid := (summaries.map invalid).sum, failed := (summaries.map failed).sum }

lemma countP_eq_sum (kind : Outcome → Bool) (outcomes : List Outcome) :
    outcomes.countP kind = (outcomes.map fun o => [o].countP kind).sum := by
  induction outcomes with
  | nil => rfl
  | cons o outcomes ih =>
    rw [List.map_cons, List.sum_cons, ← ih, ← List.singleton_append, List.countP_append]

/-- The counts of some files are the sums of the counts of each. -/
lemma ofOutcomes_eq_sum (outcomes : List Outcome) :
    ofOutcomes outcomes = sum (outcomes.map fun o => ofOutcomes [o]) := by
  have htotal : outcomes.length = (outcomes.map fun o => [o].length).sum := by
    have htrue := countP_eq_sum (fun _ => true) outcomes
    rwa [List.countP_true] at htrue
  have hvalid := countP_eq_sum Outcome.isValid outcomes
  have hinvalid := countP_eq_sum Outcome.isInvalid outcomes
  have hfailed := countP_eq_sum Outcome.isFailure outcomes
  simp only [sum, List.map_map, Summary.mk.injEq, ofOutcomes]
  exact ⟨htotal, hvalid, hinvalid, hfailed⟩

end Summary
end AgentManifest.Report
