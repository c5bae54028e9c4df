import AgentManifest.Report.Document
import AgentManifest.Proofs.Report.Outcome

/-!
# Reports put together

The report for programs on several files is made of the reports on each: it is favourable if they
all are, has their files one after the other, and the sums of their counts.
-/

namespace AgentManifest.Report

open Json (Value)

/-- What a report for programs says. -/
structure Sheet where
  valid : Bool
  files : List Value
  summary : Summary

namespace Sheet

/-- What a report says as JSON. -/
def toJson (s : Sheet) : Value :=
  .object [("valid", .bool s.valid), ("files", .array s.files), ("summary", s.summary.toJson)]

/-- The text of a report. -/
def text (s : Sheet) : String := s.toJson.pretty ++ "\n"

/-- One report made of several. -/
def concat (sheets : List Sheet) : Sheet :=
  { valid := sheets.all valid
    files := sheets.flatMap files
    summary := .sum (sheets.map summary) }

/-- What is reported on some outcomes. -/
def ofOutcomes (outcomes : List Outcome) : Sheet :=
  let summary := Summary.ofOutcomes outcomes
  { valid := decide (0 < summary.total) && summary.valid == summary.total
    files := outcomes.map Outcome.toJson
    summary }

lemma documentText_eq (outcomes : List Outcome) :
    documentText outcomes = (ofOutcomes outcomes).text := rfl

lemma ofOutcomes_valid {outcomes : List Outcome} (hne : outcomes ≠ []) :
    (ofOutcomes outcomes).valid = outcomes.all Outcome.isValid := by
  have hpos : 0 < outcomes.length := List.length_pos_iff.mpr hne
  have hall : outcomes.countP Outcome.isValid = outcomes.length ↔
      outcomes.all Outcome.isValid = true := by
    rw [List.countP_eq_length, List.all_eq_true]
  rw [Bool.eq_iff_iff, ← hall]
  simp [ofOutcomes, Summary.ofOutcomes, hpos]

/-- The report on at least one outcome is made of those on each. -/
theorem ofOutcomes_eq_concat {outcomes : List Outcome} (hne : outcomes ≠ []) :
    ofOutcomes outcomes = concat (outcomes.map fun o => ofOutcomes [o]) := by
  have hvalid : (ofOutcomes outcomes).valid =
      (outcomes.map fun o => ofOutcomes [o]).all valid := by
    rw [ofOutcomes_valid hne, List.all_map]
    congr 1
    funext o
    simp [ofOutcomes_valid (List.cons_ne_nil o [])]
  have hfiles : (ofOutcomes outcomes).files =
      (outcomes.map fun o => ofOutcomes [o]).flatMap files := by
    rw [List.flatMap_map]
    exact List.map_eq_flatMap
  have hsummary : (ofOutcomes outcomes).summary =
      .sum ((outcomes.map fun o => ofOutcomes [o]).map summary) := by
    rw [List.map_map]
    exact Summary.ofOutcomes_eq_sum outcomes
  rw [Sheet.mk.injEq]
  exact ⟨hvalid, hfiles, hsummary⟩

end Sheet
end AgentManifest.Report
