import Mathlib.Data.List.Basic
import Mathlib.Tactic.Lemma
import AgentManifest.Lint.Checks

/-!
# Looser thresholds

Where the thresholds are looser there is no more advice. A warning that is still given was given
before, about the same place and with the same severity; its message may differ only where it names
a threshold or what was measured. If nothing but recommended sections is dropped, the warnings that
are left have not changed.
-/

namespace AgentManifest.Lint

open Json (Value)
open Report (Warning WarningKind Severity)

/-- Thresholds that are nowhere stricter than others. -/
structure Config.Looser (c' c : Config) : Prop where
  maxCodeLines : c.maxCodeLines ≤ c'.maxCodeLines
  maxFileSize : c.maxFileSize ≤ c'.maxFileSize
  minUsageExamples : c'.minUsageExamples ≤ c.minUsageExamples
  maxDecisionTreeDepth : c.maxDecisionTreeDepth ≤ c'.maxDecisionTreeDepth
  recommendedSections : c'.recommendedSections.Sublist c.recommendedSections

/-- What is warned of, where, and how much it matters. -/
def concern (w : Warning) : WarningKind × String × Severity := (w.kind, w.path, w.severity)

/-- The message of a warning, if it names no threshold. -/
def plainMessage? (w : Warning) : Option String :=
  if w.kind = .missingSection ∨ w.kind = .missingExample then some w.message else none

/-- The warnings of a manifest and of its size, in order. -/
def allWarnings (c : Config) (document : Value) (bytes : Nat) : List Warning :=
  check c document ++ (checkFileSize c bytes).toList

/-! ## Warnings that are left -/

/-- Some warnings are left of others: each has its concern, and the message if it names no
threshold, from one of these, in order. -/
def LeftOf (ws' ws : List Warning) : Prop :=
  (ws'.map fun w => (concern w, plainMessage? w)).Sublist
    (ws.map fun w => (concern w, plainMessage? w))

variable {c c' : Config} {ws ws' vs vs' : List Warning}

namespace LeftOf

lemma of_sublist (h : ws'.Sublist ws) : LeftOf ws' ws := h.map _

/-- No warning is left of any. -/
lemma nil (ws : List Warning) : LeftOf [] ws := of_sublist (List.nil_sublist ws)

/-- Two warnings about the same that name thresholds. -/
lemma single {w w' : Warning} (hkind : w'.kind = w.kind) (hpath : w'.path = w.path)
    (hseverity : w'.severity = w.severity) (hnames : w.kind ∉ [.missingSection, .missingExample]) :
    LeftOf [w'] [w] := by
  rw [List.mem_cons, List.mem_singleton] at hnames
  rw [LeftOf, List.map_singleton, List.map_singleton, concern, concern, plainMessage?,
    plainMessage?, hkind, hpath, hseverity, if_neg hnames, if_neg hnames]

lemma append (h : LeftOf ws' ws) (h' : LeftOf vs' vs) : LeftOf (ws' ++ vs') (ws ++ vs) := by
  rw [LeftOf, List.map_append, List.map_append]
  exact List.Sublist.append h h'

/-- What is left at each of some things is left of them all. -/
lemma flatMap {α : Type} {f f' : α → List Warning} (h : ∀ a, LeftOf (f' a) (f a)) (as : List α) :
    LeftOf (as.flatMap f') (as.flatMap f) := by
  induction as with
  | nil => exact nil _
  | cons a as ih =>
    rw [List.flatMap_cons, List.flatMap_cons]
    exact (h a).append ih

/-- What is left at each entry is left of the entries. -/
lemma checkEntries {check check' : Nat → Value → Option Warning}
    (h : ∀ i v, LeftOf (check' i v).toList (check i v).toList) (i : Nat) (vs : List Value) :
    LeftOf (Lint.checkEntries check' i vs) (Lint.checkEntries check i vs) := by
  induction vs generalizing i with
  | nil => exact nil _
  | cons v vs ih => exact (h i v).append (ih (i + 1))

end LeftOf

/-! ## Checks -/

lemma longCode?_leftOf (h : c.maxCodeLines ≤ c'.maxCodeLines) (field : String) (i : Nat)
    (entry : Value) :
    LeftOf (longCode? c' field i entry).toList (longCode? c field i entry).toList := by
  unfold longCode?
  split
  case h_1 => exact .nil _
  case h_2 code _ =>
    by_cases hlong' : lineCount code ≤ c'.maxCodeLines
    · rw [if_pos hlong']
      exact .nil _
    · have hlong : ¬lineCount code ≤ c.maxCodeLines := by omega
      rw [if_neg hlong', if_neg hlong]
      exact .single rfl rfl rfl (by simp)

lemma checkCodeLength_leftOf (h : c.maxCodeLines ≤ c'.maxCodeLines) (d : Value) :
    LeftOf (checkCodeLength c' d) (checkCodeLength c d) := by
  apply LeftOf.flatMap
  intro field
  split
  case h_1 entries _ => exact .checkEntries (longCode?_leftOf h field) 0 entries
  case h_2 => exact .nil _

/-- Sections that are no longer recommended are no longer missing. -/
lemma checkSections_sublist (h : c'.recommendedSections.Sublist c.recommendedSections) (d : Value) :
    (checkSections c' d).Sublist (checkSections c d) := (h.filter _).map _

lemma checkUsageExamples_leftOf (h : c'.minUsageExamples ≤ c.minUsageExamples) (d : Value) :
    LeftOf (checkUsageExamples c' d) (checkUsageExamples c d) := by
  unfold checkUsageExamples
  split
  case h_1 => exact .nil _
  case h_2 entries _ =>
    by_cases hfew' : c'.minUsageExamples ≤ entries.length
    · rw [if_pos hfew']
      exact .nil _
    · have hfew : ¬c.minUsageExamples ≤ entries.length := by omega
      rw [if_neg hfew', if_neg hfew]
      exact .single rfl rfl rfl (by simp)

lemma checkDecisionTree_leftOf (h : c.maxDecisionTreeDepth ≤ c'.maxDecisionTreeDepth) (d : Value) :
    LeftOf (checkDecisionTree c' d) (checkDecisionTree c d) := by
  unfold checkDecisionTree
  split
  case h_1 => exact .nil _
  case h_2 tree _ =>
    by_cases hdeep' : objectDepth tree ≤ c'.maxDecisionTreeDepth
    · rw [if_pos hdeep']
      exact .nil _
    · have hdeep : ¬objectDepth tree ≤ c.maxDecisionTreeDepth := by omega
      rw [if_neg hdeep', if_neg hdeep]
      exact .single rfl rfl rfl (by simp)

lemma checkFileSize_leftOf (h : c.maxFileSize ≤ c'.maxFileSize) (n : Nat) :
    LeftOf (checkFileSize c' n).toList (checkFileSize c n).toList := by
  unfold checkFileSize
  by_cases hlarge' : n ≤ c'.maxFileSize
  · rw [if_pos hlarge']
    exact .nil _
  · have hlarge : ¬n ≤ c.maxFileSize := by omega
    rw [if_neg hlarge', if_neg hlarge]
    exact .single rfl rfl rfl (by simp)

/-- Each check leaves no more than it gave under stricter thresholds. -/
lemma allWarnings_leftOf (h : c'.Looser c) (d : Value) (n : Nat) :
    LeftOf (allWarnings c' d n) (allWarnings c d n) := by
  have hcode := checkCodeLength_leftOf h.maxCodeLines d
  have hsections := LeftOf.of_sublist (checkSections_sublist h.recommendedSections d)
  have husage := checkUsageExamples_leftOf h.minUsageExamples d
  have herrors := LeftOf.of_sublist (List.Sublist.refl (checkErrorExamples d))
  have htree := checkDecisionTree_leftOf h.maxDecisionTreeDepth d
  have hsize := checkFileSize_leftOf h.maxFileSize n
  exact ((((hcode.append hsections).append husage).append herrors).append htree).append hsize

/-- Without some of the recommended sections, all other warnings are the same. -/
lemma allWarnings_sublist {names : List String} (h : names.Sublist c.recommendedSections)
    (d : Value) (n : Nat) :
    (allWarnings { c with recommendedSections := names } d n).Sublist (allWarnings c d n) := by
  have hsections : (checkSections { c with recommendedSections := names } d).Sublist
      (checkSections c d) := checkSections_sublist h d
  have hother (ws : List Warning) := List.Sublist.refl ws
  exact (((((hother (checkCodeLength c d)).append hsections).append
    (hother (checkUsageExamples c d))).append (hother (checkErrorExamples d))).append
    (hother (checkDecisionTree c d))).append (hother (checkFileSize c n).toList)

/-! ## All warnings -/

/-- Looser thresholds add no warning: what is warned of under them is, in order, part of what is
warned of under the stricter ones, and messages that name no threshold stay as they are. If only
recommended sections were dropped, the warnings themselves are part of the others. -/
theorem allWarnings_looser (h : c'.Looser c) (d : Value) (n : Nat) :
    ((allWarnings c' d n).map concern).Sublist ((allWarnings c d n).map concern) ∧
    ((allWarnings c' d n).map fun w => (concern w, plainMessage? w)).Sublist
      ((allWarnings c d n).map fun w => (concern w, plainMessage? w)) ∧
    (c' = { c with recommendedSections := c'.recommendedSections } →
      (allWarnings c' d n).Sublist (allWarnings c d n)) := by
  have hleft := allWarnings_leftOf h d n
  refine ⟨?_, hleft, fun heq => ?_⟩
  · have hconcern := List.Sublist.map Prod.fst hleft
    rwa [List.map_map, List.map_map] at hconcern
  · rw [heq]
    exact allWarnings_sublist h.recommendedSections d n

/-- Of two examples that are too long, too few examples and two sections that are missing, one
example and one section are left. -/
theorem allWarnings_looser_brief :
    let strict : Config :=
      { maxCodeLines := 0, minUsageExamples := 3, recommendedSections := ["notes", "errors"] }
    let loose : Config := { maxCodeLines := 1, recommendedSections := ["errors"] }
    let d : Value := .object [("quick_usage",
      .array [.object [("code", .string "a")], .object [("code", .string "a\nb")]])]
    loose.Looser strict ∧
      (allWarnings strict d 7).map concern =
        [(.codeLength, "quick_usage[0]", .minor), (.codeLength, "quick_usage[1]", .minor),
          (.missingSection, "/", .moderate), (.missingSection, "/", .moderate),
          (.insufficientExamples, "quick_usage", .minor)] ∧
      (allWarnings loose d 7).map concern =
        [(.codeLength, "quick_usage[1]", .minor), (.missingSection, "/", .moderate)] ∧
      ((allWarnings loose d 7).map concern).Sublist ((allWarnings strict d 7).map concern) := by
  intro strict loose d
  have h : loose.Looser strict :=
    ⟨by decide, by decide, by decide, by decide, by decide⟩
  exact ⟨h, by decide, by decide, (allWarnings_looser h d 7).1⟩

end AgentManifest.Lint
