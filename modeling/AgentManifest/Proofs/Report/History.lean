import Mathlib.Data.List.DropRight
import AgentManifest.Proofs.Report.Entry

/-!
# Histories of a verdict

A verdict is set up anew, gets warnings, and has them dropped, in any order and as often as one
likes. What it holds in the end can be read off the changes: the last one that set it up says which
errors there are, and the warnings of a valid one are those it was set up with, unless they have been
dropped since, followed by those that came after. Its JSON form shows just that.
-/

namespace AgentManifest.Report

open Json (Value)

/-- A change to a verdict. -/
inductive Change where
  /-- The verdict is set up without violations. -/
  | valid (warnings : List Warning)
  /-- The verdict is set up with violations, if there are any. -/
  | invalid (errors : List Violation)
  | push (w : Warning)
  | clear

/-- The verdict behind a change. -/
def Change.apply (v : Verdict) : Change → Verdict
  | .valid warnings => Verdict.valid warnings
  | .invalid errors => Verdict.invalid errors
  | .push w => v.push w
  | .clear => v.clearWarnings

/-- The verdict behind some changes. It starts without violations and warnings. -/
def Verdict.after (history : List Change) : Verdict :=
  history.foldl Change.apply (Verdict.valid [])

/-! ## Reading a history -/

namespace Change

/-- Whether a verdict is set up anew. -/
def replaces : Change → Bool
  | valid _ | invalid _ => true
  | push _ | clear => false

/-- Whether warnings are dropped. -/
def clears : Change → Bool
  | clear => true
  | _ => false

/-- The violations that a verdict is set up with. -/
def errors : Change → List Violation
  | invalid errors => errors
  | _ => []

/-- The warnings that a verdict is set up with. -/
def warnings : Change → List Warning
  | valid warnings => warnings
  | _ => []

/-- The warning that is added. -/
def pushed? : Change → Option Warning
  | push w => some w
  | _ => none

end Change

/-- The change by which the verdict was last set up. -/
def lastReplacement (history : List Change) : Change :=
  (history.filter Change.replaces).getLastD (.valid [])

/-- The changes since the verdict was last set up. -/
def sinceReplacement (history : List Change) : List Change :=
  history.rtakeWhile fun c => !c.replaces

/-- The warnings that were given since the verdict was last set up and have not been dropped. -/
def remaining (history : List Change) : List Warning :=
  let since := sinceReplacement history
  (if since.any Change.clears then [] else (lastReplacement history).warnings) ++
    (since.rtakeWhile fun c => !c.clears).filterMap Change.pushed?

section

variable {history : List Change} {c : Change}

lemma lastReplacement_concat_of_replaces (h : c.replaces = true) :
    lastReplacement (history ++ [c]) = c := by
  simp [lastReplacement, h]

lemma lastReplacement_concat_of_not_replaces (h : c.replaces = false) :
    lastReplacement (history ++ [c]) = lastReplacement history := by
  simp [lastReplacement, h]

lemma sinceReplacement_concat_of_replaces (h : c.replaces = true) :
    sinceReplacement (history ++ [c]) = [] :=
  List.rtakeWhile_concat_neg _ _ _ (by simp [h])

lemma sinceReplacement_concat_of_not_replaces (h : c.replaces = false) :
    sinceReplacement (history ++ [c]) = sinceReplacement history ++ [c] :=
  List.rtakeWhile_concat_pos _ _ _ (by simp [h])

/-- Whatever came before, a verdict that is set up anew has the warnings it is set up with. -/
lemma remaining_concat_of_replaces (h : c.replaces = true) :
    remaining (history ++ [c]) = c.warnings := by
  simp [remaining, sinceReplacement_concat_of_replaces h, lastReplacement_concat_of_replaces h]

lemma remaining_concat_push (w : Warning) :
    remaining (history ++ [.push w]) = remaining history ++ [w] := by
  have hsince : sinceReplacement (history ++ [.push w]) = sinceReplacement history ++ [.push w] :=
    sinceReplacement_concat_of_not_replaces rfl
  have hlast : lastReplacement (history ++ [.push w]) = lastReplacement history :=
    lastReplacement_concat_of_not_replaces rfl
  simp [remaining, hsince, hlast, Change.clears, Change.pushed?]

lemma remaining_concat_clear : remaining (history ++ [.clear]) = [] := by
  have hsince : sinceReplacement (history ++ [.clear]) = sinceReplacement history ++ [.clear] :=
    sinceReplacement_concat_of_not_replaces rfl
  have hkept : (sinceReplacement history ++ [Change.clear]).rtakeWhile (fun c => !c.clears) = [] :=
    List.rtakeWhile_concat_neg _ _ _ (by decide)
  rw [remaining, hsince, hkept, List.any_append]
  simp [Change.clears]

end

/-! ## What a change preserves -/

/-- A verdict holds what its history says. -/
structure Settled (history : List Change) (v : Verdict) : Prop extends v.Sound where
  errors_eq : v.errors = (lastReplacement history).errors
  warnings_eq : v.isValid = true → v.warnings = remaining history

@[simp] lemma Verdict.isValid_push (v : Verdict) (w : Warning) :
    (v.push w).isValid = v.isValid := by
  unfold push
  split <;> rfl

@[simp] lemma Verdict.errors_push (v : Verdict) (w : Warning) : (v.push w).errors = v.errors := by
  unfold push
  split <;> rfl

/-- A warning is taken in by a valid verdict only, and leaves no trace on another one. -/
lemma Verdict.warnings_push (v : Verdict) (w : Warning) :
    (v.push w).warnings = if v.isValid then v.warnings ++ [w] else v.warnings := by
  unfold push
  split <;> rfl

lemma Verdict.Sound.push {v : Verdict} (h : v.Sound) (w : Warning) : (v.push w).Sound where
  isValid_iff := by
    rw [isValid_push, errors_push]
    exact h.isValid_iff
  warnings_eq_nil := by
    intro hinvalid
    rw [isValid_push] at hinvalid
    rw [warnings_push, if_neg (Bool.eq_false_iff.mp hinvalid)]
    exact h.warnings_eq_nil hinvalid

lemma settled_nil : Settled [] (Verdict.valid []) where
  toSound := Verdict.sound_valid []
  errors_eq := rfl
  warnings_eq := fun _ => rfl

/-- A verdict that is set up anew holds what it is set up with, whatever it held before. -/
lemma Change.apply_of_replaces {c : Change} (v : Verdict) (hc : c.replaces = true) :
    (c.apply v).Sound ∧ (c.apply v).errors = c.errors ∧ (c.apply v).warnings = c.warnings := by
  cases c with
  | valid warnings => exact ⟨Verdict.sound_valid warnings, rfl, rfl⟩
  | invalid errors => exact ⟨Verdict.sound_invalid errors, rfl, rfl⟩
  | push w => cases hc
  | clear => cases hc

lemma settled_of_replaces {history : List Change} {c : Change} (v : Verdict)
    (hc : c.replaces = true) : Settled (history ++ [c]) (c.apply v) := by
  obtain ⟨hsound, herrors, hwarnings⟩ := Change.apply_of_replaces v hc
  refine ⟨hsound, ?_, ?_⟩
  · rw [lastReplacement_concat_of_replaces hc, herrors]
  · intro _
    rw [remaining_concat_of_replaces hc, hwarnings]

/-- One more change to a verdict keeps it in line with its history. -/
lemma Settled.apply {history : List Change} {v : Verdict} (h : Settled history v) (c : Change) :
    Settled (history ++ [c]) (c.apply v) := by
  cases c with
  | valid warnings => exact settled_of_replaces v rfl
  | invalid errors => exact settled_of_replaces v rfl
  | push w =>
    have hlast : lastReplacement (history ++ [.push w]) = lastReplacement history :=
      lastReplacement_concat_of_not_replaces rfl
    refine ⟨h.toSound.push w, ?_, ?_⟩
    · rw [hlast, ← h.errors_eq]
      exact Verdict.errors_push v w
    · intro hvalid
      have hv : v.isValid = true := (Verdict.isValid_push v w).symm.trans hvalid
      rw [remaining_concat_push, ← h.warnings_eq hv]
      exact (Verdict.warnings_push v w).trans (if_pos hv)
  | clear =>
    have hlast : lastReplacement (history ++ [.clear]) = lastReplacement history :=
      lastReplacement_concat_of_not_replaces rfl
    refine ⟨h.toSound.clearWarnings, ?_, ?_⟩
    · rw [hlast, ← h.errors_eq]
      rfl
    · intro _
      rw [remaining_concat_clear]
      rfl

/-- What holds after every step of every history. -/
lemma settled_after (history : List Change) : Settled history (Verdict.after history) := by
  -- a change is made to what the changes before it have left, so the last one is taken off
  induction history using List.reverseRecOn with
  | nil => exact settled_nil
  | append_singleton history c ih =>
    unfold Verdict.after
    rw [List.foldl_append]
    exact ih.apply c

/-! ## The JSON form -/

lemma Severity.name_injective : Function.Injective Severity.name := by
  intro a b h
  cases a <;> cases b <;> first | rfl | exact absurd h (by decide)

lemma WarningKind.name_injective : Function.Injective WarningKind.name := by
  intro a b h
  cases a <;> cases b <;> first | rfl | exact absurd h (by decide)

lemma Warning.toJson_injective : Function.Injective Warning.toJson := by
  intro w w' h
  simp only [Warning.toJson, Value.object.injEq, List.cons.injEq, Prod.mk.injEq,
    Value.string.injEq, true_and, and_true] at h
  obtain ⟨hkind, hpath, hmessage, hseverity⟩ := h
  cases w
  cases w'
  cases WarningKind.name_injective hkind
  cases Severity.name_injective hseverity
  cases hpath
  cases hmessage
  rfl

/-- Absent parameters are told from an empty list of them. -/
lemma Violation.toJson_injective : Function.Injective Violation.toJson := by
  intro v v' h
  obtain ⟨path, message, params, schemaPath⟩ := v
  obtain ⟨path', message', params', schemaPath'⟩ := v'
  cases params with
  | none =>
    cases params' with
    | none => simpa [Violation.toJson] using h
    | some ms => simp [Violation.toJson] at h
  | some ms =>
    cases params' with
    | none => simp [Violation.toJson] at h
    | some ms' => simpa [Violation.toJson] using h

/-- Nothing of a verdict is lost in its JSON form. -/
lemma Verdict.toJson_injective : Function.Injective Verdict.toJson := by
  intro v v' h
  simp only [Verdict.toJson, Value.object.injEq, List.cons.injEq, Prod.mk.injEq, Value.bool.injEq,
    Value.array.injEq, true_and, and_true] at h
  obtain ⟨hvalid, herrors, hwarnings⟩ := h
  cases v
  cases v'
  cases hvalid
  cases List.map_injective_iff.mpr Violation.toJson_injective herrors
  cases List.map_injective_iff.mpr Warning.toJson_injective hwarnings
  rfl

/-- After every step of every history a verdict is valid exactly if it has no errors, and has
warnings only if it is valid. Its errors are those it was last set up with. The warnings of a valid
one are those it was last set up with, unless they have been dropped since, and behind them those
that have been added since it was set up or they were dropped, in order. Its JSON form shows these
three things, and only this verdict has that form. -/
theorem after_history (history : List Change) :
    ((Verdict.after history).isValid = true ↔ (Verdict.after history).errors = []) ∧
    ((Verdict.after history).isValid = false → (Verdict.after history).warnings = []) ∧
    (Verdict.after history).errors = (lastReplacement history).errors ∧
    ((Verdict.after history).isValid = true →
      (Verdict.after history).warnings = remaining history) ∧
    ((Verdict.after history).toJson =
        .object [("valid", .bool (Verdict.after history).isValid),
          ("errors", .array ((Verdict.after history).errors.map Violation.toJson)),
          ("warnings", .array ((Verdict.after history).warnings.map Warning.toJson))] ∧
      ∀ v : Verdict, v.toJson = (Verdict.after history).toJson → v = Verdict.after history) := by
  have h := settled_after history
  refine ⟨h.isValid_iff, h.warnings_eq_nil, h.errors_eq, h.warnings_eq, rfl, ?_⟩
  intro v hv
  exact Verdict.toJson_injective hv

/-- Warnings on an invalid manifest are gone for good; set up without errors, it takes them in. -/
example (e : Violation) (w w' : Warning) :
    (Verdict.after [.invalid [e], .push w, .invalid [], .push w']).warnings = [w'] := rfl

end AgentManifest.Report
