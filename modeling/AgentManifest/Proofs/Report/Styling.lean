import Mathlib.Data.List.Basic
import Mathlib.Tactic.Lemma
import AgentManifest.Report.Human
import AgentManifest.Proofs.Json.Printing

/-!
# Text without its styles

A style stands between escape sequences, which can be taken out again. What is left of lines in
colour are the lines as they are without it, unless a text in them has escape sequences of its own.
-/

namespace AgentManifest.Report

/-! ## Escape sequences -/

/-- A text that has an escape sequence: from an escape character with a bracket up to an `m`. -/
def HasSequence (text : List Char) : Prop :=
  ∃ before within behind, text = before ++ '\x1b' :: '[' :: (within ++ 'm' :: behind)

/-- A text without its escape sequences, each of which ends at the first `m`. -/
def unstyle (text : List Char) : List Char := go false text
where
  /-- Goes on within a sequence or outside of one. -/
  go : Bool → List Char → List Char
    | _, [] => []
    | true, c :: rest => go (c != 'm') rest
    | false, c :: rest =>
      if c = '\x1b' ∧ rest.head? = some '[' ∧ 'm' ∈ rest then go true rest else c :: go false rest

section

variable {c : Char} {text rest : List Char}

/-- A sequence starts at a character if the other two follow it. -/
lemma hasSequence_cons_iff :
    HasSequence (c :: text) ↔
      c = '\x1b' ∧ text.head? = some '[' ∧ 'm' ∈ text ∨ HasSequence text := by
  constructor
  · rintro ⟨before, within, behind, h⟩
    cases before with
    | nil =>
      obtain ⟨rfl, rfl⟩ := List.cons_eq_cons.mp h
      exact .inl ⟨rfl, rfl, by simp⟩
    | cons d before =>
      obtain ⟨rfl, rfl⟩ := List.cons_eq_cons.mp h
      exact .inr ⟨before, within, behind, rfl⟩
  · rintro (⟨rfl, hbracket, hend⟩ | ⟨before, within, behind, rfl⟩)
    · obtain ⟨tail, rfl⟩ := List.head?_eq_some_iff.mp hbracket
      have hend : 'm' ∈ tail := by simpa using hend
      obtain ⟨within, behind, rfl⟩ := List.append_of_mem hend
      exact ⟨[], within, behind, rfl⟩
    · exact ⟨c :: before, within, behind, rfl⟩

lemma not_hasSequence_of_not_mem (h : '\x1b' ∉ text) : ¬HasSequence text := by
  rintro ⟨before, within, behind, rfl⟩
  exact h (by simp)

/-- A line break ends no sequence. -/
lemma hasSequence_append_newline : HasSequence (text ++ ['\n']) ↔ HasSequence text := by
  induction text with
  | nil =>
    exact iff_of_false (not_hasSequence_of_not_mem (by decide))
      (not_hasSequence_of_not_mem List.not_mem_nil)
  | cons c text ih =>
    have start : (text ++ ['\n']).head? = some '[' ∧ 'm' ∈ text ++ ['\n'] ↔
        text.head? = some '[' ∧ 'm' ∈ text := by
      cases text <;> simp
    rw [List.cons_append, hasSequence_cons_iff, hasSequence_cons_iff, ih, start]

lemma length_unstyle_le (text : List Char) (within : Bool) :
    (unstyle.go within text).length ≤ text.length := by
  induction text generalizing within with
  | nil => cases within <;> exact Nat.le_refl 0
  | cons c rest ih =>
    cases within with
    | true => exact Nat.le_succ_of_le (ih _)
    | false =>
      rw [unstyle.go]
      split
      case isTrue => exact Nat.le_succ_of_le (ih true)
      case isFalse => exact Nat.succ_le_succ (ih false)

/-- A text is left as it is exactly if it has no escape sequence. -/
lemma unstyle_eq_self_iff : unstyle text = text ↔ ¬HasSequence text := by
  induction text with
  | nil => exact iff_of_true rfl (not_hasSequence_of_not_mem List.not_mem_nil)
  | cons c rest ih =>
    rw [hasSequence_cons_iff, unstyle, unstyle.go]
    split
    case isTrue h =>
      refine iff_of_false (fun heq => ?_) fun hnone => hnone (.inl h)
      have shorter := length_unstyle_le rest true
      rw [heq, List.length_cons] at shorter
      omega
    case isFalse h => rw [or_iff_right h, ← ih, List.cons_eq_cons, and_iff_right rfl, unstyle]

/-- A text without escape characters stays as it is, whatever follows it. -/
lemma unstyle_append (h : '\x1b' ∉ text) : unstyle (text ++ rest) = text ++ unstyle rest := by
  induction text with
  | nil => rfl
  | cons c text ih =>
    rw [List.mem_cons, not_or] at h
    rw [List.cons_append, unstyle, unstyle.go, if_neg fun hseq => h.1 hseq.1.symm, ← unstyle,
      ih h.2, List.cons_append]

namespace Style

lemma unstyle_switchOn (s : Style) : unstyle (s.switchOn ++ rest) = unstyle rest := by
  cases s <;> simp [unstyle, unstyle.go, switchOn, number]

lemma unstyle_switchOff : unstyle (switchOff ++ rest) = unstyle rest := by
  simp [unstyle, unstyle.go, switchOff]

/-- Where the text switches nothing off there is nothing to switch on again. -/
lemma restore_eq_self (s : Style) (h : '\x1b' ∉ text) : s.restore text = text := by
  induction text with
  | nil => rfl
  | cons c text ih =>
    rw [List.mem_cons, not_or] at h
    rw [restore, ih h.2]
    rintro rest rfl
    exact absurd rfl h.1

/-- A style can be taken off. -/
lemma unstyle_paint (s : Style) (h : '\x1b' ∉ text) :
    unstyle (s.paint text ++ rest) = text ++ unstyle rest := by
  rw [paint, s.restore_eq_self h, List.append_assoc, unstyle_switchOn, List.append_assoc,
    unstyle_append h, unstyle_switchOff]

end Style

end

/-! ## Lines -/

/-- The text of a piece. -/
def Fragment.text : Fragment → String
  | .plain text | .styled _ text => text

/-- A line in whose texts there is no escape character. -/
def Line.IsPlain (l : Line) : Prop := ∀ f ∈ l, '\x1b' ∉ f.text.toList

/-- Lines in colour that are, without the styles, the same lines without colour. -/
def OnlyDecorated (lines : List Line) : Prop :=
  unstyle (Line.render true lines).toList = (Line.render false lines).toList

lemma Fragment.unstyle_write {f : Fragment} {rest : List Char} (h : '\x1b' ∉ f.text.toList) :
    unstyle (f.write true ++ rest) = f.write false ++ unstyle rest := by
  cases f with
  | plain text => exact unstyle_append h
  | styled s text => exact s.unstyle_paint h

lemma Line.unstyle_write {l : Line} {rest : List Char} (h : l.IsPlain) :
    unstyle (l.write true ++ rest) = l.write false ++ unstyle rest := by
  have fragments (tail : List Char) :
      unstyle (l.flatMap (Fragment.write true) ++ tail) =
        l.flatMap (Fragment.write false) ++ unstyle tail := by
    induction l with
    | nil => rfl
    | cons f fs ih =>
      obtain ⟨hf, hfs⟩ : '\x1b' ∉ f.text.toList ∧ Line.IsPlain fs := List.forall_mem_cons.mp h
      rw [List.flatMap_cons, List.append_assoc, Fragment.unstyle_write hf, ih hfs,
        List.flatMap_cons, List.append_assoc]
  rw [Line.write, Line.write, List.append_assoc, fragments, unstyle_append (by decide),
    List.append_assoc]

/-- Only decorated are all lines without escape characters of their own. -/
lemma onlyDecorated_of_isPlain {lines : List Line} (h : ∀ l ∈ lines, l.IsPlain) :
    OnlyDecorated lines := by
  have lines_write : unstyle (lines.flatMap (Line.write true)) =
      lines.flatMap (Line.write false) := by
    induction lines with
    | nil => rfl
    | cons l ls ih =>
      obtain ⟨hl, hls⟩ := List.forall_mem_cons.mp h
      rw [List.flatMap_cons, Line.unstyle_write hl, ih hls, List.flatMap_cons]
  rw [OnlyDecorated, Line.render, Line.render, String.toList_ofList, String.toList_ofList,
    lines_write]

/-! ## Reports -/

/-- The texts that a report for people shows of an outcome as they are. Parameters of violations
are shown as JSON. -/
def Outcome.texts : Outcome → List String
  | .checked path verdict =>
    path.text :: (verdict.errors.flatMap fun v => [v.path, v.message]) ++
      verdict.warnings.map Warning.message
  | .unread path message => [path.text, message]
  | .malformed path complaint => [path.text, complaint.message]

/-- An outcome in whose texts there is no escape character. -/
def Outcome.IsPlain (o : Outcome) : Prop := ∀ text ∈ o.texts, '\x1b' ∉ text.toList

/-- The text of a number has no escape character. -/
lemma not_mem_natText (n : Nat) : '\x1b' ∉ (natText n).toList := by
  rw [natText, Decimal.natString, String.toList_ofList]
  exact (Json.isPrinted_natText n).not_mem List.not_mem_nil (by decide)

/-- JSON has no escape character. -/
lemma not_mem_compact (v : Json.Value) : '\x1b' ∉ v.compact.toList :=
  (Json.isPrinted_compact v).not_mem (by decide) (by decide)

lemma Warning.isPlain_line {w : Warning} (h : '\x1b' ∉ w.message.toList) : w.line.IsPlain := by
  cases hw : w.severity <;> simp [Line.IsPlain, Warning.line, Fragment.text, hw, Severity.name, h]

lemma Violation.isPlain_lines {v : Violation} (hpath : '\x1b' ∉ v.path.toList)
    (hmessage : '\x1b' ∉ v.message.toList) : ∀ l ∈ v.lines, l.IsPlain := by
  cases hparams : v.params <;>
    simp [Violation.lines, Line.IsPlain, Fragment.text, hparams, hpath, hmessage, not_mem_compact]

lemma Verdict.isPlain_lines {v : Verdict}
    (herrors : ∀ e ∈ v.errors, '\x1b' ∉ e.path.toList ∧ '\x1b' ∉ e.message.toList)
    (hwarnings : ∀ w ∈ v.warnings, '\x1b' ∉ w.message.toList) : ∀ l ∈ v.lines, l.IsPlain := by
  have warnings : ∀ l ∈ v.warnings.map Warning.line, l.IsPlain :=
    List.forall_mem_map.mpr fun w hw => Warning.isPlain_line (hwarnings w hw)
  have errors : ∀ l ∈ v.errors.flatMap Violation.lines, l.IsPlain := by
    intro l hl
    obtain ⟨e, he, hl⟩ := List.mem_flatMap.mp hl
    exact Violation.isPlain_lines (herrors e he).1 (herrors e he).2 l hl
  unfold Verdict.lines
  split
  case isTrue =>
    refine List.forall_mem_cons.mpr ⟨by simp [Line.IsPlain, Fragment.text], ?_⟩
    split
    case isTrue => exact List.forall_mem_nil _
    case isFalse =>
      refine List.forall_mem_cons.mpr ⟨List.forall_mem_nil _, ?_⟩
      exact List.forall_mem_cons.mpr ⟨by simp [Line.IsPlain, Fragment.text], warnings⟩
  case isFalse =>
    exact List.forall_mem_cons.mpr ⟨by simp [Line.IsPlain, Fragment.text], errors⟩

lemma Complaint.isPlain_lines {c : Complaint} (h : '\x1b' ∉ c.message.toList) :
    ∀ l ∈ c.lines, l.IsPlain := by
  cases hline : c.line? <;> cases hcolumn : c.column? <;>
    simp [Complaint.lines, Line.IsPlain, Fragment.text, hline, hcolumn, h, not_mem_natText]

/-- The block of an outcome without escape characters. -/
lemma Outcome.isPlain_lines {o : Outcome} (h : o.IsPlain) : ∀ l ∈ o.lines, l.IsPlain := by
  have block : ∀ l ∈ (match o with
      | .checked _ verdict => verdict.lines
      | .unread _ message => [[.styled .red "✗ Error:", .plain (" " ++ message)]]
      | .malformed _ complaint => complaint.lines), l.IsPlain := by
    cases o with
    | checked path verdict =>
      have errors : ∀ e ∈ verdict.errors, ∀ text ∈ [e.path, e.message], '\x1b' ∉ text.toList :=
        fun e he text ht =>
          h text (List.mem_append_left _ (.tail _ (List.mem_flatMap.mpr ⟨e, he, ht⟩)))
      have warnings : ∀ w ∈ verdict.warnings, '\x1b' ∉ w.message.toList :=
        fun w hw => h _ (List.mem_append_right _ (List.mem_map_of_mem hw))
      exact Verdict.isPlain_lines
        (fun e he => ⟨errors e he _ (by simp), errors e he _ (by simp)⟩) warnings
    | unread path message =>
      have hmessage := h message (by simp [texts])
      simp [Line.IsPlain, Fragment.text, hmessage]
    | malformed path complaint => exact Complaint.isPlain_lines (h _ (by simp [texts]))
  have hpath : '\x1b' ∉ o.path.text.toList := by
    cases o <;> exact h _ (by simp [texts, Outcome.path])
  refine List.forall_mem_cons.mpr ⟨List.forall_mem_nil _, List.forall_mem_cons.mpr ⟨?_, block⟩⟩
  simp [Line.IsPlain, Fragment.text, hpath]

lemma Summary.isPlain_lines (s : Summary) : ∀ l ∈ s.lines, l.IsPlain := by
  simp [Summary.lines, Line.IsPlain, Fragment.text, not_mem_natText]

lemma isPlain_noFiles : noFiles.IsPlain := by simp [noFiles, Line.IsPlain, Fragment.text]

/-- The heading of a directory is only decorated if its path has no escape sequence. -/
lemma onlyDecorated_scanHeader_iff (dir : Files.Path) :
    OnlyDecorated [scanHeader dir] ↔ ¬HasSequence dir.text.toList := by
  have colour : (Line.render true [scanHeader dir]).toList =
      Style.blue.paint "Scanning directory:".toList ++ (' ' :: (dir.text.toList ++ ['\n'])) := by
    simp [Line.render, Line.write, scanHeader, Fragment.write]
  have plain : (Line.render false [scanHeader dir]).toList =
      "Scanning directory:".toList ++ (' ' :: (dir.text.toList ++ ['\n'])) := by
    simp [Line.render, Line.write, scanHeader, Fragment.write]
  have blank : unstyle (' ' :: (dir.text.toList ++ ['\n'])) =
      ' ' :: unstyle (dir.text.toList ++ ['\n']) :=
    unstyle_append (show '\x1b' ∉ [' '] by decide)
  rw [OnlyDecorated, colour, plain, Style.unstyle_paint _ (by decide), blank,
    List.append_cancel_left_eq, List.cons_eq_cons, and_iff_right rfl, unstyle_eq_self_iff,
    hasSequence_append_newline]

end AgentManifest.Report
