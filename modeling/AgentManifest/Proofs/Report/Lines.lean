import AgentManifest.Proofs.Report.Styling
import AgentManifest.Proofs.Schema.Places
import AgentManifest.Schema.Filling

/-!
# Reports line by line

The report on a document that does not satisfy its schema has a heading and then a line for each
finding, with another one for its parameters. This is so exactly if no finding has a line break in
its path or in its message. Both are put together from fixed texts, from names of members in the
document and from texts of the schema, so that a line break can come from nowhere else: in particular
not from a string in the document.
-/

namespace AgentManifest.Report

open Files (Path)

/-! ## Texts on one line -/

/-- A text without line breaks. -/
def IsOneLine (text : String) : Prop := '\n' ∉ text.toList

instance : DecidablePred IsOneLine := fun text => inferInstanceAs (Decidable ('\n' ∉ text.toList))

namespace IsOneLine

/-- A text that is given by its characters. -/
lemma ofList {cs : List Char} (h : '\n' ∉ cs) : IsOneLine (String.ofList cs) := by
  rw [IsOneLine, String.toList_ofList]
  exact h

lemma append_iff {text text' : String} :
    IsOneLine (text ++ text') ↔ IsOneLine text ∧ IsOneLine text' := by
  rw [IsOneLine, String.toList_append, List.mem_append, not_or]
  rfl

lemma append {text text' : String} (h : IsOneLine text) (h' : IsOneLine text') :
    IsOneLine (text ++ text') := append_iff.mpr ⟨h, h'⟩

lemma intercalate {sep : String} {texts : List String} (hsep : IsOneLine sep)
    (h : ∀ text ∈ texts, IsOneLine text) : IsOneLine (sep.intercalate texts) := by
  rw [IsOneLine, String.toList_intercalate]
  induction texts with
  | nil => exact List.not_mem_nil
  | cons text texts ih =>
    obtain ⟨htext, htexts⟩ := List.forall_mem_cons.mp h
    cases texts with
    | nil =>
      rw [List.map_singleton, List.intercalate_singleton]
      exact htext
    | cons text' texts =>
      rw [List.map_cons, List.map_cons, List.intercalate_cons_cons, List.mem_append,
        List.mem_append, not_or, not_or]
      exact ⟨⟨htext, hsep⟩, ih htexts⟩

/-- JSON has no line breaks in the compact form. -/
lemma compact (v : Json.Value) : IsOneLine v.compact :=
  (Json.isPrinted_compact v).not_mem List.not_mem_nil (by decide)

end IsOneLine

/-! ## Lines of a text -/

namespace Style

variable {text : List Char}

lemma newline_mem_restore (s : Style) : '\n' ∈ s.restore text ↔ '\n' ∈ text := by
  fun_induction s.restore text with
  | case1 rest ih => simp [switchOff, switchOn, ih]; cases s <;> simp [number]
  | case2 c rest _ ih => rw [List.mem_cons, List.mem_cons, ih]
  | case3 => rfl

/-- A style has no line breaks. -/
lemma newline_mem_paint (s : Style) : '\n' ∈ s.paint text ↔ '\n' ∈ text := by
  rw [paint, List.mem_append, List.mem_append, newline_mem_restore]
  cases s <;> simp [switchOn, switchOff, number]

end Style

lemma Fragment.newline_mem_write {color : Bool} {f : Fragment} :
    '\n' ∈ f.write color ↔ '\n' ∈ f.text.toList := by
  cases f with
  | plain text => rfl
  | styled s text =>
    rw [Fragment.write]
    split
    · exact s.newline_mem_paint
    · rfl

/-- The characters of a line without its end. -/
def Line.shown (color : Bool) (l : Line) : List Char := l.flatMap (Fragment.write color)

/-- The texts of a line stand on one line. -/
def Line.IsOne (l : Line) : Prop := ∀ f ∈ l, IsOneLine f.text

lemma Line.newline_not_mem_shown {color : Bool} {l : Line} : '\n' ∉ l.shown color ↔ l.IsOne := by
  simp only [shown, List.mem_flatMap, not_exists, not_and, Fragment.newline_mem_write, IsOne,
    IsOneLine]

/-- No piece of a split has the character at which it was split. -/
lemma not_mem_of_mem_splitOn {c : Char} {text piece : List Char} (h : piece ∈ text.splitOn c) :
    c ∉ piece := by
  induction text generalizing piece with
  | nil =>
    rw [List.splitOn_nil, List.mem_singleton] at h
    rw [h]
    exact List.not_mem_nil
  | cons d text ih =>
    rw [List.splitOn_cons_eq_if_modifyHead] at h
    split at h
    case isTrue =>
      obtain rfl | h := List.mem_cons.mp h
      · exact List.not_mem_nil
      · exact ih h
    case isFalse hd =>
      obtain ⟨first, rest, hpieces⟩ := List.exists_cons_of_ne_nil (List.splitOn_ne_nil c text)
      rw [hpieces] at h ih
      obtain rfl | h := List.mem_cons.mp h
      · rw [List.mem_cons, not_or]
        exact ⟨fun heq => hd (beq_iff_eq.mpr heq.symm), ih List.mem_cons_self⟩
      · exact ih (List.mem_cons_of_mem _ h)

/-- The text of some lines is, line by line, what these show, unless a text in them has a line
break. -/
lemma Line.splitOn_render_iff {color : Bool} {lines : List Line} :
    (Line.render color lines).toList.splitOn '\n' = lines.map (Line.shown color) ++ [[]] ↔
      ∀ l ∈ lines, l.IsOne := by
  rw [Line.render, String.toList_ofList]
  constructor
  · intro h l hl
    have hpiece : l.shown color ∈ lines.map (Line.shown color) ++ [[]] :=
      List.mem_append_left _ (List.mem_map_of_mem hl)
    rw [← h] at hpiece
    exact newline_not_mem_shown.mp (not_mem_of_mem_splitOn hpiece)
  · intro h
    induction lines with
    | nil => exact List.splitOn_nil _
    | cons l ls ih =>
      obtain ⟨hl, hls⟩ := List.forall_mem_cons.mp h
      have hwrite : l.write color = l.shown color ++ ['\n'] := rfl
      rw [List.flatMap_cons, hwrite, List.append_assoc, List.singleton_append,
        List.splitOn_append_cons_self_of_not_mem (newline_not_mem_shown.mpr hl), ih hls,
        List.map_cons, List.cons_append]

/-! ## Blocks -/

/-- What is written of a finding, line by line: where it is and what, and its parameters if it has
any. -/
def Violation.shown (color : Bool) (x : Violation) : List (List Char) :=
  ("  ".toList ++ (Fragment.styled .yellow x.path).write color ++ (": " ++ x.message).toList) ::
    match x.params with
    | some ms =>
      ["  ".toList ++
        (Fragment.styled .dimmed ("Details: " ++ (Json.Value.object ms).compact)).write color]
    | none => []

/-- What is written of some findings, line by line: nothing, the file, what is said of it, and what
is written of each finding in turn. -/
def findingsShown (color : Bool) (path : Path) (xs : List Violation) : List (List Char) :=
  [] :: ((Fragment.styled .blue "Validating:").write color ++ (" " ++ path.text).toList) ::
    (Fragment.styled .red "✗ Schema Validation Failed:").write color ::
    xs.flatMap (Violation.shown color)

/-- The text of the block about a file with some findings has one line for each thing that is
written of them, and ends with the last. -/
def IsLineByLine (color : Bool) (path : Path) (xs : List Violation) : Prop :=
  (Line.render color (Outcome.checked path (.invalid xs)).lines).toList.splitOn '\n' =
    findingsShown color path xs ++ [[]]

lemma Violation.lines_shown (color : Bool) (x : Violation) :
    x.lines.map (Line.shown color) = x.shown color := by
  cases hparams : x.params <;>
    simp only [Violation.lines, Violation.shown, Line.shown, hparams, List.map_cons, List.map_nil,
      List.flatMap_cons, List.flatMap_nil, List.append_nil, List.append_assoc, Fragment.write]

lemma Violation.lines_isOne_iff {x : Violation} :
    (∀ l ∈ x.lines, l.IsOne) ↔ IsOneLine x.path ∧ IsOneLine x.message := by
  have hblank : IsOneLine "  " := .ofList (by decide)
  have hmessage : IsOneLine (": " ++ x.message) ↔ IsOneLine x.message := by
    rw [IsOneLine.append_iff, and_iff_right (.ofList (by decide))]
  have hdetails (ms : Json.Members) : IsOneLine ("Details: " ++ (Json.Value.object ms).compact) :=
    (IsOneLine.ofList (by decide)).append (.compact _)
  cases hparams : x.params <;>
    simp [Violation.lines, Line.IsOne, Fragment.text, hparams, hblank, hmessage, hdetails]

/-- The lines of a block about a file with some findings. -/
lemma checked_lines {path : Path} {xs : List Violation} (hxs : xs ≠ []) :
    (Outcome.checked path (.invalid xs)).lines =
      [] :: [.styled .blue "Validating:", .plain (" " ++ path.text)] ::
        [.styled .red "✗ Schema Validation Failed:"] :: xs.flatMap Violation.lines := by
  have hinvalid : (Verdict.invalid xs).isValid = false := List.isEmpty_eq_false_iff.mpr hxs
  rw [Outcome.lines, Verdict.lines, hinvalid, if_neg Bool.false_ne_true]
  rfl

lemma checked_lines_shown (color : Bool) {path : Path} {xs : List Violation} (hxs : xs ≠ []) :
    (Outcome.checked path (.invalid xs)).lines.map (Line.shown color) =
      findingsShown color path xs := by
  have hfindings : (xs.flatMap Violation.lines).map (Line.shown color) =
      xs.flatMap (Violation.shown color) := by
    rw [List.map_flatMap]
    exact List.flatMap_congr fun x _ => x.lines_shown color
  rw [checked_lines hxs, findingsShown, List.map_cons, List.map_cons, List.map_cons, hfindings]
  simp only [Line.shown, List.flatMap_cons, List.flatMap_nil, List.append_nil, Fragment.write]

/-- The block is as it should be exactly if the paths and the messages have no line breaks. -/
lemma isLineByLine_iff {color : Bool} {path : Path} {xs : List Violation}
    (hpath : IsOneLine path.text) (hxs : xs ≠ []) :
    IsLineByLine color path xs ↔ ∀ x ∈ xs, IsOneLine x.path ∧ IsOneLine x.message := by
  have hempty : Line.IsOne [] := List.forall_mem_nil _
  have hfile : Line.IsOne [.styled .blue "Validating:", .plain (" " ++ path.text)] := by
    have hvalidating : IsOneLine "Validating:" := .ofList (by decide)
    have hrest : IsOneLine (" " ++ path.text) := (IsOneLine.ofList (by decide)).append hpath
    simp [Line.IsOne, Fragment.text, hvalidating, hrest]
  have hverdict : Line.IsOne [.styled .red "✗ Schema Validation Failed:"] := by
    have hfailed : IsOneLine "✗ Schema Validation Failed:" := .ofList (by decide)
    simpa [Line.IsOne, Fragment.text] using hfailed
  have hfindings : (∀ l ∈ xs.flatMap Violation.lines, l.IsOne) ↔
      ∀ x ∈ xs, IsOneLine x.path ∧ IsOneLine x.message := by
    rw [List.forall_mem_flatMap]
    exact forall₂_congr fun x _ => x.lines_isOne_iff
  rw [IsLineByLine, ← checked_lines_shown color hxs, Line.splitOn_render_iff, checked_lines hxs,
    List.forall_mem_cons, List.forall_mem_cons, List.forall_mem_cons, and_iff_right hempty,
    and_iff_right hfile, and_iff_right hverdict, hfindings]

end AgentManifest.Report

namespace AgentManifest.Schema

open Files (Path)
open Json (Value Members Location Segment)
open Report (Violation IsOneLine IsLineByLine)

/-! ## Wordings -/

/-- The texts that the wording of a cause has in it as they are. Values are there as JSON. -/
def Cause.texts : Cause → List String
  | .pattern text => [text]
  | .format name => [name]
  | .required name => [name]
  | .additionalProperties names => names
  | .unevaluatedProperties names => names
  | .propertyName _ inner => inner.texts
  | _ => []

lemma isOneLine_natString (n : Nat) : IsOneLine (Decimal.natString n) :=
  .ofList ((Json.isPrinted_natText n).not_mem List.not_mem_nil (by decide))

lemma isOneLine_numberText (n : Json.Number) : IsOneLine (numberText n) :=
  .ofList ((Json.isPrinted_number n).not_mem List.not_mem_nil (by decide))

/-- A number in a message. -/
lemma isOneLine_plain (x : Decimal.Binary64) : IsOneLine (x.text .plain) := by
  have hprinted : Json.IsPrinted [] (x.write .plain) :=
    Json.isPrinted_double (by simp [Decimal.Style.plain]) (by simp [Decimal.Style.plain]) x
  exact .ofList (hprinted.not_mem List.not_mem_nil (by decide))

lemma Kind.isOneLine_name (k : Kind) : IsOneLine k.name := by
  cases k <;> exact .ofList (by decide)

lemma Measure.isOneLine_plural (m : Measure) : IsOneLine m.plural := by
  cases m <;> exact .ofList (by decide)

lemma Comparison.isOneLine_sign (o : Comparison) : IsOneLine o.sign := by
  cases o <;> exact .ofList (by decide)

namespace Cause

variable {c : Cause}

lemma isOneLine_counted {singular plural : String} (hsingular : IsOneLine singular)
    (hplural : IsOneLine plural) (n : Nat) : IsOneLine (counted n singular plural) := by
  refine ((isOneLine_natString n).append (.ofList (by decide))).append ?_
  split
  · exact hsingular
  · exact hplural

lemma isOneLine_countText (m : Measure) (atLeast : Bool) (limit : Nat) :
    IsOneLine (countText m atLeast limit) := by
  have hcounted {singular plural : String} (hsingular : IsOneLine singular)
      (hplural : IsOneLine plural) {before than : String} (hbefore : IsOneLine before)
      (hthan : IsOneLine than) {less more : String} (hless : IsOneLine less)
      (hmore : IsOneLine more) :
      IsOneLine (before ++ (if atLeast then less else more) ++ than ++
        counted limit singular plural) := by
    refine ((hbefore.append ?_).append hthan).append (isOneLine_counted hsingular hplural limit)
    split
    · exact hless
    · exact hmore
  cases m <;>
    exact hcounted (.ofList (by decide)) (.ofList (by decide)) (.ofList (by decide))
      (.ofList (by decide)) (.ofList (by decide)) (.ofList (by decide))

lemma isOneLine_boundText (o : Comparison) : IsOneLine (boundText o) := by
  cases o <;> exact .ofList (by decide)

lemma isOneLine_notUtf8Text (offset : Nat) (length : Option Nat) :
    IsOneLine (notUtf8Text offset length) := by
  have hoffset := isOneLine_natString offset
  cases length with
  | none => exact (IsOneLine.ofList (by decide)).append hoffset
  | some n =>
    exact (((IsOneLine.ofList (by decide)).append (isOneLine_natString n)).append
      (.ofList (by decide))).append hoffset

lemma isOneLine_doubleQuoted {name : String} (h : IsOneLine name) : IsOneLine (doubleQuoted name) :=
  ((IsOneLine.ofList (by decide)).append h).append (.ofList (by decide))

/-- Names that were not expected, between quotes. -/
lemma isOneLine_unexpected {names : List String} (h : ∀ name ∈ names, IsOneLine name) :
    IsOneLine (unexpected (names.map singleQuoted)) := by
  have hquote : IsOneLine "'" := .ofList (by decide)
  have hnames : ∀ name ∈ names.map singleQuoted, IsOneLine name :=
    List.forall_mem_map.mpr fun name hname => (hquote.append (h name hname)).append hquote
  have hlist : IsOneLine (", ".intercalate (names.map singleQuoted)) :=
    .intercalate (.ofList (by decide)) hnames
  refine ((IsOneLine.ofList (by decide)).append hlist).append ?_
  split <;> exact .ofList (by decide)

/-- A wording with the value at fault has line breaks only in its texts, or in how the value is
shown. -/
lemma isOneLine_message {shown : String} (hshown : IsOneLine shown)
    (h : ∀ text ∈ c.texts, IsOneLine text) : IsOneLine (c.message shown) := by
  induction c generalizing shown with
  | type kinds =>
    have hkind (k : Kind) : IsOneLine (doubleQuoted k.name) :=
      isOneLine_doubleQuoted k.isOneLine_name
    have hkinds (ks : List Kind) :
        IsOneLine (", ".intercalate (ks.map fun k => doubleQuoted k.name)) :=
      .intercalate (.ofList (by decide)) (List.forall_mem_map.mpr fun k _ => hkind k)
    -- a single type is worded on its own
    cases kinds with
    | nil => exact (hshown.append (.ofList (by decide))).append (hkinds [])
    | cons k ks =>
      cases ks with
      | nil => exact (hshown.append (.ofList (by decide))).append (hkind k)
      | cons k' ks => exact (hshown.append (.ofList (by decide))).append (hkinds (k :: k' :: ks))
  | const v => exact (IsOneLine.compact v).append (.ofList (by decide))
  | enum options => exact (hshown.append (.ofList (by decide))).append (.compact _)
  | count m atLeast limit =>
    exact (hshown.append (.ofList (by decide))).append (isOneLine_countText m atLeast limit)
  | bound o limit =>
    exact ((hshown.append (.ofList (by decide))).append (isOneLine_boundText o)).append
      (isOneLine_numberText limit)
  | multipleOf divisor =>
    exact (hshown.append (.ofList (by decide))).append (isOneLine_plain divisor)
  | pattern text | format text =>
    have htext : IsOneLine text := h text (List.mem_singleton_self _)
    exact (hshown.append (.ofList (by decide))).append (isOneLine_doubleQuoted htext)
  | patternGivenUp => exact .ofList (by decide)
  | required name => exact (IsOneLine.compact _).append (.ofList (by decide))
  | additionalProperties names | unevaluatedProperties names =>
    exact (IsOneLine.ofList (by decide)).append (isOneLine_unexpected h)
  | uniqueItems | anyOf | mediaType | encoding => exact hshown.append (.ofList (by decide))
  | oneOf several => cases several <;> exact hshown.append (.ofList (by decide))
  | not written => exact ((IsOneLine.compact written).append (.ofList (by decide))).append hshown
  | never => exact (IsOneLine.ofList (by decide)).append hshown
  | contains => exact ((IsOneLine.ofList (by decide)).append hshown).append (.ofList (by decide))
  | additionalItems | unevaluatedItems =>
    exact ((IsOneLine.ofList (by decide)).append (isOneLine_natString _)).append
      (.ofList (by decide))
  | propertyName name inner ih => exact ih (.compact _) h
  | notUtf8 offset length => exact isOneLine_notUtf8Text offset length

/-- A wording for a report has line breaks only in its texts. -/
lemma isOneLine_description {wording : String × Option Members}
    (hwording : c.description? = some wording) (h : ∀ text ∈ c.texts, IsOneLine text) :
    IsOneLine wording.1 := by
  have hlast {name : String} (hname : c.texts = [name]) : IsOneLine name :=
    h name (hname ▸ List.mem_singleton_self name)
  cases c with
  | type kinds =>
    cases hwording
    exact (IsOneLine.ofList (by decide)).append (.intercalate (.ofList (by decide))
      (List.forall_mem_map.mpr fun k _ => k.isOneLine_name))
  | count m atLeast limit =>
    cases hwording
    refine (((((IsOneLine.ofList (by decide)).append ?_).append (.ofList (by decide))).append
      (isOneLine_natString limit)).append (.ofList (by decide))).append m.isOneLine_plural
    split <;> exact .ofList (by decide)
  | bound o limit =>
    cases hwording
    exact (((IsOneLine.ofList (by decide)).append o.isOneLine_sign).append
      (.ofList (by decide))).append (isOneLine_numberText limit)
  | multipleOf divisor =>
    cases hwording
    exact (IsOneLine.ofList (by decide)).append (isOneLine_plain divisor)
  | pattern text | format text | required text =>
    cases hwording
    exact ((IsOneLine.ofList (by decide)).append (hlast rfl)).append (.ofList (by decide))
  | additionalProperties names =>
    cases hwording
    exact (IsOneLine.ofList (by decide)).append (.intercalate (.ofList (by decide)) h)
  | const | enum | uniqueItems | anyOf | oneOf | not | never | contains =>
    cases hwording
    exact .ofList (by decide)
  | _ => cases hwording

end Cause

/-- The message of a violation has line breaks only in the texts of its cause. -/
lemma Failure.isOneLine_message {f : Failure} (h : ∀ text ∈ f.cause.texts, IsOneLine text) :
    IsOneLine f.violation.message := by
  have hmessage : f.violation.message =
      (f.cause.description?.getD (f.cause.message "value", none)).1 := rfl
  rw [hmessage]
  cases hwording : f.cause.description? with
  | none => exact Cause.isOneLine_message (.ofList (by decide)) h
  | some wording => exact Cause.isOneLine_description hwording h

/-- The path of a violation has line breaks only in the names that lead to it. -/
lemma Failure.isOneLine_path {f : Failure} (h : ∀ name, .key name ∈ f.place → IsOneLine name) :
    IsOneLine f.violation.path := by
  have hpath : f.violation.path =
      if (Location.pointer f.place).isEmpty then "/" else Location.pointer f.place := rfl
  rw [hpath]
  split
  case isTrue => exact .ofList (by decide)
  case isFalse =>
    refine .ofList fun hmem => ?_
    obtain ⟨s, hs, hmem⟩ := List.mem_flatMap.mp hmem
    obtain heq | hmem := List.mem_cons.mp hmem
    · cases heq
    cases s with
    | key name =>
      obtain ⟨c, hc, hmem⟩ := List.mem_flatMap.mp hmem
      rw [Json.pointerEscape] at hmem
      split_ifs at hmem
      · simp at hmem
      · simp at hmem
      · obtain rfl := List.eq_of_mem_singleton hmem
        exact h name hs hc
    | index n => exact (Json.isPrinted_natText n).not_mem List.not_mem_nil (by decide) hmem

/-! ## Where the texts come from -/

/-- A text that a schema has for its wordings: a pattern, the name of a format, or a name that is
required. -/
inductive Form.Mentions : Form → String → Prop
  | pattern {ks : List Keyword} {place : Location} {text : String} {matcher : Pattern.Matcher}
      (hk : .test place (.pattern text matcher) ∈ ks) : Mentions (.all ks) text
  | format {ks : List Keyword} {place : Location} {format : Format}
      (hk : .test place (.format format) ∈ ks) : Mentions (.all ks) format.name
  | required {ks : List Keyword} {place : Location} {names : List String} {name : String}
      (hk : .required place names ∈ ks) (hname : name ∈ names) : Mentions (.all ks) name
  | applied {ks : List Keyword} {k : Keyword} {s : Form} {text : String} (hk : k ∈ ks)
      (hs : k.Applies s) (h : Mentions s text) : Mentions (.all ks) text

/-- A text that a compiled schema has for its wordings, or one that references lead to. -/
def Compiled.Mentions (s : Compiled) (text : String) : Prop :=
  s.root.Mentions text ∨ ∃ e ∈ s.table.forms, e.2.Mentions text

/-- The texts of a cause are names in a value, or have a property. -/
def Cause.IsWorded (T : String → Prop) (v : Value) (c : Cause) : Prop :=
  ∀ text ∈ c.texts, text ∈ v.names ∨ T text

/-- The texts of a condition, or none. -/
lemma Assertion.texts_cause {a : Assertion} {v : Value} {text : String}
    (h : text ∈ (a.cause v).texts) :
    (∃ matcher, a = .pattern text matcher) ∨ ∃ format, a = .format format ∧ format.name = text := by
  cases a with
  | pattern text' matcher =>
    suffices htext : text = text' from .inl ⟨matcher, by rw [htext]⟩
    cases v with
    | string s =>
      rw [cause] at h
      split at h
      · cases h
      · exact List.eq_of_mem_singleton h
    | _ => exact List.eq_of_mem_singleton h
  | format format => exact .inr ⟨format, rfl, (List.eq_of_mem_singleton h).symm⟩
  | base64 ofJson =>
    cases v with
    | string s =>
      rw [cause] at h
      split at h
      · cases h
      · split at h <;> cases h
    | _ => cases h
  | _ => cases h

/-- A value that fails a keyword by itself does so with names of its own or texts of the keyword. -/
lemma Keyword.Fails.isWorded {ks : List Keyword} {k : Keyword} (hk : k ∈ ks) {v : Value} {c : Cause}
    (h : k.Fails v c) : c.IsWorded (Form.all ks).Mentions v := by
  intro text htext
  cases h with
  | @test place a =>
    obtain ⟨matcher, rfl⟩ | ⟨format, rfl, rfl⟩ := Assertion.texts_cause htext
    · exact .inr (.pattern hk)
    · exact .inr (.format hk)
  | required hname =>
    obtain rfl := List.eq_of_mem_singleton htext
    exact .inr (.required hk hname)
  | closed hnames | unevaluatedProperties hnames =>
    obtain ⟨m, hm, rfl⟩ := List.mem_map.mp (hnames htext)
    exact .inl (Json.Value.names_member hm (.inl rfl))
  | _ => cases htext

/-- The texts in the causes of failures are names in the value, texts of the schema, or texts of
what references fail with. -/
theorem Form.isWorded {l : Links} {r : Complaints} {T : String → Prop}
    (hr : ∀ t v, ∀ f ∈ r t v, f.cause.IsWorded T v) :
    ∀ (s : Form) (v : Value), ∀ f ∈ s.failures l r v,
      f.cause.IsWorded (fun text => s.Mentions text ∨ T text) v := by
  refine Form.failures_induction (fun v text htext => absurd htext List.not_mem_nil)
    fun ks v f k hk horigin text htext => ?_
  cases horigin with
  | own hcause _ => exact (hcause.isWorded hk text htext).imp_right .inl
  | below hs hw hg _ =>
    obtain hname | hmentions | hT := hg text htext
    · exact .inl (hw.names_subset hname)
    · exact .inr (.inl (.applied hk hs hmentions))
    · exact .inr (.inr hT)
  | ofName hs hm hg hcause _ =>
    rw [hcause] at htext
    obtain hname | hmentions | hT := hg text htext
    · cases hname
    · exact .inr (.inl (.applied hk hs hmentions))
    · exact .inr (.inr hT)
  | elsewhere hg => exact (hr _ _ _ hg text htext).imp_right .inr

lemma Table.complaints_isWorded (table : Table) (n : Nat) (t : Target) (v : Value) :
    ∀ f ∈ table.complaints n t v,
      f.cause.IsWorded (fun text => ∃ e ∈ table.forms, e.2.Mentions text) v := by
  induction n generalizing t v with
  | zero => exact List.forall_mem_nil _
  | succ n ih =>
    dsimp only [Table.complaints]
    split
    case h_1 s hlookup =>
      intro f hf text htext
      obtain hname | hmentions | hT := Form.isWorded ih s v f hf text htext
      · exact .inl hname
      · exact .inr ⟨_, mem_of_lookup hlookup, hmentions⟩
      · exact .inr hT
    case h_2 => exact List.forall_mem_nil _

/-- The texts in the causes of failures are names in the value or texts of the schema. -/
lemma Compiled.isWorded (s : Compiled) (v : Value) :
    ∀ f ∈ s.failures v, f.cause.IsWorded s.Mentions v :=
  Form.isWorded (s.table.complaints_isWorded _) s.root v

/-! ## Reports on violations -/

/-- The report on a document with violations is as it should be, line by line, exactly if no path
and no message has a line break. Line breaks there come from names in the document and from texts of
the schema, and from nothing else that is in either. -/
theorem Compiled.evaluate_line_by_line (s : Compiled) {v : Value} {path : Path} (color : Bool)
    (hpath : IsOneLine path.text) (hinvalid : s.evaluate v ≠ []) :
    (IsLineByLine color path (s.evaluate v) ↔
        ∀ x ∈ s.evaluate v, IsOneLine x.path ∧ IsOneLine x.message) ∧
      ((∀ name ∈ v.names, IsOneLine name) → (∀ text, s.Mentions text → IsOneLine text) →
        IsLineByLine color path (s.evaluate v)) := by
  have hlines : IsLineByLine color path (s.evaluate v) ↔
      ∀ x ∈ s.evaluate v, IsOneLine x.path ∧ IsOneLine x.message :=
    Report.isLineByLine_iff hpath hinvalid
  refine ⟨hlines, fun hnames hmentions => hlines.mpr fun x hx => ?_⟩
  obtain ⟨f, hf, rfl⟩ := List.mem_map.mp hx
  constructor
  · exact f.isOneLine_path fun name hname => hnames name ((s.located v f hf).1.mem_names hname)
  · refine f.isOneLine_message fun text htext => ?_
    exact (s.isWorded v f hf text htext).elim (hnames text) (hmentions text)

/-- A name that starts a line of its own, which looks like what is said of a valid file. -/
theorem evaluate_forged_line :
    let s : Compiled := { id? := none, root := .all [.closed [("a", .always)] []], table := {} }
    let v : Value := .object [("\n✓ Valid LLM.yml file", .nat 1)]
    let path := Path.ofString "d.json"
    let o := Report.Outcome.checked path (.invalid (s.evaluate v))
    IsOneLine path.text ∧ s.evaluate v ≠ [] ∧ ¬IsLineByLine false path (s.evaluate v) ∧
      "✓ Valid LLM.yml file".toList ∈ (Report.Line.render false o.lines).toList.splitOn '\n' := by
  intro s v path o
  have hpath : IsOneLine path.text := by decide +kernel
  have hinvalid : s.evaluate v ≠ [] := List.cons_ne_nil _ _
  have hbroken : ¬∀ x ∈ s.evaluate v, IsOneLine x.path ∧ IsOneLine x.message := by decide +kernel
  refine ⟨hpath, hinvalid,
    fun h => hbroken ((s.evaluate_line_by_line false hpath hinvalid).1.mp h), ?_⟩
  rw [Report.Line.render, String.toList_ofList]
  decide +kernel

end AgentManifest.Schema
