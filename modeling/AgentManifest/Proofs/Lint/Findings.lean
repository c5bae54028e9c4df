import Mathlib.Data.Prod.Lex
import Mathlib.Tactic.Lemma
import AgentManifest.Proofs.Lint.Checks

/-!
# What the checks find

`Finding.Holds` says what is to be found in a document: an entry with too much code, a section that
is missing, too few examples of use, a solution without an example, a decision tree with too many
levels. It looks at the document and not at the checks. The warnings of the checks are those of the
findings, each once and in the order of their positions (`check_findings`).
-/

namespace AgentManifest.Lint

open Decimal (natString)
open Json (Value)
open Report (Warning)

/-! ## Findings -/

/-- Something that is not as it should be in a document. -/
inductive Finding where
  /-- The code of an entry of a section has so many lines. -/
  | longCode (field : String) (index lines : Nat)
  /-- A section is missing that is recommended at a place of the configuration. -/
  | missingSection (place : Nat) (name : String)
  /-- There are only so many examples of use. -/
  | fewExamples (count : Nat)
  /-- An entry on errors has a solution without an example. -/
  | missingExample (index : Nat)
  /-- The decision tree has so many levels. -/
  | deepTree (levels : Nat)

/-- An entry stands at an index of a section, which is an array. -/
def HasEntry (d : Value) (field : String) (index : Nat) (entry : Value) : Prop :=
  ∃ entries, d.get? field = some (.array entries) ∧ entries[index]? = some entry

/-- There is nothing under a name, or nothing but null or an empty string. -/
def IsBlankUnder (v : Value) (name : String) : Prop :=
  v.get? name = none ∨ v.get? name = some .null ∨ v.get? name = some (.string "")

/-- The longest chains of names from a value have so many names. -/
def LongestChain (v : Value) (n : Nat) : Prop :=
  (∃ names, KeyChain v names ∧ names.length = n) ∧ ∀ names, KeyChain v names → names.length ≤ n

namespace Finding

/-- What has to be so in a document for something to be found. -/
def Holds (c : Config) (d : Value) : Finding → Prop
  | longCode field index lines =>
    (field = "quick_usage" ∨ field = "common_patterns") ∧
      ∃ entry code, HasEntry d field index entry ∧ entry.get? "code" = some (.string code) ∧
        lines = code.toList.count '\n' + 1 ∧ c.maxCodeLines < lines
  | missingSection place name =>
    c.recommendedSections[place]? = some name ∧
      (d.get? name = none ∨ d.get? name = some .null)
  | fewExamples count =>
    ∃ entries, d.get? "quick_usage" = some (.array entries) ∧ count = entries.length ∧
      count < c.minUsageExamples
  | missingExample index =>
    ∃ entry, HasEntry d "error_handling" index entry ∧ ¬IsBlankUnder entry "solution" ∧
      IsBlankUnder entry "example"
  | deepTree levels =>
    ∃ tree, d.get? "decision_tree" = some tree ∧ LongestChain tree levels ∧
      c.maxDecisionTreeDepth < levels

/-- The check that a finding belongs to, in the order in which the checks run. -/
def rank : Finding → Nat
  | longCode _ _ _ => 0
  | missingSection _ _ => 1
  | fewExamples _ => 2
  | missingExample _ => 3
  | deepTree _ => 4

/-- Where a finding stands: its check, then the section and the place in it. -/
def position (f : Finding) : Nat × Nat × Nat :=
  (f.rank,
    match f with
    | longCode field index _ => (if field = "quick_usage" then 0 else 1, index)
    | missingSection place _ => (0, place)
    | fewExamples _ => (0, 0)
    | missingExample index => (0, index)
    | deepTree _ => (0, 0))

/-- One finding stands in front of another one. -/
def Before (f g : Finding) : Prop :=
  Prod.Lex (· < ·) (Prod.Lex (· < ·) (· < ·)) f.position g.position

/-- The warning that tells a finding. -/
def warning (c : Config) : Finding → Warning
  | longCode field index lines =>
    { kind := .codeLength, path := field ++ "[" ++ natString index ++ "]",
      message := "Code example has " ++ natString lines ++ " lines (recommended: at most " ++
        natString c.maxCodeLines ++ ")",
      severity := .minor }
  | missingSection _ name =>
    { kind := .missingSection, path := "/", message := "Missing recommended section: " ++ name,
      severity := .moderate }
  | fewExamples count =>
    { kind := .insufficientExamples, path := "quick_usage",
      message := "Consider adding more usage examples (found " ++ natString count ++
        ", recommended: at least " ++ natString c.minUsageExamples ++ ")",
      severity := .minor }
  | missingExample index =>
    { kind := .missingExample, path := "error_handling" ++ "[" ++ natString index ++ "]",
      message := "Consider adding a code example for this error solution", severity := .minor }
  | deepTree levels =>
    { kind := .deepNesting, path := "decision_tree",
      message := "Decision tree has " ++ natString levels ++
        " levels of nesting (recommended: at most " ++ natString c.maxDecisionTreeDepth ++ ")",
      severity := .moderate }

end Finding

/-! ## Lists of findings -/

variable {c : Config} {d : Value} {P Q : Finding → Prop} {ws vs : List Warning}

/-- Warnings tell the findings of some kind, each once and in their order. -/
def Lists (c : Config) (P : Finding → Prop) (ws : List Warning) : Prop :=
  ∃ fs : List Finding, fs.Pairwise Finding.Before ∧ (∀ f, f ∈ fs ↔ P f) ∧
    ws = fs.map (Finding.warning c)

namespace Lists

lemma congr (h : Lists c P ws) (hiff : ∀ f, P f ↔ Q f) : Lists c Q ws := by
  obtain ⟨fs, hfs, hmem, hws⟩ := h
  exact ⟨fs, hfs, fun f => (hmem f).trans (hiff f), hws⟩

lemma nil (h : ∀ f, ¬P f) : Lists c P [] :=
  ⟨[], List.Pairwise.nil, fun f => iff_of_false List.not_mem_nil (h f), rfl⟩

lemma single {f : Finding} (h : ∀ g, P g ↔ g = f) : Lists c P [f.warning c] :=
  ⟨[f], List.pairwise_singleton _ f, fun g => List.mem_singleton.trans (h g).symm, rfl⟩

/-- What is told first comes before what is told next. -/
lemma append (h : Lists c P ws) (h' : Lists c Q vs) (hbefore : ∀ f g, P f → Q g → f.Before g) :
    Lists c (fun f => P f ∨ Q f) (ws ++ vs) := by
  obtain ⟨fs, hfs, hmem, rfl⟩ := h
  obtain ⟨gs, hgs, hmem', rfl⟩ := h'
  refine ⟨fs ++ gs, ?_, fun f => ?_, List.map_append.symm⟩
  · apply List.pairwise_append.mpr
    exact ⟨hfs, hgs, fun f hf g hg => hbefore f g ((hmem f).mp hf) ((hmem' g).mp hg)⟩
  · exact List.mem_append.trans (or_congr (hmem f) (hmem' f))

/-- The findings at each of some things are told one after the other. -/
lemma zipIdx {α : Type} {report : Nat → α → List Warning} {P : Nat → α → Finding → Prop}
    (h : ∀ i a, Lists c (P i a) (report i a))
    (hbefore : ∀ i j a b f g, i < j → P i a f → P j b g → f.Before g) (as : List α) (i : Nat) :
    Lists c (fun f => ∃ k a, as[k]? = some a ∧ P (i + k) a f)
      ((as.zipIdx i).flatMap fun p => report p.2 p.1) := by
  induction as generalizing i with
  | nil =>
    apply nil
    rintro f ⟨k, a, ha, -⟩
    cases ha
  | cons a as ih =>
    have hlater : ∀ f g, P i a f → (∃ k b, as[k]? = some b ∧ P (i + 1 + k) b g) → f.Before g := by
      rintro f g hf ⟨k, b, -, hg⟩
      exact hbefore i (i + 1 + k) a b f g (by omega) hf hg
    rw [List.zipIdx_cons, List.flatMap_cons]
    apply ((h i a).append (ih (i + 1)) hlater).congr
    intro f
    constructor
    · rintro (hf | ⟨k, b, hb, hf⟩)
      · exact ⟨0, a, rfl, hf⟩
      · refine ⟨k + 1, b, hb, ?_⟩
        rwa [Nat.add_comm k 1, ← Nat.add_assoc]
    · rintro ⟨k, b, hb, hf⟩
      cases k with
      | zero =>
        cases hb
        exact .inl hf
      | succ k =>
        refine .inr ⟨k, b, hb, ?_⟩
        rwa [Nat.add_assoc, Nat.add_comm 1 k]

/-- The checks tell their findings in the order of their ranks. -/
lemma rank_succ {r : Nat} (h : Lists c (fun f => f.rank < r ∧ P f) ws)
    (h' : Lists c (fun f => f.rank = r ∧ P f) vs) :
    Lists c (fun f => f.rank < r + 1 ∧ P f) (ws ++ vs) := by
  apply (h.append h' fun f g hf hg => ?_).congr
  · intro f
    rw [← or_and_right, ← Nat.lt_add_one_iff_lt_or_eq]
  · exact Prod.Lex.left _ _ (Nat.lt_of_lt_of_eq hf.1 hg.1.symm)

end Lists

/-! ## Entries -/

lemma checkEntries_eq_flatMap (check : Nat → Value → Option Warning) (i : Nat) (vs : List Value) :
    checkEntries check i vs = (vs.zipIdx i).flatMap fun p => (check p.2 p.1).toList := by
  induction vs generalizing i with
  | nil => rfl
  | cons v vs ih => rw [checkEntries, ih, List.zipIdx_cons, List.flatMap_cons]

/-- What is found at the entries of a section, if there are any, is told entry by entry. -/
lemma lists_entries {check : Nat → Value → Option Warning} {P : Nat → Value → Finding → Prop}
    (h : ∀ i v, Lists c (P i v) (check i v).toList)
    (hbefore : ∀ i j v w f g, i < j → P i v f → P j w g → f.Before g) (d : Value)
    (field : String) :
    Lists c (fun f => ∃ i entry, HasEntry d field i entry ∧ P i entry f)
      (match entries? d field with
        | some entries => checkEntries check 0 entries
        | none => []) := by
  cases hentries : entries? d field with
  | none =>
    apply Lists.nil
    rintro f ⟨i, entry, ⟨entries, hget, -⟩, -⟩
    exact not_array_of_none hentries hget
  | some entries =>
    have hget := entries?_eq_some_iff.mp hentries
    show Lists c _ (checkEntries check 0 entries)
    rw [checkEntries_eq_flatMap]
    apply (Lists.zipIdx h hbefore entries 0).congr
    intro f
    constructor
    · rintro ⟨k, entry, hentry, hf⟩
      rw [Nat.zero_add] at hf
      exact ⟨k, entry, ⟨entries, hget, hentry⟩, hf⟩
    · rintro ⟨k, entry, ⟨entries', hget', hentry⟩, hf⟩
      cases hget.symm.trans hget'
      refine ⟨k, entry, hentry, ?_⟩
      rwa [Nat.zero_add]

/-! ## Checks -/

/-- An entry has code with more lines than it should have. -/
def HasLongCode (c : Config) (field : String) (i : Nat) (entry : Value) (f : Finding) : Prop :=
  ∃ code, entry.get? "code" = some (.string code) ∧ c.maxCodeLines < code.toList.count '\n' + 1 ∧
    f = .longCode field i (code.toList.count '\n' + 1)

lemma lists_longCode? (field : String) (i : Nat) (entry : Value) :
    Lists c (HasLongCode c field i entry) (longCode? c field i entry).toList := by
  unfold longCode?
  split
  case h_1 hnone =>
    apply Lists.nil
    rintro f ⟨code, hcode, -⟩
    rw [hcode] at hnone
    cases hnone
  case h_2 code hcode =>
    obtain ⟨v, hget, hv⟩ := Option.bind_eq_some_iff.mp hcode
    cases string?_eq_some_iff.mp hv
    split
    case isTrue hshort =>
      apply Lists.nil
      rintro f ⟨code', hget', hlong, -⟩
      cases hget.symm.trans hget'
      exact Nat.not_le.mpr hlong hshort
    case isFalse hlong =>
      show Lists c _ [(Finding.longCode field i (lineCount code)).warning c]
      apply Lists.single
      intro g
      constructor
      · rintro ⟨code', hget', -, rfl⟩
        cases hget.symm.trans hget'
        rfl
      · exact fun hg => ⟨code, hget, Nat.not_le.mp hlong, hg⟩

/-- Long code is told section by section. -/
lemma lists_longCode : Lists c (fun f => f.rank = 0 ∧ f.Holds c d) (checkCodeLength c d) := by
  have hsection (field : String) := lists_entries (lists_longCode? (c := c) field)
    (by
      rintro i j v w f g hij ⟨-, -, -, rfl⟩ ⟨-, -, -, rfl⟩
      exact Prod.Lex.right _ (Prod.Lex.right _ hij)) d field
  have hbefore : ∀ f g : Finding,
      (∃ i entry, HasEntry d "quick_usage" i entry ∧ HasLongCode c "quick_usage" i entry f) →
      (∃ i entry, HasEntry d "common_patterns" i entry ∧
        HasLongCode c "common_patterns" i entry g) → f.Before g := by
    rintro f g ⟨i, -, -, -, -, -, rfl⟩ ⟨j, -, -, -, -, -, rfl⟩
    exact Prod.Lex.right _ (Prod.Lex.left _ _ Nat.zero_lt_one)
  rw [checkCodeLength, codeSections, List.flatMap_cons, List.flatMap_singleton]
  apply ((hsection "quick_usage").append (hsection "common_patterns") hbefore).congr
  intro f
  constructor
  · rintro (⟨i, entry, hentry, code, hcode, hlong, rfl⟩ |
      ⟨i, entry, hentry, code, hcode, hlong, rfl⟩)
    · exact ⟨rfl, .inl rfl, entry, code, hentry, hcode, rfl, hlong⟩
    · exact ⟨rfl, .inr rfl, entry, code, hentry, hcode, rfl, hlong⟩
  · rintro ⟨hrank, hholds⟩
    cases f with
    | longCode field i n =>
      obtain ⟨hfield, entry, code, hentry, hcode, rfl, hlong⟩ := hholds
      rcases hfield with rfl | rfl
      · exact .inl ⟨i, entry, hentry, code, hcode, hlong, rfl⟩
      · exact .inr ⟨i, entry, hentry, code, hcode, hlong, rfl⟩
    | _ => cases hrank

lemma map_filter_eq_flatMap (p : String → Bool) (g : String → Warning) (i : Nat)
    (names : List String) :
    (names.filter p).map g = (names.zipIdx i).flatMap fun q => if p q.1 then [g q.1] else [] := by
  induction names generalizing i with
  | nil => rfl
  | cons name names ih =>
    rw [List.filter_cons, List.zipIdx_cons, List.flatMap_cons, ← ih]
    cases p name <;> rfl

lemma hasSection_eq_false_iff {name : String} :
    hasSection d name = false ↔ d.get? name = none ∨ d.get? name = some .null := by
  unfold hasSection
  cases d.get? name with
  | none => simp
  | some v => cases v <;> simp

/-- Missing sections are told in the order of the configuration. -/
lemma lists_missingSection :
    Lists c (fun f => f.rank = 1 ∧ f.Holds c d) (checkSections c d) := by
  have hsingle (i : Nat) (name : String) :
      Lists c (fun f => hasSection d name = false ∧ f = .missingSection i name)
        (if !hasSection d name then [(Finding.missingSection i name).warning c] else []) := by
    cases hasSection d name with
    | true =>
      apply Lists.nil
      rintro f ⟨hfalse, -⟩
      cases hfalse
    | false =>
      apply Lists.single
      exact fun g => and_iff_right rfl
  have hbefore : ∀ (i j : Nat) (a b : String) (f g : Finding), i < j →
      (hasSection d a = false ∧ f = .missingSection i a) →
      (hasSection d b = false ∧ g = .missingSection j b) → f.Before g := by
    rintro i j a b f g hij ⟨-, rfl⟩ ⟨-, rfl⟩
    exact Prod.Lex.right _ (Prod.Lex.right _ hij)
  rw [checkSections, map_filter_eq_flatMap _ _ 0]
  apply (Lists.zipIdx hsingle hbefore c.recommendedSections 0).congr
  intro f
  constructor
  · rintro ⟨k, name, hname, hmissing, rfl⟩
    rw [Nat.zero_add]
    exact ⟨rfl, hname, hasSection_eq_false_iff.mp hmissing⟩
  · rintro ⟨hrank, hholds⟩
    cases f with
    | missingSection place name =>
      refine ⟨place, name, hholds.1, hasSection_eq_false_iff.mpr hholds.2, ?_⟩
      rw [Nat.zero_add]
    | _ => cases hrank

/-- It is told that there are too few examples of use. -/
lemma lists_fewExamples :
    Lists c (fun f => f.rank = 2 ∧ f.Holds c d) (checkUsageExamples c d) := by
  unfold checkUsageExamples
  split
  case h_1 hnone =>
    apply Lists.nil
    rintro f ⟨hrank, hholds⟩
    cases f with
    | fewExamples n =>
      obtain ⟨entries, hget, -⟩ := hholds
      exact not_array_of_none hnone hget
    | _ => cases hrank
  case h_2 entries hentries =>
    have hget := entries?_eq_some_iff.mp hentries
    split
    case isTrue henough =>
      apply Lists.nil
      rintro f ⟨hrank, hholds⟩
      cases f with
      | fewExamples n =>
        obtain ⟨entries', hget', rfl, hfew⟩ := hholds
        cases hget.symm.trans hget'
        exact Nat.not_lt.mpr henough hfew
      | _ => cases hrank
    case isFalse hfew =>
      show Lists c _ [(Finding.fewExamples entries.length).warning c]
      apply Lists.single
      intro g
      constructor
      · rintro ⟨hrank, hholds⟩
        cases g with
        | fewExamples n =>
          obtain ⟨entries', hget', rfl, -⟩ := hholds
          cases hget.symm.trans hget'
          rfl
        | _ => cases hrank
      · rintro rfl
        exact ⟨rfl, entries, hget, rfl, Nat.not_le.mp hfew⟩

lemma isPresent_eq_false_iff {v : Value} {name : String} :
    isPresent (v.get? name) = false ↔ IsBlankUnder v name := by
  unfold IsBlankUnder
  cases v.get? name with
  | none => simp [isPresent]
  | some w => cases w <;> simp [isPresent]

/-- Solutions without an example are told entry by entry. -/
lemma lists_missingExample :
    Lists c (fun f => f.rank = 3 ∧ f.Holds c d) (checkErrorExamples d) := by
  have hsingle (i : Nat) (entry : Value) :
      Lists c (fun f => (¬IsBlankUnder entry "solution" ∧ IsBlankUnder entry "example") ∧
          f = .missingExample i) (missingExample? i entry).toList := by
    rw [← isPresent_eq_false_iff, ← isPresent_eq_false_iff, missingExample?]
    cases isPresent (entry.get? "solution") <;> cases isPresent (entry.get? "example")
    case true.false =>
      show Lists c _ [(Finding.missingExample i).warning c]
      apply Lists.single
      simp
    all_goals
      apply Lists.nil
      simp
  have hbefore : ∀ (i j : Nat) (v w : Value) (f g : Finding), i < j →
      ((¬IsBlankUnder v "solution" ∧ IsBlankUnder v "example") ∧ f = .missingExample i) →
      ((¬IsBlankUnder w "solution" ∧ IsBlankUnder w "example") ∧ g = .missingExample j) →
      f.Before g := by
    rintro i j v w f g hij ⟨-, rfl⟩ ⟨-, rfl⟩
    exact Prod.Lex.right _ (Prod.Lex.right _ hij)
  apply (lists_entries hsingle hbefore d "error_handling").congr
  intro f
  constructor
  · rintro ⟨i, entry, hentry, ⟨hsolution, hexample⟩, rfl⟩
    exact ⟨rfl, entry, hentry, hsolution, hexample⟩
  · rintro ⟨hrank, hholds⟩
    cases f with
    | missingExample i =>
      obtain ⟨entry, hentry, hsolution, hexample⟩ := hholds
      exact ⟨i, entry, hentry, ⟨hsolution, hexample⟩, rfl⟩
    | _ => cases hrank

/-- The walk over nested objects finds how long the longest chains are. -/
lemma longestChain_iff {v : Value} {n : Nat} : LongestChain v n ↔ n = objectDepth v := by
  have hall := objectDepth_le_iff.mp (Nat.le_refl (objectDepth v))
  have hsome : ∃ names, KeyChain v names ∧ names.length = objectDepth v := by
    by_contra hnone
    have hlt : ∀ names, KeyChain v names → names.length < objectDepth v := by
      intro names hchain
      exact Nat.lt_of_le_of_ne (hall names hchain) fun heq => hnone ⟨names, hchain, heq⟩
    have hpos : 0 < objectDepth v := hlt [] (.nil v)
    have hle : objectDepth v ≤ objectDepth v - 1 :=
      objectDepth_le_iff.mpr fun names hchain => Nat.le_sub_one_of_lt (hlt names hchain)
    omega
  constructor
  · rintro ⟨⟨names, hchain, rfl⟩, hmax⟩
    obtain ⟨names', hchain', hlength⟩ := hsome
    exact Nat.le_antisymm (hall names hchain) (hlength ▸ hmax names' hchain')
  · rintro rfl
    exact ⟨hsome, hall⟩

/-- It is told that the decision tree has too many levels. -/
lemma lists_deepTree :
    Lists c (fun f => f.rank = 4 ∧ f.Holds c d) (checkDecisionTree c d) := by
  unfold checkDecisionTree
  split
  case h_1 hnone =>
    apply Lists.nil
    rintro f ⟨hrank, hholds⟩
    cases f with
    | deepTree n =>
      obtain ⟨tree, hget, -⟩ := hholds
      rw [hnone] at hget
      cases hget
    | _ => cases hrank
  case h_2 tree htree =>
    split
    case isTrue hflat =>
      apply Lists.nil
      rintro f ⟨hrank, hholds⟩
      cases f with
      | deepTree n =>
        obtain ⟨tree', hget', hlongest, hdeep⟩ := hholds
        cases htree.symm.trans hget'
        cases longestChain_iff.mp hlongest
        exact Nat.not_le.mpr hdeep hflat
      | _ => cases hrank
    case isFalse hdeep =>
      show Lists c _ [(Finding.deepTree (objectDepth tree)).warning c]
      apply Lists.single
      intro g
      constructor
      · rintro ⟨hrank, hholds⟩
        cases g with
        | deepTree n =>
          obtain ⟨tree', hget', hlongest, -⟩ := hholds
          cases htree.symm.trans hget'
          cases longestChain_iff.mp hlongest
          rfl
        | _ => cases hrank
      · rintro rfl
        exact ⟨rfl, tree, htree, longestChain_iff.mpr rfl, Nat.not_le.mp hdeep⟩

/-! ## All checks -/

/-- The warnings of the checks tell the findings in a document, each once and in order. -/
theorem check_findings (c : Config) (d : Value) :
    ∃ fs : List Finding, fs.Pairwise Finding.Before ∧ (∀ f, f ∈ fs ↔ f.Holds c d) ∧
      check c d = fs.map (Finding.warning c) := by
  have hnone : Lists c (fun f => f.rank < 0 ∧ f.Holds c d) [] :=
    Lists.nil fun f hf => absurd hf.1 (Nat.not_lt_zero _)
  have hall : Lists c (fun f => f.rank < 5 ∧ f.Holds c d) (check c d) :=
    ((((hnone.rank_succ lists_longCode).rank_succ lists_missingSection).rank_succ
      lists_fewExamples).rank_succ lists_missingExample).rank_succ lists_deepTree
  apply hall.congr
  intro f
  apply and_iff_right
  show f.rank < 5
  cases f <;> simp only [Finding.rank] <;> omega

end AgentManifest.Lint
