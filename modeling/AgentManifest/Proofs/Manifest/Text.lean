import AgentManifest.Manifest.Load
import AgentManifest.Proofs.Yaml.Value

/-!
# Texts in both syntaxes

Read as JSON, the compact and the indented text of a tree give the tree back. The compact text is
read alike as YAML; this takes names that are short enough to be keys of a YAML mapping.
-/

namespace AgentManifest.Manifest

open Json (quote)
open Yaml (Legible Portable)
open Yaml.Scanner (IsWord)

/-! ## Blank texts -/

lemma not_allBlank_of_isWord {word : List Char} (h : IsWord word) :
    Text.allBlank word = false := by
  cases word with
  | nil => exact absurd h id
  | cons ch word =>
    have hrange := (h.1 ch List.mem_cons_self).toNat_range
    have hblank : Text.isBlank ch = false := by
      rw [← Bool.not_eq_true]
      simp only [Text.isBlank, Bool.or_eq_true, Bool.and_eq_true, beq_iff_eq, decide_eq_true_eq]
      omega
    rw [Text.allBlank, List.all_cons, hblank, Bool.false_and]

/-- The compact text of a tree is not blank. -/
lemma not_allBlank_write {v : Json.Value} (hn : ∀ n ∈ v.numbers, n.IsWord) :
    Text.allBlank v.write = false := by
  cases v with
  | null => exact not_allBlank_of_isWord Yaml.isWord_null
  | bool b =>
    cases b with
    | false => exact not_allBlank_of_isWord Yaml.isWord_false
    | true => exact not_allBlank_of_isWord Yaml.isWord_true
  | number n =>
    cases n with
    | int i => exact not_allBlank_of_isWord (Yaml.isWord_intText i)
    | float x => exact absurd (hn _ (List.mem_singleton_self _)) id
  | string text => rfl
  | array vs => cases vs <;> rfl
  | object ms =>
    cases ms with
    | nil => rfl
    | cons m ms => rfl

/-! ## JSON -/

lemma parse_json_compact {v : Json.Value} (hwf : v.WellFormed) (hnesting : v.nesting ≤ 127)
    (hnumbers : ∀ n ∈ v.numbers, n.IsWord) : parse .json v.compact = .ok v := by
  have hread := Json.read_compact hnesting hnumbers
  rw [Json.Value.ordered_of_wellFormed hwf] at hread
  rw [parse, hread]

lemma parse_json_pretty {v : Json.Value} (hwf : v.WellFormed) (hnesting : v.nesting ≤ 127)
    (hnumbers : ∀ n ∈ v.numbers, n.IsWord) : parse .json v.pretty = .ok v := by
  have hread := Json.read_pretty hnesting hnumbers
  rw [Json.Value.ordered_of_wellFormed hwf] at hread
  rw [parse, hread]

/-- Both texts of a tree give the tree back, if the numbers in the tree are 64-bit integers and at
most 127 arrays and objects lie around a value. -/
theorem parse_json_written {v : Json.Value} (hwf : v.WellFormed) (hnesting : v.nesting ≤ 127)
    (hnumbers : ∀ n ∈ v.numbers, n.IsWord) :
    parse .json v.compact = .ok v ∧ parse .json v.pretty = .ok v :=
  ⟨parse_json_compact hwf hnesting hnumbers, parse_json_pretty hwf hnesting hnumbers⟩

/-- A tree with the least and the greatest integer, empty containers, and names and strings of
characters that are escaped or take several bytes. -/
def extremes : Json.Value :=
  .object [("", .array [.number (.int (-2 ^ 63)), .number (.int (2 ^ 64 - 1)), .object [],
    .array []]), ("\x00\n\"\\", .object [("\x7f", .bool false), ("😀", .string "\x1b\uffff")])]

theorem parse_json_extremes :
    extremes.WellFormed ∧ extremes.nesting = 3 ∧
      extremes.numbers = [.int (-2 ^ 63), .int (2 ^ 64 - 1)] ∧
      parse .json extremes.compact = .ok extremes ∧ parse .json extremes.pretty = .ok extremes := by
  have hwf : extremes.WellFormed := by
    simp only [extremes, Json.Value.WellFormed, Json.Value.WellFormedMembers,
      Json.Value.WellFormedItems]
    decide
  have hnumbers : extremes.numbers = [.int (-2 ^ 63), .int (2 ^ 64 - 1)] := rfl
  refine ⟨hwf, by decide, hnumbers, parse_json_written hwf (by decide) ?_⟩
  rw [hnumbers, List.forall_mem_cons, List.forall_mem_singleton]
  exact ⟨⟨by decide, by decide⟩, by decide, by decide⟩

/-! ## Both syntaxes -/

/-- The compact text of a tree gives the tree back in both syntaxes, if the numbers in the tree are
64-bit integers, its strings are legible, and its names take no more than 1024 bytes each as they
are written. -/
theorem parse_compact {v : Json.Value} (hwf : v.WellFormed) (hnesting : v.nesting ≤ 120)
    (hnumbers : ∀ n ∈ v.numbers, n.IsWord)
    (hstrings : ∀ text ∈ v.strings, ∀ ch ∈ text.toList, Legible ch)
    (hnames : ∀ name ∈ v.names, Text.byteLength (quote name) ≤ 1024) :
    parse .json v.compact = .ok v ∧ parse .yaml v.compact = .ok v := by
  constructor
  · exact parse_json_compact hwf (by omega) hnumbers
  · have hdepth : v.nesting ≤ Yaml.maxDepth := Nat.le_trans hnesting (by decide)
    have hread := Yaml.readChars_write hwf hdepth ⟨hnumbers, hstrings, hnames⟩
    have htext : v.compact.toList = v.write := String.toList_ofList
    simp only [parse, htext, not_allBlank_write hnumbers, Bool.false_eq_true, if_false, parseYaml,
      hread, Yaml.toJson_ofJson hwf hnumbers]

/-- A tree with strings that YAML would take for other things if they were not quoted. -/
def tricky : Json.Value :=
  .object [("", .array [.number (.int (-7)), .string "null", .object [], .array []]),
    ("a: b # \n", .object [("~", .bool true), ("é", .null)])]

theorem parse_compact_tricky :
    tricky.WellFormed ∧ parse .json tricky.compact = .ok tricky ∧
      parse .yaml tricky.compact = .ok tricky := by
  have hwf : tricky.WellFormed := by
    simp only [tricky, Json.Value.WellFormed, Json.Value.WellFormedMembers,
      Json.Value.WellFormedItems]
    decide
  refine ⟨hwf, parse_compact hwf (by decide) ?_ ?_ ?_⟩
  · have hnumbers : tricky.numbers = [.int (-7)] := rfl
    rw [hnumbers, List.forall_mem_singleton]
    exact ⟨by decide, by decide⟩
  · have hlegible :
        tricky.strings.all (fun text => text.toList.all fun ch => Legible ch) = true := by
      have hstrings : tricky.strings = ["", "null", "a: b # \n", "~", "é"] := rfl
      rw [hstrings]
      decide
    simpa only [List.all_eq_true, decide_eq_true_iff] using hlegible
  · have hnames : tricky.names = ["", "a: b # \n", "~", "é"] := rfl
    rw [hnames]
    decide

/-- A tree with a name of 256 characters, which take four bytes each. -/
def wide : Json.Value := .object [(String.ofList (List.replicate 256 '😀'), .number (.int 1))]

/-- A name of less than 1000 characters may take so many bytes that it is no key in YAML. -/
theorem parse_compact_wide :
    wide.WellFormed ∧ wide.nesting ≤ 120 ∧ (∀ n ∈ wide.numbers, n.IsWord) ∧
      (∀ text ∈ wide.strings, ∀ ch ∈ text.toList, Legible ch) ∧
      (∀ name ∈ wide.names, (quote name).length < 1000) ∧
      parse .json wide.compact = .ok wide ∧ parse .yaml wide.compact ≠ .ok wide := by
  have hwf : wide.WellFormed := by
    simp only [wide, Json.Value.WellFormed, Json.Value.WellFormedMembers]
    exact ⟨List.pairwise_singleton _ _, trivial, trivial⟩
  have hnumbers : ∀ n ∈ wide.numbers, n.IsWord := by
    have hone : wide.numbers = [.int 1] := rfl
    rw [hone, List.forall_mem_singleton]
    exact ⟨by decide, by decide⟩
  have hname : (String.ofList (List.replicate 256 '😀')).toList = List.replicate 256 '😀' :=
    String.toList_ofList
  refine ⟨hwf, by decide, hnumbers, ?_, ?_, parse_json_compact hwf (by decide) hnumbers, ?_⟩
  · have hstrings : wide.strings = [String.ofList (List.replicate 256 '😀')] := rfl
    rw [hstrings, List.forall_mem_singleton, hname]
    intro ch hch
    rw [List.eq_of_mem_replicate hch]
    decide
  · have hnames : wide.names = [String.ofList (List.replicate 256 '😀')] := rfl
    rw [hnames, List.forall_mem_singleton, quote, hname]
    decide +kernel
  · intro hparse
    have htext : wide.compact.toList = wide.write := String.toList_ofList
    have hfail : (parseYaml wide.write).isOk = false := by
      rw [wide, Json.Value.write, quote, hname]
      decide +kernel
    rw [parse, htext, not_allBlank_write hnumbers, if_neg Bool.false_ne_true] at hparse
    rw [hparse] at hfail
    cases hfail

end AgentManifest.Manifest
