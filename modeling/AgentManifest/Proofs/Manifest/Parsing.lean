import AgentManifest.Json.Printer
import AgentManifest.Manifest.Load
import AgentManifest.Proofs.Json.Stopping
import AgentManifest.Proofs.Yaml.Blank
import AgentManifest.Proofs.Yaml.Nesting

/-!
# What parsing promises

A text that is no JSON is refused with the line and the column at which reading stopped, which is a
place in the text. Whatever a text says that is accepted, its tree has at most 128 arrays and
objects in one another, and so has the YAML value that it comes from. What goes down such a value
step by step comes to its end. A blank text is taken for null without being read. If it is accepted,
null is what it means, unless a character in it is no white space to YAML.
-/

namespace AgentManifest.Manifest

open Decimal (natString)
open Json (Location)
open Text (PointsInto)

/-! ## Refusals -/

/-- The refusal of a JSON text says where in the text it arises, and its message ends in that. -/
theorem parse_json_points {text : String} {e : ReadError} (h : parse .json text = .error e) :
    ∃ line column, e.location? = some (line, column) ∧
      (∃ reason, e.message =
        reason ++ " at line " ++ natString line ++ " column " ++ natString column) ∧
      PointsInto text.toList line column := by
  rw [parse, Json.read] at h
  split at h
  case h_2 => cases h
  case h_1 e' he' =>
    cases h
    obtain ⟨n, hn, hplace⟩ := Json.exists_offset he'
    refine ⟨e'.place.line, e'.place.column, rfl, ⟨e'.cause.text, rfl⟩, ?_⟩
    rw [hplace]
    exact Text.Place.pointsInto_advance hn

/-- A text that ends on its second line, behind a character of two bytes. -/
theorem parse_json_points_wide :
    parse .json "[\n1,é" =
        .error (.json { cause := .expectedValue, place := { line := 2, column := 3 } }) ∧
      PointsInto "[\n1,é".toList 2 3 := by
  have h : parse .json "[\n1,é" =
      .error (.json { cause := .expectedValue, place := { line := 2, column := 3 } }) := by rfl
  obtain ⟨line, column, hlocation, -, hpoints⟩ := parse_json_points h
  cases hlocation
  exact ⟨h, hpoints⟩

/-! ## Nesting -/

lemma nesting_of_parse {format : Format} {text : String} {v : Json.Value}
    (h : parse format text = .ok v) : v.nesting ≤ 128 := by
  unfold parse at h
  split at h
  case h_1 =>
    split at h
    case h_1 => cases h
    case h_2 w hread =>
      cases h
      exact Nat.le_of_lt (Json.readChars_nesting hread)
  case h_2 =>
    split at h
    case isTrue =>
      cases h
      exact Nat.zero_le _
    case isFalse =>
      unfold parseYaml at h
      split at h
      case h_1 => cases h
      case h_2 y hread =>
        split at h
        case h_1 => cases h
        case h_2 w hjson =>
          cases h
          have hwithin := Yaml.readChars_within _ y hread
          exact (Yaml.Value.nesting_le_of_toJson hjson).trans hwithin.nesting

/-- No value of a tree that is read lies under more than 128 arrays and objects, and the YAML value
that becomes a tree is bounded likewise, with at most a tag more for each of its collections. -/
theorem parse_nesting (text : String) :
    (∀ format v, parse format text = .ok v →
      v.nesting ≤ 128 ∧ ∀ l : Location, v.Leads l → l.length ≤ 128) ∧
      ∀ y, Yaml.readChars text.toList = .ok y → y.nesting ≤ 128 ∧ y.height ≤ 2 * 128 + 2 := by
  refine ⟨fun format v h => ?_, fun y h => ?_⟩
  · have hnesting := nesting_of_parse h
    exact ⟨hnesting, fun l hl => hl.length_le.trans hnesting⟩
  · have hwithin := Yaml.readChars_within _ y h
    exact ⟨hwithin.nesting, hwithin.height⟩

/-- Aliases that stand for a sequence with an alias in it, under a tag, expand within the bound. -/
theorem parse_nesting_aliases : ∃ v,
    parse .yaml "[&a [1], &b !t [*a, 2], *b]" = .ok v ∧ v.compact = "[[1],[[1],2],[[1],2]]" ∧
      v.nesting ≤ 128 := by
  have hread : (match parse .yaml "[&a [1], &b !t [*a, 2], *b]" with
      | .ok v => v.compact == "[[1],[[1],2],[[1],2]]"
      | .error _ => false) = true := by decide +kernel
  split at hread
  case h_1 v hv =>
    exact ⟨v, hv, eq_of_beq hread, ((parse_nesting _).1 _ _ hv).1⟩
  case h_2 => cases hread

/-! ## Blank texts -/

/-- What is parsed from an accepted YAML text is the JSON form of its value, unless the text is
blank with a character in it that is no white space to YAML. A blank text gives null whatever its
value is, and that is null for spaces and line breaks and else a string, if there is one. -/
theorem parse_yaml_eq_toJson_iff (text : String) :
    (∀ y, Yaml.readChars text.toList = .ok y →
      (parse .yaml text = y.toJson.mapError .noJson ↔ ¬Yaml.IsUnseen text.toList)) ∧
      (Text.allBlank text.toList = true → parse .yaml text = .ok .null ∧
        (Yaml.readChars text.toList).toOption = Yaml.blankValue? text.toList) := by
  have hnull (hblank : Text.allBlank text.toList = true) : parse .yaml text = .ok .null := by
    simp only [parse, hblank, if_true]
  refine ⟨fun y h => ?_, fun hblank => ⟨hnull hblank, Yaml.readChars_blank hblank⟩⟩
  cases hblank : Text.allBlank text.toList with
  | false =>
    have hseen : ¬Yaml.IsUnseen text.toList := fun hunseen => by
      rw [hunseen.1] at hblank
      cases hblank
    refine iff_of_true ?_ hseen
    simp only [parse, hblank, Bool.false_eq_true, if_false, parseYaml, h]
    cases y.toJson <;> rfl
  | true =>
    have hvalue : Yaml.blankValue? text.toList = some y := by
      rw [← Yaml.readChars_blank hblank, h]
      rfl
    rw [hnull hblank]
    rcases Yaml.blankValue?_cases hblank hvalue with ⟨rfl, hseen⟩ | ⟨s, rfl, hunseen⟩
    · exact iff_of_true rfl hseen
    · refine iff_of_false ?_ (not_not_intro hunseen)
      intro hsame
      cases hsame

/-- Two lines with a no-break space and an ideographic space. -/
theorem parse_yaml_no_break_space :
    Yaml.readChars "\n \u00a0\n\u3000 ".toList = .ok (.string "\u00a0 \u3000") ∧
      parse .yaml "\n \u00a0\n\u3000 " = .ok .null ∧
      parse .yaml "\n \u00a0\n\u3000 " ≠
        (Yaml.Value.string "\u00a0 \u3000").toJson.mapError .noJson := by
  obtain ⟨hvalue, hblank⟩ := parse_yaml_eq_toJson_iff "\n \u00a0\n\u3000 "
  have hread : Yaml.readChars "\n \u00a0\n\u3000 ".toList = .ok (.string "\u00a0 \u3000") := by rfl
  have hunseen : Yaml.IsUnseen "\n \u00a0\n\u3000 ".toList := ⟨rfl, '\u00a0', by decide, rfl⟩
  exact ⟨hread, (hblank hunseen.1).1, fun h => (hvalue _ hread).mp h hunseen⟩

end AgentManifest.Manifest
