import AgentManifest.Lint.Config
import AgentManifest.Proofs.Json.Records
import AgentManifest.Report.Verdict

/-!
# Decoding undoes encoding

Warnings, configurations and violations are decoded from what they are encoded as, and from the
array of their fields. Names that are no fields are passed over in a warning or a violation, and make
a configuration fail.
-/

namespace AgentManifest.Report

open Json (Layout Members Recovers Shape Value decodeText)

variable {l : Layout} {depth : Nat} {es : List (String × List Char)}

/-! ## Warnings -/

namespace Warning

variable {w : Warning}

/-- The values of the fields. -/
def row (w : Warning) : List Value :=
  [.string w.kind.name, .string w.path, .string w.message, .string w.severity.name]

/-- The state in which every field has its value. -/
def full (w : Warning) : Partial :=
  { kind := some w.kind, path := some w.path, message := some w.message,
    severity := some w.severity }

lemma makes : shape.Makes {} Partial.get decode := fun _ _ _ => rfl

lemma complete_full (w : Warning) : shape.Complete w.full := by
  intro field hfield _
  simp only [shape, List.mem_cons, List.not_mem_nil, or_false] at hfield
  rcases hfield with rfl | rfl | rfl | rfl <;> rfl

lemma decodeKind_reads (kind : WarningKind) :
    decodeKind.Reads depth (l.write 1 (.string kind.name)) kind :=
  Json.decodeVariant_reads (by cases kind <;> decide)

lemma decodeSeverity_reads (severity : Severity) :
    decodeSeverity.Reads depth (l.write 1 (.string severity.name)) severity :=
  Json.decodeVariant_reads (by cases severity <;> decide)

lemma takes (l : Layout) {ms : Members} (h : w.toJson = .object ms) :
    shape.Takes depth (l.texts ms) {} w.full := by
  cases h
  refine .field rfl rfl (Json.Field.of_reads (decodeKind_reads w.kind) _) ?_
  refine .field rfl rfl (Json.Field.of_reads (Json.decodeString_reads w.path) _) ?_
  refine .field rfl rfl (Json.Field.of_reads (Json.decodeString_reads w.message) _) ?_
  refine .field rfl rfl (Json.Field.of_reads (decodeSeverity_reads w.severity) _) ?_
  exact .nil _

lemma fills (w : Warning) (l : Layout) : Shape.Fills depth l shape.fields w.row {} w.full := by
  refine .cons (Json.Field.of_reads (decodeKind_reads w.kind) _) ?_
  refine .cons (Json.Field.of_reads (Json.decodeString_reads w.path) _) ?_
  refine .cons (Json.Field.of_reads (Json.decodeString_reads w.message) _) ?_
  refine .cons (Json.Field.of_reads (decodeSeverity_reads w.severity) _) ?_
  exact .nil _

lemma recovers_toJson (w : Warning) : Recovers decode w.toJson w := by
  refine Json.recovers_of_write fun l => ?_
  have htakes : shape.Takes 127 _ {} w.full := takes l rfl
  have hdecode := htakes.decodeText_eq l makes w.complete_full
  rwa [Layout.record_texts l (List.cons_ne_nil _ _)] at hdecode

lemma recovers_row (w : Warning) : Recovers decode (.array w.row) w := by
  refine Json.recovers_of_write fun l => (w.fills l).decodeText_eq makes rfl ?_
  simp [row, Value.numbers]

/-- Members that are no fields have no part in a warning. -/
lemma decode_extends (h : shape.Extends l w.toJson es) (htexts : shape.OthersAreTexts es) :
    decodeText decode (String.ofList (l.record es)) = .ok w := by
  obtain ⟨ms, hms, hfilter⟩ := h
  have htakes : shape.Takes 127 es {} w.full := .of_filter rfl htexts (hfilter ▸ takes l hms)
  exact htakes.decodeText_eq l makes w.complete_full

end Warning

/-! ## Violations -/

namespace Violation

variable {v : Violation}

/-- The values of the fields; absent parameters are null. -/
def row (v : Violation) : List Value :=
  [.string v.path, .string v.message,
    match v.params with
      | some ms => .object ms
      | none => .null,
    .string v.schemaPath]

/-- Parameters are an object of 64-bit integers that is not nested too deeply. -/
def Plain (v : Violation) : Prop :=
  ∀ ms ∈ v.params, (Value.object ms).WellFormed ∧ (Value.object ms).nesting ≤ 126 ∧
    ∀ n ∈ (Value.object ms).numbers, n.IsWord

/-- The state in which every field but the parameters has its value. -/
def full (v : Violation) (params : Option (Option Members)) : Partial :=
  { path := some v.path, message := some v.message, params, schemaPath := some v.schemaPath }

lemma makes : shape.Makes {} Partial.get decode := fun _ _ _ => rfl

lemma complete_full (v : Violation) (params : Option (Option Members)) :
    shape.Complete (v.full params) := by
  intro field hfield hrequired
  simp only [shape, List.mem_cons, List.not_mem_nil, or_false] at hfield
  rcases hfield with rfl | rfl | rfl | rfl
  case inr.inr.inl => cases hrequired
  all_goals rfl

lemma get_full {params : Option (Option Members)} (h : params.getD none = v.params) :
    (v.full params).get = v := by
  simp only [Partial.get, full, h, Option.getD_some]

lemma params_reads {ms : Members} (h : (Value.object ms).WellFormed)
    (hdepth : (Value.object ms).nesting ≤ 126)
    (hwords : ∀ n ∈ (Value.object ms).numbers, n.IsWord) :
    (Json.decodeOption Json.decodeMembers).Reads 127 (l.write 1 (.object ms)) (some ms) := by
  have hreads : Json.decodeMembers.Reads 127 (l.write 1 (.object ms)) ms :=
    Json.decodeMembers_reads h (Nat.lt_succ_of_le hdepth) hwords
  obtain ⟨s, hwrite⟩ := Json.exists_write_object l 1 ms
  rw [hwrite] at hreads ⊢
  exact Json.decodeOption_reads hreads rfl (by decide)

lemma takes (l : Layout) {ms : Members} (hplain : v.Plain) (h : v.toJson = .object ms) :
    shape.Takes 127 (l.texts ms) {} (v.full (v.params.map some)) := by
  obtain ⟨path, message, params, schemaPath⟩ := v
  cases params with
  | none =>
    cases h
    refine .field rfl rfl (Json.Field.of_reads (Json.decodeString_reads path) _) ?_
    refine .field rfl rfl (Json.Field.of_reads (Json.decodeString_reads message) _) ?_
    refine .field rfl rfl (Json.Field.of_reads (Json.decodeString_reads schemaPath) _) ?_
    exact .nil _
  | some params =>
    obtain ⟨hform, hdepth, hwords⟩ := hplain params rfl
    cases h
    refine .field rfl rfl (Json.Field.of_reads (Json.decodeString_reads path) _) ?_
    refine .field rfl rfl (Json.Field.of_reads (Json.decodeString_reads message) _) ?_
    refine .field rfl rfl (Json.Field.of_reads (params_reads hform hdepth hwords) _) ?_
    refine .field rfl rfl (Json.Field.of_reads (Json.decodeString_reads schemaPath) _) ?_
    exact .nil _

lemma fills (l : Layout) (hplain : v.Plain) :
    Shape.Fills 127 l shape.fields v.row {} (v.full (some v.params)) := by
  obtain ⟨path, message, params, schemaPath⟩ := v
  refine .cons (Json.Field.of_reads (Json.decodeString_reads path) _) ?_
  refine .cons (Json.Field.of_reads (Json.decodeString_reads message) _) ?_
  cases params with
  | none =>
    refine .cons (Json.Field.of_reads (Json.decodeOption_null _) _) ?_
    refine .cons (Json.Field.of_reads (Json.decodeString_reads schemaPath) _) ?_
    exact .nil _
  | some params =>
    obtain ⟨hform, hdepth, hwords⟩ := hplain params rfl
    refine .cons (Json.Field.of_reads (params_reads hform hdepth hwords) _) ?_
    refine .cons (Json.Field.of_reads (Json.decodeString_reads schemaPath) _) ?_
    exact .nil _

lemma row_words (hplain : v.Plain) : ∀ j ∈ v.row, ∀ n ∈ j.numbers, n.IsWord := by
  obtain ⟨path, message, params, schemaPath⟩ := v
  cases params with
  | none => simp [row, Value.numbers]
  | some params =>
    obtain ⟨-, -, hwords⟩ := hplain params rfl
    simpa [row, Value.numbers] using hwords

lemma recovers_toJson (hplain : v.Plain) : Recovers decode v.toJson v := by
  refine Json.recovers_of_write fun l => ?_
  have hget : (v.full (v.params.map some)).get = v := get_full (by cases v.params <;> rfl)
  have hdecode := (takes l hplain (rfl : v.toJson = _)).decodeText_eq l makes (v.complete_full _)
  rwa [Layout.record_texts l (by simp), hget] at hdecode

lemma recovers_row (hplain : v.Plain) : Recovers decode (.array v.row) v := by
  refine Json.recovers_of_write fun l => ?_
  have hget : (v.full (some v.params)).get = v := get_full rfl
  have hdecode := (fills l hplain).decodeText_eq makes rfl (row_words hplain)
  rwa [hget] at hdecode

/-- Members that are no fields have no part in a violation. -/
lemma decode_extends (hplain : v.Plain) (h : shape.Extends l v.toJson es)
    (htexts : shape.OthersAreTexts es) :
    decodeText decode (String.ofList (l.record es)) = .ok v := by
  obtain ⟨ms, hms, hfilter⟩ := h
  have hget : (v.full (v.params.map some)).get = v := get_full (by cases v.params <;> rfl)
  have htakes : shape.Takes 127 es {} (v.full (v.params.map some)) :=
    .of_filter rfl htexts (hfilter ▸ takes l hplain hms)
  have hdecode := htakes.decodeText_eq l makes (v.complete_full _)
  rwa [hget] at hdecode

end Violation

end AgentManifest.Report

namespace AgentManifest.Lint.Config

open Json (Layout Members Recovers Shape Value decodeText)

variable {c : Config} {l : Layout} {es : List (String × List Char)}

/-! ## Configurations -/

/-- The values of the fields. -/
def row (c : Config) : List Value :=
  [.nat c.maxCodeLines, .nat c.maxFileSize, .nat c.minUsageExamples, .nat c.maxDecisionTreeDepth,
    .array (c.recommendedSections.map .string)]

/-- The numbers have 64 bits. -/
structure Words (c : Config) : Prop where
  maxCodeLines : c.maxCodeLines < 2 ^ 64
  maxFileSize : c.maxFileSize < 2 ^ 64
  minUsageExamples : c.minUsageExamples < 2 ^ 64
  maxDecisionTreeDepth : c.maxDecisionTreeDepth < 2 ^ 64

/-- The state in which every field has its value. -/
def full (c : Config) : Partial :=
  { maxCodeLines := some c.maxCodeLines, maxFileSize := some c.maxFileSize,
    minUsageExamples := some c.minUsageExamples,
    maxDecisionTreeDepth := some c.maxDecisionTreeDepth,
    recommendedSections := some c.recommendedSections }

lemma makes : shape.Makes {} Partial.get decode := fun _ _ _ => rfl

/-- No field is needed. -/
lemma complete (st : Partial) : shape.Complete st := by
  intro field hfield hrequired
  simp only [shape, List.mem_cons, List.not_mem_nil, or_false] at hfield
  rcases hfield with rfl | rfl | rfl | rfl | rfl <;> cases hrequired

lemma string_words (s : String) : ∀ n ∈ (Value.string s).numbers, n.IsWord := by
  simp [Value.numbers]

lemma sections_reads (sections : List String) :
    (Json.decodeList Json.decodeString).Reads 127 (l.write 1 (.array (sections.map .string)))
      sections :=
  Json.decodeList_reads (fun s _ => Json.decodeString_reads s) (fun s _ => string_words s)
    (by decide)

lemma takes (l : Layout) (hwords : c.Words) {ms : Members} (h : c.toJson = .object ms) :
    shape.Takes 127 (l.texts ms) {} c.full := by
  cases h
  refine .field rfl rfl (Json.Field.of_reads (Json.decodeNatural_reads hwords.maxCodeLines _) _) ?_
  refine .field rfl rfl (Json.Field.of_reads (Json.decodeNatural_reads hwords.maxFileSize _) _) ?_
  refine .field rfl rfl
    (Json.Field.of_reads (Json.decodeNatural_reads hwords.minUsageExamples _) _) ?_
  refine .field rfl rfl
    (Json.Field.of_reads (Json.decodeNatural_reads hwords.maxDecisionTreeDepth _) _) ?_
  refine .field rfl rfl (Json.Field.of_reads (sections_reads c.recommendedSections) _) ?_
  exact .nil _

lemma fills (l : Layout) (hwords : c.Words) :
    Shape.Fills 127 l shape.fields c.row {} c.full := by
  refine .cons (Json.Field.of_reads (Json.decodeNatural_reads hwords.maxCodeLines _) _) ?_
  refine .cons (Json.Field.of_reads (Json.decodeNatural_reads hwords.maxFileSize _) _) ?_
  refine .cons (Json.Field.of_reads (Json.decodeNatural_reads hwords.minUsageExamples _) _) ?_
  refine .cons (Json.Field.of_reads (Json.decodeNatural_reads hwords.maxDecisionTreeDepth _) _) ?_
  refine .cons (Json.Field.of_reads (sections_reads c.recommendedSections) _) ?_
  exact .nil _

lemma numbers_strings (ss : List String) :
    Value.numbersOfItems (ss.map Value.string) = [] := by
  induction ss with
  | nil => rfl
  | cons s ss ih => rw [List.map_cons, Value.numbersOfItems, ih]; rfl

lemma row_words (hwords : c.Words) : ∀ j ∈ c.row, ∀ n ∈ j.numbers, n.IsWord := by
  have hnat {n : Nat} (h : n < 2 ^ 64) : (Json.Number.int n).IsWord := by
    simp only [Json.Number.IsWord]
    omega
  simp only [row, Value.nat, List.forall_mem_cons, Value.numbers, numbers_strings]
  simp [hnat hwords.maxCodeLines, hnat hwords.maxFileSize, hnat hwords.minUsageExamples,
    hnat hwords.maxDecisionTreeDepth]

lemma recovers_toJson (hwords : c.Words) : Recovers decode c.toJson c := by
  refine Json.recovers_of_write fun l => ?_
  have hdecode := (takes l hwords (rfl : c.toJson = _)).decodeText_eq l makes (complete _)
  rwa [Layout.record_texts l (List.cons_ne_nil _ _)] at hdecode

lemma recovers_row (hwords : c.Words) : Recovers decode (.array c.row) c := by
  refine Json.recovers_of_write fun l => ?_
  exact (fills l hwords).decodeText_eq makes rfl (row_words hwords)

/-- A member that is no field makes a configuration fail. -/
lemma refuses_extends (hwords : c.Words) (h : shape.Extends l c.toJson es)
    (hother : ∃ e ∈ es, shape.knows e.1 = false) :
    ∃ name error, shape.knows name = false ∧
      decodeText decode (String.ofList (l.record es)) = .error error ∧
      error.cause = .shape (.unknownField name shape.names) := by
  obtain ⟨ms, hms, hfilter⟩ := h
  have htakes := takes l hwords hms
  rw [← hfilter] at htakes
  -- what stands before the first name that is no field is taken up
  obtain ⟨e, hfind⟩ : ∃ e, es.find? (fun e => !shape.knows e.1) = some e := by
    rw [← Option.isSome_iff_exists, List.find?_isSome]
    simpa using hother
  obtain ⟨he, before, after, rfl, hbefore⟩ := List.find?_eq_some_iff_append.mp hfind
  rw [Bool.not_eq_true'] at he
  rw [List.filter_append, List.filter_eq_self.mpr (by simpa using hbefore)] at htakes
  obtain ⟨st, hst⟩ := htakes.append_left
  obtain ⟨error, herror, hcause⟩ :=
    hst.decodeText_refuse l makes rfl he e.2 after
  exact ⟨e.1, error, he, herror, hcause⟩

end AgentManifest.Lint.Config

namespace AgentManifest.Report

open Json (Layout Recovers decodeText)
open Lint (Config)

/-- Warnings, violations and configurations are decoded from what they are encoded as, and from the
array of their fields. Further members have no part in a warning or a violation, whatever their
texts are, and make a configuration fail. -/
theorem recovers_encoded :
    (∀ w : Warning,
      Recovers Warning.decode w.toJson w ∧ Recovers Warning.decode (.array w.row) w ∧
      ∀ (l : Layout) (es : List (String × List Char)), Warning.shape.Extends l w.toJson es →
        Warning.shape.OthersAreTexts es →
          decodeText Warning.decode (String.ofList (l.record es)) = .ok w) ∧
    (∀ v : Violation, v.Plain →
      Recovers Violation.decode v.toJson v ∧ Recovers Violation.decode (.array v.row) v ∧
      ∀ (l : Layout) (es : List (String × List Char)), Violation.shape.Extends l v.toJson es →
        Violation.shape.OthersAreTexts es →
          decodeText Violation.decode (String.ofList (l.record es)) = .ok v) ∧
    ∀ c : Config, c.Words →
      Recovers Config.decode c.toJson c ∧ Recovers Config.decode (.array c.row) c ∧
      ∀ (l : Layout) (es : List (String × List Char)), Config.shape.Extends l c.toJson es →
        (∃ e ∈ es, Config.shape.knows e.1 = false) →
          ∃ name error, Config.shape.knows name = false ∧
            decodeText Config.decode (String.ofList (l.record es)) = .error error ∧
            error.cause = .shape (.unknownField name Config.shape.names) := by
  refine ⟨fun w => ?warning, fun v hplain => ?violation, fun c hwords => ?config⟩
  case warning =>
    exact ⟨w.recovers_toJson, w.recovers_row, fun _ _ => Warning.decode_extends⟩
  case violation =>
    exact ⟨Violation.recovers_toJson hplain, Violation.recovers_row hplain,
      fun _ _ => Violation.decode_extends hplain⟩
  case config =>
    exact ⟨Config.recovers_toJson hwords, Config.recovers_row hwords,
      fun _ _ => Config.refuses_extends hwords⟩

/-- A violation at the empty path, with a limit and a further member, and the defaults with a
further member. -/
theorem recovers_encoded_further :
    let v : Violation :=
      { path := "", message := "too many", params := some [("limit", .nat 3)],
        schemaPath := "/maxItems" }
    let further := ("more", ['[', '1', 'e', '9', ']'])
    v.Plain ∧ ({} : Config).Words ∧
    (∃ es, further ∈ es ∧
      decodeText Violation.decode (String.ofList (Layout.compact.record es)) = .ok v) ∧
    ∃ es name error, further ∈ es ∧
      decodeText Config.decode (String.ofList (Layout.compact.record es)) = .error error ∧
      error.cause = .shape (.unknownField name Config.fieldNames) := by
  intro v further
  have hplain : v.Plain := by
    rintro ms ⟨⟩
    refine ⟨?_, by decide, ?_⟩
    · simp [Json.Value.WellFormed, Json.Value.WellFormedMembers, Json.Value.nat]
    · simp [Json.Value.numbers, Json.Value.numbersOfMembers, Json.Value.nat, Json.Number.IsWord]
  have hwords : ({} : Config).Words := by constructor <;> decide
  have htext : Json.IsText ['[', '1', 'e', '9', ']'] := by
    have hnumeral : Json.IsNumeral ['1', 'e', '9'] := by
      have hdigit {c : Char} (hc : c.isDigit = true) : Json.IsDigits [c] :=
        ⟨List.cons_ne_nil _ _, List.forall_mem_singleton.mpr hc⟩
      refine ⟨['1'], [], ['e', '9'], rfl, .inr ⟨hdigit rfl, by decide⟩, .inl rfl, ?_⟩
      exact .inr ⟨'e', [], ['9'], rfl, by decide, by decide, hdigit rfl⟩
    exact .array (.lastItem (.positive hnumeral))
  have hfurther : Violation.shape.Extends .compact v.toJson
      (further :: Layout.compact.texts [("path", .string ""), ("message", .string "too many"),
        ("params", .object [("limit", .nat 3)]), ("schemaPath", .string "/maxItems")]) :=
    ⟨_, rfl, rfl⟩
  have hothers : Violation.shape.OthersAreTexts
      (further :: Layout.compact.texts [("path", .string ""), ("message", .string "too many"),
        ("params", .object [("limit", .nat 3)]), ("schemaPath", .string "/maxItems")]) := by
    simp [Json.Shape.OthersAreTexts, Layout.texts, further, htext, Json.Shape.knows,
      Json.Shape.names, Violation.shape, Json.Field.of]
  have hconfig : Config.shape.Extends .compact ({} : Config).toJson
      (further :: Layout.compact.texts [("max_code_lines", .nat 20), ("max_file_size", .nat 102400),
        ("min_usage_examples", .nat 2), ("max_decision_tree_depth", .nat 4),
        ("recommended_sections", .array
          [.string "decision_tree", .string "common_patterns", .string "error_handling"])]) :=
    ⟨_, rfl, rfl⟩
  obtain ⟨name, error, -, herror, hcause⟩ := (recovers_encoded.2.2 {} hwords).2.2 _ _ hconfig
    ⟨further, List.mem_cons_self, rfl⟩
  have hdecode := (recovers_encoded.2.1 v hplain).2.2 _ _ hfurther hothers
  exact ⟨hplain, hwords, ⟨_, List.mem_cons_self, hdecode⟩, _, name, error, List.mem_cons_self,
    herror, hcause⟩

end AgentManifest.Report
