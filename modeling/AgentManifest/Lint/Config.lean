import AgentManifest.Json.Record

/-!
# Thresholds

What the checks measure a manifest against. A configuration that leaves a field out takes the
default for it.
-/

namespace AgentManifest.Lint

open Json (Value)

/-- The thresholds of the checks. -/
structure Config where
  /-- The lines that a code example may have. -/
  maxCodeLines : Nat := 20
  /-- The bytes that a file may have. -/
  maxFileSize : Nat := 102400
  /-- The usage examples that there should be. -/
  minUsageExamples : Nat := 2
  /-- The levels that a decision tree may have. -/
  maxDecisionTreeDepth : Nat := 4
  /-- The sections that there should be, in the order in which they are reported. -/
  recommendedSections : List String := ["decision_tree", "common_patterns", "error_handling"]
  deriving DecidableEq, Repr, Inhabited

namespace Config

/-- The names of the fields. -/
def fieldNames : List String :=
  ["max_code_lines", "max_file_size", "min_usage_examples", "max_decision_tree_depth",
    "recommended_sections"]

/-- A configuration as JSON. -/
def toJson (c : Config) : Value :=
  .object [("max_code_lines", .nat c.maxCodeLines), ("max_file_size", .nat c.maxFileSize),
    ("min_usage_examples", .nat c.minUsageExamples),
    ("max_decision_tree_depth", .nat c.maxDecisionTreeDepth),
    ("recommended_sections", .array (c.recommendedSections.map .string))]

/-- The fields that a text sets. -/
structure Partial where
  maxCodeLines : Option Nat := none
  maxFileSize : Option Nat := none
  minUsageExamples : Option Nat := none
  maxDecisionTreeDepth : Option Nat := none
  recommendedSections : Option (List String) := none

/-- The fields that are set, laid over the defaults. -/
def Partial.get (st : Partial) : Config :=
  let d : Config := {}
  { maxCodeLines := st.maxCodeLines.getD d.maxCodeLines,
    maxFileSize := st.maxFileSize.getD d.maxFileSize,
    minUsageExamples := st.minUsageExamples.getD d.minUsageExamples,
    maxDecisionTreeDepth := st.maxDecisionTreeDepth.getD d.maxDecisionTreeDepth,
    recommendedSections := st.recommendedSections.getD d.recommendedSections }

/-- The shape of a configuration in JSON: names that are no fields are refused. -/
def shape : Json.Shape Partial :=
  { title := "struct LintConfig", closed := true,
    fields := [
      .of "max_code_lines" false (Json.decodeNatural "usize") (·.maxCodeLines)
        fun st a => { st with maxCodeLines := some a },
      .of "max_file_size" false (Json.decodeNatural "u64") (·.maxFileSize)
        fun st a => { st with maxFileSize := some a },
      .of "min_usage_examples" false (Json.decodeNatural "usize") (·.minUsageExamples)
        fun st a => { st with minUsageExamples := some a },
      .of "max_decision_tree_depth" false (Json.decodeNatural "usize") (·.maxDecisionTreeDepth)
        fun st a => { st with maxDecisionTreeDepth := some a },
      .of "recommended_sections" false (Json.decodeList Json.decodeString) (·.recommendedSections)
        fun st a => { st with recommendedSections := some a }] }

/-- Reads a configuration. -/
def decode : Json.Decoder Config := fun fuel depth s => do
  let (st, rest) ← shape.decode {} fuel depth s
  .ok (st.get, rest)

end Config
end AgentManifest.Lint
