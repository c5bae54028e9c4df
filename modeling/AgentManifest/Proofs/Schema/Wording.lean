import Mathlib.Tactic.Lemma
import AgentManifest.Schema.Failure

/-!
# Wordings and their parameters

The wording of a failure is put together from a few values, and the same values are its parameters.
What kind of failure it is and its parameters determine the wording, so that a reader of a report can
word a failure anew.
-/

namespace AgentManifest.Schema

open Json (Value Members Number)
open Report.Violation (bare)

/-- A kind of failures that has a wording of its own. -/
inductive Topic where
  | type
  | const
  | enum
  | count (m : Measure) (atLeast : Bool)
  | bound (c : Comparison)
  | multipleOf
  | pattern
  | format
  | required
  | additionalProperties
  | uniqueItems
  | anyOf
  | oneOf
  | not
  | never
  | contains
  deriving DecidableEq, Repr, Inhabited

/-- The kind of failures that a cause is of. -/
def Cause.topic? : Cause → Option Topic
  | .type _ => some .type
  | .const _ => some .const
  | .enum _ => some .enum
  | .count m atLeast _ => some (.count m atLeast)
  | .bound c _ => some (.bound c)
  | .multipleOf _ => some .multipleOf
  | .pattern _ => some .pattern
  | .format _ => some .format
  | .required _ => some .required
  | .additionalProperties _ => some .additionalProperties
  | .uniqueItems => some .uniqueItems
  | .anyOf => some .anyOf
  | .oneOf _ => some .oneOf
  | .not _ => some .not
  | .never => some .never
  | .contains => some .contains
  | _ => none

/-! ## Reading parameters -/

/-- The parameters of a failure. Some failures have none. -/
abbrev Params := Option Members

namespace Params

/-- The parameter with a name. -/
def get? (ps : Params) (name : String) : Option Value := ps.bind fun ms => Members.get? ms name

/-- A parameter in running text. -/
def shown (ps : Params) (name : String) : String := ((ps.get? name).map bare).getD ""

/-- A numeric parameter in running text, without a fraction where it is a whole number. -/
def plain (ps : Params) (name : String) : String :=
  match ps.get? name with
  | some (.number n) => n.toDouble.text .plain
  | _ => ""

/-- The texts that a parameter lists. -/
def texts (ps : Params) (name : String) : List String :=
  match ps.get? name with
  | some (.array vs) => vs.filterMap Value.string?
  | _ => []

end Params

/-- The wording of a failure of some kind, from its parameters. -/
def Topic.wording (ps : Params) : Topic → String
  | .type => "must be " ++ ps.shown "type"
  | .const => "must be equal to constant"
  | .enum => "must be equal to one of the allowed values"
  | .count m atLeast =>
    "must NOT have " ++ (if atLeast then "fewer" else "more") ++ " than " ++ ps.shown "limit" ++
      " " ++ m.plural
  | .bound _ => "must be " ++ ps.shown "comparison" ++ " " ++ ps.shown "limit"
  | .multipleOf => "must be multiple of " ++ ps.plain "multipleOf"
  | .pattern => "must match pattern \"" ++ ps.shown "pattern" ++ "\""
  | .format => "must match format \"" ++ ps.shown "format" ++ "\""
  | .required => "must have required property '" ++ ps.shown "missingProperty" ++ "'"
  | .additionalProperties =>
    "must NOT have additional properties: " ++ ", ".intercalate (ps.texts "additionalProperties")
  | .uniqueItems => "must NOT have duplicate items"
  | .anyOf => "must match a schema in anyOf"
  | .oneOf => "must match exactly one schema in oneOf"
  | .not => "must NOT be valid"
  | .never => "boolean schema is false"
  | .contains => "must contain at least 1 valid item"

/-! ## Wordings from parameters -/

lemma bare_number (n : Number) : bare (.number n) = numberText n := by
  rw [bare, Value.compact, Value.write, numberText]
  rintro _ ⟨⟩

lemma bare_nat (n : Nat) : bare (Value.nat n) = Decimal.natString n := by
  have hsign : ¬ (n : Int) < 0 := Int.not_lt.mpr (Int.natCast_nonneg n)
  rw [Value.nat, bare_number, numberText, Number.write, Decimal.intText, if_neg hsign,
    Int.natAbs_natCast, Decimal.natString]

lemma filterMap_string?_map (names : List String) :
    (names.map Value.string).filterMap Value.string? = names := by
  rw [List.filterMap_map]
  exact List.filterMap_some

namespace Cause

/-- The wording of a cause. -/
def wording? (c : Cause) : Option String := c.description?.map Prod.fst

/-- The parameters of a cause that has a wording. -/
def params? (c : Cause) : Option Params := c.description?.map Prod.snd

/-- A cause is of some kind exactly if it has a wording of its own. -/
lemma isSome_topic? (c : Cause) : c.topic?.isSome = c.description?.isSome := by
  cases c <;> rfl

/-- The wording of a cause is that of its kind with its parameters. -/
lemma wording_of_params {c : Cause} {t : Topic} {message : String} {ps : Params}
    (ht : c.topic? = some t) (h : c.description? = some (message, ps)) : t.wording ps = message := by
  cases c with
  | count m atLeast limit =>
    cases ht
    cases h
    have hlimit : Params.shown (some [("limit", Value.nat limit)]) "limit" =
        Decimal.natString limit := bare_nat limit
    rw [Topic.wording.eq_def]
    dsimp only
    rw [hlimit]
  | bound o limit =>
    cases ht
    cases h
    have hlimit : Params.shown (some [("comparison", .string o.sign), ("limit", .number limit)])
        "limit" = numberText limit := bare_number limit
    rw [Topic.wording.eq_def]
    dsimp only
    rw [hlimit]
    rfl
  | additionalProperties names =>
    cases ht
    cases h
    have htexts : Params.texts
        (some [("additionalProperties", .array (names.map Value.string))]) "additionalProperties" =
        names := filterMap_string?_map names
    rw [Topic.wording.eq_def]
    dsimp only
    rw [htexts]
  | type | const | enum | multipleOf | pattern | format | required | uniqueItems | anyOf | oneOf
  | not | never | contains =>
    cases ht
    cases h
    rfl
  | _ => cases ht

end Cause

/-- A name with a comma in it and two names are worded the same, and told apart by the
parameters. -/
example :
    (Cause.additionalProperties ["a, b"]).wording? =
      (Cause.additionalProperties ["a", "b"]).wording? ∧
    (Cause.additionalProperties ["a, b"]).params? ≠
      (Cause.additionalProperties ["a", "b"]).params? := by
  refine ⟨by decide, ?_⟩
  simp [Cause.params?, Cause.description?]

end AgentManifest.Schema
