import AgentManifest.Schema.Fault
import AgentManifest.Schema.Failure
import AgentManifest.Schema.Reference
import AgentManifest.Schema.Assertion
import AgentManifest.Schema.Vocabulary

/-!
# Reading conditions

The keywords that hold no schemas, from their written form to conditions on values. A keyword that
leaves nothing to check gives no condition.
-/

namespace AgentManifest.Schema

open Decimal (Binary64)
open Json (Value Members Location Number)

/-! ## Steps of compiling

A schema is compiled step by step, and the first step that fails decides. A reference is followed
in place where it is met for the first time; where it is met again, what it leads to is put off and
compiled on its own, so that schemas may refer to themselves.
-/

/-- What is to be compiled on its own: a schema, or what it looks at. -/
structure Deferred where
  focus? : Option Focus
  target : Target
  contents : Value
  context : Context
  deriving Inhabited

/-- What was met so far. -/
structure Progress where
  /-- The identifiers, with their fragments, that references led to. -/
  seen : List String
  /-- What was put off, the last first. -/
  deferred : List Deferred
  deriving Inhabited

/-- The progress before the first step. -/
def Progress.start : Progress := { seen := [], deferred := [] }

/-- A step of compiling. -/
abbrev Compiling := StateT Progress (Except Flaw)

namespace Compiling

variable {α : Type}

/-- Fails at a place. -/
def fail (place : Location) (f : Fault) : Compiling α := throw { place, fault := f }

/-- Takes a result that has no place to fail at. -/
def lift (r : Except Fault α) : Compiling α :=
  match r with
  | .ok a => pure a
  | .error f => fail [] f

/-- Takes where a reference at a place leads. What lies there and is no schema fails at the
place. -/
def land (place : Location) (r : Except Fault Landing) : Compiling Landing :=
  match r with
  | .error (.unfit v cause) => fail place (.unfit v cause)
  | r => lift r

/-- Fails because a value has none of the types it should have. -/
def wrongType (place : Location) (v : Value) (kinds : List Kind) : Compiling α :=
  fail place (.unfit v (.type kinds))

/-- Fails because a value is no pattern. -/
def badPattern (place : Location) (v : Value) : Compiling α :=
  fail place (.unfit v (.format "regex"))

/-- Whether a reference led to an identifier before; from now on it did. -/
def visit (id : String) : Compiling Bool := do
  let p ← get
  if p.seen.contains id then pure true
  else
    set { p with seen := id :: p.seen }
    pure false

/-- Puts off what a reference in a context leads to, to be read with some resources passed. -/
def defer (c : Context) (focus? : Option Focus) (l : Landing) (scopes : List String) :
    Compiling Target := do
  let context ← lift (c.detached { l with scopes })
  let target := context.target l
  modify fun p =>
    { p with deferred := { focus?, target, contents := l.contents, context } :: p.deferred }
  pure target

end Compiling

/-! ## Conditions -/

namespace Compiling

/-- A condition that is reported under the keyword itself. -/
def test (keyword : String) (a : Assertion) : Compiling (List Keyword) :=
  pure [.test [.key keyword] a]

end Compiling

open Compiling (fail wrongType badPattern test)

/-! ## Counts -/

/-- The natural number that an integral double spells. Negative ones count as zero and large ones
as the largest word. -/
def saturated (x : Binary64) : Nat := min (x.truncate.getD 0).toNat (UInt64.size - 1)

/-- Fails because a value is no count. -/
def badCount {α : Type} (place : Location) (v : Value) : Compiling α :=
  match v with
  | .number (.int n) =>
    if n < 0 then fail place (.unfit v (.bound .atLeast (.int 0)))
    else wrongType place v [.integer]
  | _ => wrongType place v [.integer]

/-- The count that a value spells. Only the oldest draft insists on integers. -/
def count? (d : Draft) : Value → Option Nat
  | .number (.int n) => if 0 ≤ n then some n.toNat else if d = .draft4 then none else some 0
  | .number (.float x) =>
    if d ≠ .draft4 ∧ x.isIntegral then some (saturated x) else none
  | _ => none

/-- The limit of how many items may satisfy a schema. -/
def containsLimit (place : Location) (ms : Members) (keyword : String) : Compiling (Option Nat) :=
  match Members.get? ms keyword with
  | none => pure none
  | some (.number (.int n)) =>
    if 0 ≤ n then pure (some n.toNat) else badCount place (.number (.int n))
  | some (.number (.float x)) =>
    if x.isIntegral then pure (some (saturated x)) else badCount place (.number (.float x))
  | some v => badCount place v

/-! ## Types and names -/

/-- The types that a value names. -/
def readKinds (place : Location) (strict : Bool) (v : Value) : Compiling (List Keyword) :=
  let at' := place ++ [.key "type"]
  match v with
  | .string s =>
    match Kind.ofName? s with
    | some k => test "type" (.type [k] strict)
    | none => fail at' .unknownType
  | .array [.string s] =>
    match Kind.ofName? s with
    | some k => test "type" (.type [k] strict)
    | none => fail at' .unknownType
  | .array [w] => wrongType at' w [.string]
  | .array vs =>
    match vs.find? fun w => ((w.string?).bind Kind.ofName?).isNone with
    | some (.string s) =>
      fail at' (.unfit (.string s) (.enum (Kind.all.map fun k => .string k.name)))
    | some w => wrongType [] w [.string]
    | none =>
      let given := vs.filterMap fun w => (w.string?).bind Kind.ofName?
      test "type" (.type (Kind.all.filter given.contains) strict)
  | _ => wrongType place v [.array, .string]

/-- The names that a value lists. -/
def readNames (place : Location) (v : Value) : Compiling (List String) :=
  match v with
  | .array vs =>
    match vs.find? fun w => w.string?.isNone with
    | some w => wrongType place w [.string]
    | none => pure (vs.filterMap Value.string?)
  | _ => wrongType place v [.array]

/-- The names that objects with a member must have too. -/
def readTriggered (keyword : String) (place : Location) (dep : String × Value) :
    Compiling Keyword := do
  let at' := place ++ [.key keyword]
  match dep.2 with
  | .array vs =>
    if Value.allDistinct vs then
      let names ← readNames at' dep.2
      pure (.dependent keyword [.key keyword] dep.1 (.all [.required [] names]))
    else fail (at' ++ [.key dep.1]) (.unfit dep.2 .uniqueItems)
  | w => wrongType (at' ++ [.key dep.1]) w [.array]

/-! ## Limits -/

/-- Reads the limit of a comparison. In the oldest draft a flag beside it makes it strict. -/
def readBound (c : Context) (ms : Members) (keyword : String) (o : Comparison) (v : Value) :
    Compiling (List Keyword) :=
  match v with
  | .number n =>
    let flag : Option (String × Comparison) :=
      match c.draft, o with
      | .draft4, .atLeast => some ("exclusiveMinimum", .above)
      | .draft4, .atMost => some ("exclusiveMaximum", .below)
      | _, _ => none
    match flag with
    | some (name, strict) =>
      match Members.get? ms name with
      | some (.bool true) => test name (.bound strict n)
      | _ => test keyword (.bound o n)
    | none => test keyword (.bound o n)
  | _ => wrongType c.place v [.number]

/-! ## Content -/

/-- Reads a condition on the text that a string encodes. -/
def readMediaType (place : Location) (ms : Members) (v : Value) : Compiling (List Keyword) :=
  match v with
  | .string "application/json" =>
    match Members.get? ms "contentEncoding" with
    | none => test "contentMediaType" .jsonText
    | some (.string "base64") => test "contentMediaType" (.base64 true)
    | some (.string _) => pure []
    | some w => wrongType place w [.string]
  | .string _ => pure []
  | _ => wrongType place v [.string]

/-- Reads a condition on how a string is encoded. -/
def readEncoding (place : Location) (ms : Members) (v : Value) : Compiling (List Keyword) :=
  if Members.contains ms "contentMediaType" then pure []
  else
    match v with
    | .string "base64" => test "contentEncoding" (.base64 false)
    | .string _ => pure []
    | _ => wrongType place v [.string]

/-! ## All conditions -/

/-- Reads a keyword whose value holds no schema. -/
def readCondition (c : Context) (ms : Members) (keyword : String) (v : Value) :
    Word → Compiling (List Keyword)
  | .bound o => readBound c ms keyword o v
  | .const => test keyword (.const v)
  | .contentEncoding => readEncoding c.place ms v
  | .contentMediaType => readMediaType c.place ms v
  | .count m atLeast =>
    match count? c.draft v with
    | some n => test keyword (.count m atLeast n)
    | none => badCount c.place v
  | .dependentRequired =>
    match v with
    | .object deps => deps.mapM (readTriggered keyword c.place)
    | _ => wrongType c.place v [.object]
  | .enum =>
    match v with
    | .array options => test keyword (.enum options)
    | _ => wrongType c.place v [.array]
  | .format =>
    match v with
    | .string name =>
      match Format.of? c.draft name with
      | some f => test keyword (.format f)
      | none => pure []
    | _ => wrongType c.place v [.string]
  | .multipleOf =>
    match v with
    | .number n => test keyword (.multipleOf n.toDouble)
    | _ => wrongType c.place v [.number]
  | .pattern =>
    match v with
    | .string text =>
      match Pattern.Matcher.ofText? text with
      | some matcher => test keyword (.pattern text matcher)
      | none => badPattern c.place v
    | _ => wrongType c.place v [.string]
  | .required => do
    pure [.required [.key keyword] (← readNames (c.place ++ [.key keyword]) v)]
  | .type => readKinds c.place (decide (c.draft = .draft4)) v
  | .uniqueItems =>
    match v with
    | .bool true => test keyword .uniqueItems
    | .bool false => pure []
    | _ => wrongType c.place v [.boolean]
  | _ => pure []

end AgentManifest.Schema
