import AgentManifest.Schema.Assertion
import AgentManifest.Schema.Failure

/-!
# Evaluation

Two readings of a schema: `holds` says whether a value satisfies it, `failures` collects every
reason why it does not, in the order of the keywords and depth first. Beside them stands what a
schema looks at in a value, for the keywords about what is left over.

What a reference leads to is supplied from outside, as a `Links`.
-/

namespace AgentManifest.Schema

open Json (Value Members Segment Location)

/-- What references lead to. -/
structure Links where
  holds : Target → Value → Bool
  covered : Focus → Target → Value → List Segment

/-- The items of an array, each with its index. -/
def indexed (vs : List Value) : List (Nat × Value) := vs.mapIdx fun i v => (i, v)

/-- The members or items of a value, each with the step to it. -/
def entries : Value → List (Segment × Value)
  | .object ms => ms.map fun m => (.key m.1, m.2)
  | .array vs => (indexed vs).map fun p => (.index p.1, p.2)
  | _ => []

/-- Whether enough of some branches hold. -/
def BranchRule.admits (rule : BranchRule) (holding count : Nat) : Bool :=
  match rule with
  | .all => holding == count
  | .some => holding != 0
  | .one => holding == 1

/-- Whether exactly so many items are enough and not too many. -/
def ContainsRule.admits (r : ContainsRule) (n : Nat) : Bool :=
  match r.least, r.most with
  | none, none => decide (0 < n)
  | some least, none => decide (least ≤ n)
  | none, some most => decide (0 < n) && decide (n ≤ most)
  | some least, some most => decide (least ≤ n) && decide (n ≤ most)

/-- The keyword that fails for a number of items. -/
def ContainsRule.keyword (r : ContainsRule) (n : Nat) : String :=
  match r.least, r.most with
  | none, none => "contains"
  | some _, none => "minContains"
  | none, some _ => "maxContains"
  | some _, some most => if most < n then "maxContains" else "minContains"

mutual

/-- Whether a value satisfies a schema. -/
def Form.holds (l : Links) : Form → Value → Bool
  | .always, _ => true
  | .never, _ => false
  | .all ks, v => allHold l ks v

/-- Whether a value satisfies some keywords. -/
def allHold (l : Links) : List Keyword → Value → Bool
  | [], _ => true
  | k :: ks, v => Keyword.holds l k v && allHold l ks v

/-- Whether a value satisfies a keyword. -/
def Keyword.holds (l : Links) : Keyword → Value → Bool
  | .test _ a, v => a.holds v
  | .required _ names, v =>
    match v with
    | .object ms => names.all fun name => Members.contains ms name
    | _ => true
  | .properties named, v =>
    match v with
    | .object ms => namedHold l named ms
    | _ => true
  | .patternProperties matching, v =>
    match v with
    | .object ms => ms.all fun m => matchingHold l matching m.1 m.2
    | _ => true
  | .closed named matching, v =>
    match v with
    | .object ms => ms.all fun m =>
      memberHolds l named m.1 m.2 && matchingHold l matching m.1 m.2 &&
        (isNamed named m.1 || isMatched matching m.1)
    | _ => true
  | .additional named matching other, v =>
    match v with
    | .object ms => ms.all fun m =>
      memberHolds l named m.1 m.2 && matchingHold l matching m.1 m.2 &&
        (isNamed named m.1 || isMatched matching m.1 || Form.holds l other m.2)
    | _ => true
  | .propertyNames s, v =>
    match v with
    | .object ms => ms.all fun m => Form.holds l s (.string m.1)
    | _ => true
  | .itemsFrom _ skip s, v =>
    match v with
    | .array vs => (vs.drop skip).all (Form.holds l s)
    | _ => true
  | .tuple _ schemas, v =>
    match v with
    | .array vs => tupleHolds l schemas vs
    | _ => true
  | .contains rule s, v =>
    match v with
    | .array vs => rule.admits (vs.countP (Form.holds l s))
    | _ => true
  | .allOf schemas, v => countHolding l schemas v == schemas.length
  | .anyOf schemas, v => countHolding l schemas v != 0
  | .oneOf schemas, v => countHolding l schemas v == 1
  | .not _ s, v => !Form.holds l s v
  | .conditional c t e, v => if Form.holds l c v then Form.holds l t v else Form.holds l e v
  | .dependent _ _ trigger s, v =>
    match v with
    | .object ms => !Members.contains ms trigger || Form.holds l s v
    | _ => true
  | .nested _ s, v => Form.holds l s v
  | .reference _ t, v => l.holds t v
  | .unevaluatedProperties seen s, v =>
    match v with
    | .object ms =>
      let covered := seen.covered l v
      ms.all fun m => covered.contains (.key m.1) || Form.holds l s m.2
    | _ => true
  | .unevaluatedItems seen s, v =>
    match v with
    | .array vs =>
      let covered := seen.covered l v
      (indexed vs).all fun p => covered.contains (.index p.1) || Form.holds l s p.2
    | _ => true

/-- Whether the members with given names satisfy their schemas. -/
def namedHold (l : Links) : List (String × Form) → Members → Bool
  | [], _ => true
  | (name, s) :: named, ms =>
    (match Members.get? ms name with
      | some v => Form.holds l s v
      | none => true) && namedHold l named ms

/-- Whether one member satisfies the schemas for its name. -/
def memberHolds (l : Links) : List (String × Form) → String → Value → Bool
  | [], _, _ => true
  | (name, s) :: named, key, v =>
    (name != key || Form.holds l s v) && memberHolds l named key v

/-- Whether one member satisfies the schemas whose patterns its name matches. -/
def matchingHold (l : Links) : List (NamePattern × Form) → String → Value → Bool
  | [], _, _ => true
  | (p, s) :: matching, key, v =>
    (!p.matcher.occursIn key || Form.holds l s v) && matchingHold l matching key v

/-- Whether a name has a schema. -/
def isNamed : List (String × Form) → String → Bool
  | [], _ => false
  | (name, _) :: named, key => name == key || isNamed named key

/-- Whether a name matches a pattern. -/
def isMatched : List (NamePattern × Form) → String → Bool
  | [], _ => false
  | (p, _) :: matching, key => p.matcher.occursIn key || isMatched matching key

/-- Whether the first items satisfy their schemas. -/
def tupleHolds (l : Links) : List Form → List Value → Bool
  | s :: schemas, v :: vs => Form.holds l s v && tupleHolds l schemas vs
  | _, _ => true

/-- How many of some schemas a value satisfies. -/
def countHolding (l : Links) : List Form → Value → Nat
  | [], _ => 0
  | s :: schemas, v => (if Form.holds l s v then 1 else 0) + countHolding l schemas v

/-- The steps to what is looked at in a value. -/
def Coverage.covered (l : Links) : Coverage → Value → List Segment
  | .join parts, v => coveredByParts l parts v
  | .everything, v => (entries v).map Prod.fst
  | .first count, v => ((entries v).take count).map Prod.fst
  | .named members, v =>
    match v with
    | .object ms =>
      (ms.filter fun m => isNamed members m.1 && memberHolds l members m.1 m.2).map fun m =>
        .key m.1
    | _ => []
  | .matching patterns, v =>
    match v with
    | .object ms =>
      (ms.filter fun m => patterns.any fun p => p.occursIn m.1).map fun m => .key m.1
    | _ => []
  | .satisfying s, v => ((entries v).filter fun e => Form.holds l s e.2).map Prod.fst
  | .whenPresent trigger inner, v =>
    match v with
    | .object ms => if Members.contains ms trigger then inner.covered l v else []
    | _ => []
  | .conditional c met otherwise, v =>
    if Form.holds l c v then met.covered l v else otherwise.covered l v
  | .branches rule alternatives, v =>
    if rule.admits (countBranches l alternatives v) alternatives.length then
      coveredByBranches l alternatives v
    else []
  | .reference focus t, v => l.covered focus t v

/-- The steps to what one of some parts looks at. -/
def coveredByParts (l : Links) : List Coverage → Value → List Segment
  | [], _ => []
  | part :: parts, v => part.covered l v ++ coveredByParts l parts v

/-- How many of some branches hold. -/
def countBranches (l : Links) : List (Form × Coverage) → Value → Nat
  | [], _ => 0
  | (s, _) :: branches, v => (if Form.holds l s v then 1 else 0) + countBranches l branches v

/-- The steps to what one of some branches looks at, whether it holds or not. -/
def coveredByBranches (l : Links) : List (Form × Coverage) → Value → List Segment
  | [], _ => []
  | (_, inner) :: branches, v => inner.covered l v ++ coveredByBranches l branches v

end

end AgentManifest.Schema
