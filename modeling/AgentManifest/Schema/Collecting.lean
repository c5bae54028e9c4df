import AgentManifest.Schema.Evaluation

/-!
# Collecting failures

Every reason why a value does not satisfy a schema, in the order of the keywords and depth first.
Places are relative to the value and the schema at hand and grow on the way up.
-/

namespace AgentManifest.Schema

open Json (Value Members Segment Location)

/-- Why a condition fails. A pattern may have been given up, and text in base 64 can fail in three
ways. -/
def Assertion.cause : Assertion → Value → Cause
  | .type kinds _, _ => .type kinds
  | .const w, _ => .const w
  | .enum options, _ => .enum options
  | .count m atLeast limit, _ => .count m atLeast limit
  | .bound c limit, _ => .bound c limit
  | .multipleOf divisor, _ => .multipleOf divisor
  | .pattern text matcher, .string s =>
    if matcher.search s = .exhausted then .patternGivenUp else .pattern text
  | .pattern text _, _ => .pattern text
  | .format f, _ => .format f.name
  | .uniqueItems, _ => .uniqueItems
  | .unsatisfiable, _ => .never
  | .noMembers, _ => .never
  | .noItemsBeyond limit, _ => .additionalItems limit
  | .jsonText, _ => .mediaType
  | .base64 _, .string s =>
    match Text.decodeBase64 s.toList with
    | none => .encoding
    | some bytes =>
      match Text.firstInvalid? bytes with
      | some (offset, length) => .notUtf8 offset length
      | none => .mediaType
  | .base64 _, _ => .encoding

/-- The place that is reported for a condition. Text that is in no encoding is reported at the
root, and an unreadable encoding under its own keyword. -/
def Assertion.failureAt (place : Location) (a : Assertion) (v : Value) : Failure :=
  match a.cause v with
  | .notUtf8 offset length => { place := [], keyword := [], cause := .notUtf8 offset length }
  | .encoding => { place := [], keyword := [.key "contentEncoding"], cause := .encoding }
  | cause => { place := [], keyword := place, cause }

/-- One failure of a keyword on the value itself. -/
def failAt (keyword : Location) (cause : Cause) : List Failure := [{ place := [], keyword, cause }]

/-- Moves failures up to a value and a schema further up. -/
def raise (place keyword : Location) (fs : List Failure) : List Failure :=
  fs.map (Failure.under place keyword)

/-- The names of the members that a keyword about names leaves over. -/
def unexpectedNames (named : List (String × Form)) (matching : List (NamePattern × Form))
    (ms : Members) : List String :=
  (ms.map Prod.fst).filter fun key => !isNamed named key && !isMatched matching key

/-- What references fail with. -/
abbrev Complaints := Target → Value → List Failure

mutual

/-- The failures of a schema. -/
def Form.failures (l : Links) (r : Complaints) : Form → Value → List Failure
  | .always, _ => []
  | .never, _ => failAt [] .never
  | .all ks, v => allFailures l r ks v

/-- The failures of some keywords. -/
def allFailures (l : Links) (r : Complaints) : List Keyword → Value → List Failure
  | [], _ => []
  | k :: ks, v => Keyword.failures l r k v ++ allFailures l r ks v

/-- The failures of a keyword. -/
def Keyword.failures (l : Links) (r : Complaints) : Keyword → Value → List Failure
  | .test place a, v => if a.holds v then [] else [a.failureAt place v]
  | .required place names, v =>
    match v with
    | .object ms =>
      (names.filter fun name => !Members.contains ms name).flatMap fun name =>
        failAt place (.required name)
    | _ => []
  | .properties named, v =>
    match v with
    | .object ms => namedFailures l r named ms
    | _ => []
  | .patternProperties matching, v =>
    match v with
    | .object ms => patternFailures l r matching ms
    | _ => []
  | .closed named matching, v =>
    match v with
    | .object ms =>
      let rest := unexpectedNames named matching ms
      (ms.flatMap fun m =>
        memberFailures l r named m.1 m.2 ++ matchingFailures l r matching m.1 m.2) ++
        if rest.isEmpty then []
        else failAt [.key "additionalProperties"] (.additionalProperties rest)
    | _ => []
  | .additional named matching other, v =>
    match v with
    | .object ms =>
      ms.flatMap fun m =>
        memberFailures l r named m.1 m.2 ++ matchingFailures l r matching m.1 m.2 ++
          if isNamed named m.1 || isMatched matching m.1 then []
          else raise [.key m.1] [.key "additionalProperties"] (Form.failures l r other m.2)
    | _ => []
  | .propertyNames s, v =>
    match v with
    | .object ms =>
      ms.flatMap fun m =>
        (Form.failures l r s (.string m.1)).map fun f =>
          { f.under [] [.key "propertyNames"] with
            place := [], cause := .propertyName m.1 f.cause }
    | _ => []
  | .itemsFrom keyword skip s, v =>
    match v with
    | .array vs =>
      ((indexed vs).drop skip).flatMap fun p =>
        raise [.index p.1] [.key keyword] (Form.failures l r s p.2)
    | _ => []
  | .tuple keyword schemas, v =>
    match v with
    | .array vs => tupleFailures l r keyword 0 schemas vs
    | _ => []
  | .contains rule s, v =>
    match v with
    | .array vs =>
      let n := vs.countP (Form.holds l s)
      if rule.admits n then [] else failAt [.key (rule.keyword n)] .contains
    | _ => []
  | .allOf schemas, v => eachFailures l r 0 schemas v
  | .anyOf schemas, v =>
    if countHolding l schemas v = 0 then failAt [.key "anyOf"] .anyOf else []
  | .oneOf schemas, v =>
    let n := countHolding l schemas v
    if n = 1 then [] else failAt [.key "oneOf"] (.oneOf (decide (1 < n)))
  | .not written s, v => if Form.holds l s v then failAt [.key "not"] (.not written) else []
  | .conditional c t e, v =>
    if Form.holds l c v then raise [] [.key "then"] (Form.failures l r t v)
    else raise [] [.key "else"] (Form.failures l r e v)
  | .dependent _ place trigger s, v =>
    match v with
    | .object ms =>
      if Members.contains ms trigger then raise [] place (Form.failures l r s v) else []
    | _ => []
  | .nested keyword s, v => raise [] [.key keyword] (Form.failures l r s v)
  | .reference keyword t, v => raise [] [.key keyword] (r t v)
  | .unevaluatedProperties seen s, v =>
    match v with
    | .object ms =>
      let covered := seen.covered l v
      let rest := ms.filter fun m => !covered.contains (.key m.1) && !Form.holds l s m.2
      if rest.isEmpty then []
      else
        failAt [.key "unevaluatedProperties"] (.unevaluatedProperties (rest.map Prod.fst))
    | _ => []
  | .unevaluatedItems seen s, v =>
    match v with
    | .array vs =>
      let covered := seen.covered l v
      let rest := (indexed vs).filter fun p =>
        !covered.contains (.index p.1) && !Form.holds l s p.2
      if rest.isEmpty then []
      else failAt [.key "unevaluatedItems"] (.unevaluatedItems (rest.map Prod.snd))
    | _ => []

/-- The failures of the members with given names, in the order of the names. -/
def namedFailures (l : Links) (r : Complaints) :
    List (String × Form) → Members → List Failure
  | [], _ => []
  | (name, s) :: named, ms =>
    (match Members.get? ms name with
      | some v =>
        raise [.key name] [.key "properties", .key name] (Form.failures l r s v)
      | none => []) ++ namedFailures l r named ms

/-- The failures of one member under the schemas for its name. -/
def memberFailures (l : Links) (r : Complaints) :
    List (String × Form) → String → Value → List Failure
  | [], _, _ => []
  | (name, s) :: named, key, v =>
    (if name = key then
        raise [.key key] [.key "properties", .key key] (Form.failures l r s v)
      else []) ++ memberFailures l r named key v

/-- The failures of the members whose names match, pattern by pattern. -/
def patternFailures (l : Links) (r : Complaints) :
    List (NamePattern × Form) → Members → List Failure
  | [], _ => []
  | (p, s) :: matching, ms =>
    ((ms.filter fun m => p.matcher.occursIn m.1).flatMap fun m =>
      raise [.key m.1] [.key "patternProperties", .key p.text] (Form.failures l r s m.2)) ++
      patternFailures l r matching ms

/-- The failures of one member under the schemas whose patterns its name matches. -/
def matchingFailures (l : Links) (r : Complaints) :
    List (NamePattern × Form) → String → Value → List Failure
  | [], _, _ => []
  | (p, s) :: matching, key, v =>
    (if p.matcher.occursIn key then
        raise [.key key] [.key "patternProperties", .key p.text] (Form.failures l r s v)
      else []) ++ matchingFailures l r matching key v

/-- The failures of the first items, from an index on. -/
def tupleFailures (l : Links) (r : Complaints) (keyword : String) :
    Nat → List Form → List Value → List Failure
  | i, s :: schemas, v :: vs =>
    raise [.index i] [.key keyword, .index i] (Form.failures l r s v) ++
      tupleFailures l r keyword (i + 1) schemas vs
  | _, _, _ => []

/-- The failures of each of some schemas, from an index on. -/
def eachFailures (l : Links) (r : Complaints) : Nat → List Form → Value → List Failure
  | _, [], _ => []
  | i, s :: schemas, v =>
    raise [] [.key "allOf", .index i] (Form.failures l r s v) ++
      eachFailures l r (i + 1) schemas v

end

end AgentManifest.Schema
