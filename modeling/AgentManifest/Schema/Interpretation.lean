import AgentManifest.Schema.Condition

/-!
# Reading schemas

From the written form of a schema to the evaluable one. A schema inside a schema is read as often
as keywords ask for it, each time in the context that they give; so reading one gives the ways of
reading it, and the keywords around it decide which of them are taken.

What references lead to lies elsewhere, and the ways of reading it are supplied from outside, as a
`Reader`.
-/

namespace AgentManifest.Schema

open Json (Value Members Segment Location)
open Compiling (fail land lift wrongType badPattern test)

/-- The ways of reading what references lead to. -/
structure Reader where
  registry : Registry
  form : Value → Context → Compiling Form
  coverage : Focus → Value → Context → Compiling Coverage

/-- A schema as it is written, with the ways of reading it. -/
structure Part where
  written : Value
  /-- The schema in evaluable form. -/
  form : Context → Compiling Form
  /-- What the schema looks at. -/
  coverage : Focus → Context → Compiling Coverage

/-- Reads a schema inside another, which may have a draft and an identifier of its own. -/
def Part.within (p : Part) (c : Context) : Compiling Form := do
  p.form (← lift (c.enter p.written))

/-- The schemas that a keyword holds. -/
inductive Piece where
  | none
  | one (p : Part)
  | many (parts : List Part)
  | named (parts : List (String × Part))

/-- The schemas that each keyword of a schema holds. -/
abbrev Pieces := List (String × Piece)

namespace Pieces

/-- The single schema of a keyword. -/
def one? (ps : Pieces) (keyword : String) : Option Part :=
  match ps.lookup keyword with
  | some (.one p) => some p
  | _ => none

/-- The list of schemas of a keyword. -/
def many? (ps : Pieces) (keyword : String) : Option (List Part) :=
  match ps.lookup keyword with
  | some (.many parts) => some parts
  | _ => none

/-- The schemas by name of a keyword. -/
def named? (ps : Pieces) (keyword : String) : Option (List (String × Part)) :=
  match ps.lookup keyword with
  | some (.named parts) => some parts
  | _ => none

end Pieces

/-- Reads the schemas with some names, each at its place. -/
def readNamed (c : Context) (keyword : String) (parts : List (String × Part)) :
    Compiling (List (String × Form)) :=
  parts.mapM fun p => do pure (p.1, ← p.2.within (c.down [.key keyword, .key p.1]))

/-- Reads the schemas for names that match some patterns, each at its place. -/
def readMatching (c : Context) (keyword : String) (parts : List (String × Part)) :
    Compiling (List (NamePattern × Form)) :=
  parts.mapM fun p =>
    match Pattern.Matcher.ofText? p.1 with
    | some matcher => do
      pure ({ text := p.1, matcher }, ← p.2.within (c.down [.key keyword, .key p.1]))
    | none => badPattern (c.place ++ [.key keyword]) p.2.written

/-- Reads a list of schemas, each at its place. -/
def readList (c : Context) (keyword : String) (parts : List Part) : Compiling (List Form) :=
  (parts.mapIdx fun i p => (i, p)).mapM fun p => p.2.within (c.down [.key keyword, .index p.1])

/-! ## References -/

/-- Reads a keyword that refers to a schema by its identifier. A schema that consists of the same
reference says nothing. -/
def readReference (r : Reader) (c : Context) (keyword text : String) :
    Compiling (List Keyword) := do
  let known ← Compiling.visit (← lift (resolveReference c.base text))
  let l ← land (c.place ++ [.key keyword]) (r.registry.follow c text)
  if !known then
    pure [.nested keyword (← r.form l.contents ((c.landed r.registry l).down [.key keyword]))]
  else if (l.contents.get? keyword).bind Value.string? = some text then pure []
  else pure [.reference keyword (← Compiling.defer c none l l.scopes)]

/-- Reads a keyword that refers to the root that the outermost resource may decide. -/
def readRecursive (r : Reader) (c : Context) (keyword : String) : Compiling (List Keyword) := do
  let l ← lift (r.registry.followRecursive c)
  pure [.reference keyword (← Compiling.defer c none l c.scopes)]

/-! ## What a schema looks at -/

/-- Whether a reference that may be put off was met before. -/
def meetsAgain (c : Context) (puttingOff : Bool) (text : String) : Compiling Bool := do
  if puttingOff then Compiling.visit (← lift (resolveReference c.base text)) else pure false

/-- What the schema looks at that a reference leads to. It is read in the context of the reference;
only where `puttingOff` says so, and it was met before, it is read on its own. -/
def coverReference (r : Reader) (focus : Focus) (c : Context) (puttingOff : Bool) (text : String) :
    Compiling (List Coverage) := do
  let known ← meetsAgain c puttingOff text
  let l ← lift (r.registry.follow c text)
  match l.contents with
  | .object ms =>
    if known then pure [.reference focus (← Compiling.defer c focus l l.scopes)]
    else pure [← r.coverage focus (.object ms) c]
  | _ => pure []

/-- What the schema looks at that a keyword refers to, if it does. -/
def coverReferred (r : Reader) (focus : Focus) (c : Context) (puttingOff : Bool) :
    Option Value → Compiling (List Coverage)
  | some (.string text) => coverReference r focus c puttingOff text
  | _ => pure []

/-- What the schema looks at that refers to the root that the outermost resource may decide. -/
def coverRecursive (r : Reader) (focus : Focus) (c : Context) : Compiling (List Coverage) := do
  let l ← lift (r.registry.followRecursive c)
  pure [.reference focus (← Compiling.defer c focus l c.scopes)]

/-- What the schemas look at that the references of a schema lead to. -/
def coverReferences (r : Reader) (focus : Focus) (c : Context) (ms : Members) :
    Compiling (List Coverage) := do
  let puttingOff := focus == .members && c.draft == .draft2020
  let plain ← coverReferred r focus c puttingOff (Members.get? ms "$ref")
  if c.draft == .draft2020 then do
    pure (plain ++ (← coverReferred r focus c false (Members.get? ms "$dynamicRef")))
  else if Members.contains ms "$recursiveRef" then do
    pure (plain ++ (← coverRecursive r focus c))
  else pure plain

/-- What a part looks at, if it is an object. -/
def coverPart (focus : Focus) (c : Context) : Option Part → Compiling Coverage
  | some p => p.coverage focus c
  | none => pure (.join [])

/-- What a condition and what it leads to look at. -/
def coverConditional (focus : Focus) (c : Context) (ps : Pieces) : Compiling (List Coverage) :=
  match ps.one? "if" with
  | some p =>
    match p.written with
    | .object _ => do
      let consequence ← coverPart focus c (ps.one? "then")
      let alternative ← coverPart focus c (ps.one? "else")
      let condition ← p.within c
      pure [.conditional condition (.join [← p.coverage focus c, consequence]) alternative]
    | _ => pure []
  | none => pure []

/-- What the branches of a combination look at; those that are no objects do not count. -/
def coverBranches (focus : Focus) (c : Context) (rule : BranchRule) :
    Option (List Part) → Compiling (List Coverage)
  | none => pure []
  | some parts => do
    let objects := parts.filter fun p =>
      match p.written with
      | .object _ => true
      | _ => false
    pure [.branches rule (← objects.mapM fun p => do pure (← p.within c, ← p.coverage focus c))]

/-- What the combinations of a schema look at. Some items are looked at only if all branches
hold. -/
def coverCombinations (focus : Focus) (c : Context) (ps : Pieces) : Compiling (List Coverage) := do
  let all ← coverBranches focus c .all (ps.many? "allOf")
  let any ← coverBranches focus c (if focus = .items then .all else .some) (ps.many? "anyOf")
  let one ← coverBranches focus c .one (ps.many? "oneOf")
  pure (all ++ any ++ one)

/-- What satisfies the schema of a keyword. -/
def coverSatisfying (c : Context) (ps : Pieces) (keyword : String) : Compiling (List Coverage) :=
  match ps.one? keyword with
  | some p => do pure [.satisfying (← p.within c)]
  | none => pure []

/-- What named members look at by their schemas. -/
def coverNamed (c : Context) : Option (List (String × Part)) → Compiling (List Coverage)
  | some parts => do pure [.named (← parts.mapM fun p => do pure (p.1, ← p.2.within c))]
  | none => pure []

/-- What the schemas look at that apply where a member is present. -/
def coverDependent (c : Context) : Option (List (String × Part)) → Compiling (List Coverage)
  | some parts => parts.mapM fun p => do pure (.whenPresent p.1 (← p.2.coverage .members c))
  | none => pure []

/-- The members whose names match some patterns. Their schemas have to be readable. -/
def coverMatching (c : Context) : Option (List (String × Part)) → Compiling (List Coverage)
  | some parts => do
    pure [.matching (← parts.mapM fun p =>
      match Pattern.Matcher.ofText? p.1 with
      | some matcher => do
        let _ ← p.2.within c
        pure matcher
      | none => badPattern c.place p.2.written)]
  | none => pure []

/-- The members that a schema looks at by itself. -/
def coverMembers (c : Context) (ps : Pieces) : Compiling (List Coverage) := do
  let named ← coverNamed c (ps.named? "properties")
  let dependent ← coverDependent c (ps.named? "dependentSchemas")
  let additional ← coverSatisfying c ps "additionalProperties"
  let matching ← coverMatching c (ps.named? "patternProperties")
  let rest ← coverSatisfying c ps "unevaluatedProperties"
  pure (named ++ dependent ++ additional ++ matching ++ rest)

/-- The items that a schema looks at by itself. -/
def coverItems (c : Context) (ms : Members) (ps : Pieces) : Compiling (List Coverage) := do
  let first : List Coverage :=
    match c.draft, Members.get? ms "items", Members.get? ms "prefixItems" with
    | .draft2020, some _, _ => [.everything]
    | .draft2020, none, some (.array vs) => [.first vs.length]
    | .draft2020, none, _ => []
    | _, some (.array vs), _ =>
      if Members.contains ms "additionalItems" then [.everything] else [.first vs.length]
    | _, some _, _ => [.everything]
    | _, none, _ => []
  let rest ← coverSatisfying c ps "unevaluatedItems"
  let some' ← coverSatisfying c ps "contains"
  pure (first ++ rest ++ some')

/-- The members or items that a schema looks at by itself. -/
def coverOwn (c : Context) (ms : Members) (ps : Pieces) : Focus → Compiling (List Coverage)
  | .members => coverMembers c ps
  | .items => coverItems c ms ps

/-- What a schema looks at. -/
def coverAll (r : Reader) (ms : Members) (ps : Pieces) (focus : Focus) (c : Context) :
    Compiling Coverage := do
  let elsewhere ← coverReferences r focus c ms
  let conditional ← coverConditional focus c ps
  let own ← coverOwn c ms ps focus
  let combined ← coverCombinations focus c ps
  pure (.join (elsewhere ++ conditional ++ own ++ combined))

/-! ## Keywords that hold schemas -/

/-- Whether another keyword takes care of named and matching members. -/
def takesOverMembers (ms : Members) : Bool :=
  match Members.get? ms "additionalProperties" with
  | some (.bool false) | some (.object _) => true
  | _ => false

/-- Reads the keyword about members that no other keyword names. -/
def readAdditional (c : Context) (ps : Pieces) (ms : Members) (keyword : String) (v : Value) :
    Compiling (List Keyword) := do
  let matching ← readMatching c "patternProperties" ((ps.named? "patternProperties").getD [])
  match v with
  | .bool true => pure []
  | .bool false =>
    if Members.contains ms "properties" || Members.contains ms "patternProperties" then
      pure [.closed (← readNamed c "properties" ((ps.named? "properties").getD [])) matching]
    else test keyword .noMembers
  | _ =>
    match ps.one? keyword with
    | some p => do
      let named ← readNamed c "properties" ((ps.named? "properties").getD [])
      pure [.additional named matching (← p.within (c.down [.key keyword]))]
    | none => pure []

/-- Reads a keyword that holds one schema. -/
def readOne (c : Context) (ps : Pieces) (keyword : String) (f : Form → Keyword) :
    Compiling (List Keyword) :=
  match ps.one? keyword with
  | some p => do pure [f (← p.within (c.down [.key keyword]))]
  | none => pure []

/-- Reads the keyword about items beyond those with a schema each. -/
def readAdditionalItems (c : Context) (ps : Pieces) (ms : Members) (keyword : String)
    (v : Value) : Compiling (List Keyword) :=
  match Members.get? ms "items" with
  | some (.array vs) =>
    match v with
    | .bool false => test keyword (.noItemsBeyond vs.length)
    | .object _ => readOne c ps keyword (.itemsFrom keyword vs.length)
    | _ => pure []
  | some (.bool false) => test keyword .unsatisfiable
  | some (.object _) | some (.bool true) | none => pure []
  | some _ => wrongType c.place v [.array, .object]

/-- Reads the keyword about all items, or about those behind the first ones. -/
def readItems (c : Context) (ps : Pieces) (ms : Members) (keyword : String) (v : Value) :
    Compiling (List Keyword) :=
  let skip : Nat :=
    match Members.get? ms "prefixItems" with
    | some (.array vs) => vs.length
    | _ => 0
  match v with
  | .array _ => do
    pure [.tuple keyword (← readList c keyword ((ps.many? keyword).getD []))]
  | .bool _ | .object _ => readOne c ps keyword (.itemsFrom keyword skip)
  | _ => wrongType c.place v [.array, .boolean, .object]

/-- Reads the keyword about some items. -/
def readContains (c : Context) (ps : Pieces) (ms : Members) (keyword : String) :
    Compiling (List Keyword) := do
  if c.draft.since .draft2019 then
    let least ← containsLimit c.place ms "minContains"
    let most ← containsLimit c.place ms "maxContains"
    readOne c ps keyword (.contains { least, most })
  else readOne c ps keyword (.contains { least := none, most := none })

/-- Reads a condition with what it leads to. Alone it says nothing. -/
def readConditional (c : Context) (ps : Pieces) (keyword : String) : Compiling (List Keyword) :=
  let branch (name : String) : Compiling Form :=
    match ps.one? name with
    | some p => p.within (c.down [.key name])
    | none => pure .always
  match ps.one? keyword with
  | some p =>
    if (ps.one? "then").isNone && (ps.one? "else").isNone then pure []
    else do
      let condition ← p.within (c.down [.key keyword])
      pure [.conditional condition (← branch "then") (← branch "else")]
  | none => pure []

/-- Reads what a member calls for: names, or a schema. -/
def readDependency (c : Context) (keyword : String) (dep : String × Part) :
    Compiling Keyword := do
  let schema : Compiling Keyword := do
    let way : Location := [.key keyword, .key dep.1]
    pure (.dependent keyword way dep.1 (← dep.2.within (c.down way)))
  match dep.2.written with
  | .array vs =>
    if keyword = "dependencies" then
      let names ← readNames (c.place ++ [.key keyword]) (.array vs)
      pure (.dependent keyword [.key keyword] dep.1 (.all [.required [] names]))
    else schema
  | _ => schema

/-- Reads a keyword that holds a list of schemas. -/
def readMany (c : Context) (ps : Pieces) (keyword : String) (v : Value)
    (f : List Form → Keyword) : Compiling (List Keyword) :=
  match ps.many? keyword with
  | some parts => do pure [f (← readList c keyword parts)]
  | none => wrongType c.place v [.array]

/-- Reads a keyword about what is not looked at. -/
def readUnevaluated (r : Reader) (c : Context) (ms : Members) (ps : Pieces) (keyword : String)
    (focus : Focus) (f : Coverage → Form → Keyword) : Compiling (List Keyword) :=
  match ps.one? keyword with
  | some p =>
    match p.written with
    | .bool true => pure []
    | _ => do pure [f (← coverAll r ms ps focus c) (← p.within (c.down [.key keyword]))]
  | none => pure []

/-- Reads one keyword of a schema. -/
def Word.read (r : Reader) (c : Context) (ms : Members) (ps : Pieces) (keyword : String)
    (v : Value) (w : Word) : Compiling (List Keyword) :=
  match w with
  | .additionalItems => readAdditionalItems c ps ms keyword v
  | .additionalProperties => readAdditional c ps ms keyword v
  | .allOf => readMany c ps keyword v .allOf
  | .anyOf => readMany c ps keyword v .anyOf
  | .oneOf => readMany c ps keyword v .oneOf
  | .prefixItems => readMany c ps keyword v (.tuple keyword)
  | .alternative | .consequence => pure []
  | .condition => readConditional c ps keyword
  | .contains => readContains c ps ms keyword
  | .dependencies | .dependentSchemas =>
    match ps.named? keyword with
    | some parts => parts.mapM (readDependency c keyword)
    | none => wrongType c.place v [.object]
  | .dynamicReference | .reference =>
    match v with
    | .string text => readReference r c keyword text
    | _ => wrongType c.place v [.string]
  | .recursiveReference =>
    match v with
    | .string _ => readRecursive r c keyword
    | _ => wrongType c.place v [.string]
  | .items => readItems c ps ms keyword v
  | .not => readOne c ps keyword (.not v)
  | .patternProperties =>
    if takesOverMembers ms then pure []
    else
      match ps.named? keyword with
      | some parts => do pure [.patternProperties (← readMatching c keyword parts)]
      | none => wrongType c.place v [.object]
  | .properties =>
    if takesOverMembers ms then pure []
    else
      match ps.named? keyword with
      | some parts => do pure [.properties (← readNamed c keyword parts)]
      | none => wrongType c.place v [.object]
  | .propertyNames =>
    match v with
    | .bool true => pure []
    | .bool false => test keyword .noMembers
    | .object _ => readOne c ps keyword .propertyNames
    | _ => wrongType c.place v [.boolean, .object]
  | .unevaluatedItems => readUnevaluated r c ms ps keyword .items .unevaluatedItems
  | .unevaluatedProperties => readUnevaluated r c ms ps keyword .members .unevaluatedProperties
  | w => readCondition c ms keyword v w

/-! ## Schemas -/

/-- The members of a schema that count. Up to draft 7 a reference hides the others. -/
def effectiveMembers (d : Draft) (ms : Members) : Members :=
  if d.since .draft2019 then ms
  else
    match Members.get? ms "$ref" with
    | some v => [("$ref", v)]
    | none => ms

/-- Puts a schema together from its members and the schemas in them. -/
def assemble (r : Reader) (ms : Members) (ps : Pieces) (c : Context) : Compiling Form := do
  let keywords ← (effectiveMembers c.draft ms).mapM fun m =>
    match Word.of? c.draft c.vocabularies m.1 with
    | some w => w.read r c ms ps m.1 m.2
    | none => pure []
  pure (.all keywords.flatten)

mutual

/-- The ways of reading a schema. -/
def Part.of (r : Reader) : Value → Part
  | .bool b =>
    { written := .bool b, form := fun _ => pure (if b then .always else .never),
      coverage := fun _ _ => pure (.join []) }
  | .object ms =>
    let ps := piecesOf r ms
    { written := .object ms, form := assemble r ms ps, coverage := coverAll r ms ps }
  | v =>
    { written := v, form := fun c => wrongType c.place v [.boolean, .object],
      coverage := fun _ _ => pure (.join []) }

/-- The schemas in the members of a schema. -/
def piecesOf (r : Reader) : List (String × Value) → Pieces
  | [] => []
  | (k, v) :: ms =>
    (k,
      match (Word.named? k).map (Word.shape v) with
      | some .one => .one (Part.of r v)
      | some .many => partsOf r v
      | some .named => partsOf r v
      | _ => .none) :: piecesOf r ms

/-- The schemas right below a value. -/
def partsOf (r : Reader) : Value → Piece
  | .array vs => .many (itemParts r vs)
  | .object ms => .named (memberParts r ms)
  | _ => .none

/-- A list of schemas. -/
def itemParts (r : Reader) : List Value → List Part
  | [] => []
  | v :: vs => Part.of r v :: itemParts r vs

/-- Schemas by name. -/
def memberParts (r : Reader) : List (String × Value) → List (String × Part)
  | [] => []
  | (k, v) :: ms => (k, Part.of r v) :: memberParts r ms

end

/-- The reader that follows at most so many references in a row in place. -/
def Reader.following (registry : Registry) : Nat → Reader
  | 0 => { registry, form := fun _ _ => pure .always, coverage := fun _ _ _ => pure (.join []) }
  | n + 1 =>
    { registry,
      form := fun v c => (Part.of (Reader.following registry n) v).form c
      coverage := fun focus v c => (Part.of (Reader.following registry n) v).coverage focus c }

end AgentManifest.Schema
