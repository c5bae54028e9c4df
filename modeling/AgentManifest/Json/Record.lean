import AgentManifest.Json.Skip

/-!
# Reading JSON into records

A text is read straight into values of a known shape, so that a mismatch is reported where it is
met. A record is written as an object, or as an array of its fields in order.
-/

namespace AgentManifest.Json

/-- A refusal of the value that starts here, behind which a found scalar lies; a container is
refused in front of its bracket. -/
def refuse {α : Type} (expected : String) (fuel : Nat) (s : List Char) : Except Stop α :=
  let mismatch (found : Decode.Found) (rest : List Char) : Except Stop α :=
    stopAt (.shape (.invalidType found expected)) rest
  let numeric (r : Except Stop (Parsed Number)) : Except Stop α := do
    match ← r with
    | (.int n, rest) => mismatch (.integer n) rest
    | (.float x, rest) => mismatch (.float (x.text .json)) rest
  match skipBlanks s with
  | [] => stopAt .eofValue []
  | 'n' :: rest => do mismatch .null (← word ['u', 'l', 'l'] rest)
  | 't' :: rest => do mismatch (.bool true) (← word ['r', 'u', 'e'] rest)
  | 'f' :: rest => do mismatch (.bool false) (← word ['a', 'l', 's', 'e'] rest)
  | '-' :: rest => numeric (number true rest)
  | '"' :: rest => do
    let (t, rest) ← stringRest fuel rest
    mismatch (.text t) rest
  | '[' :: rest => mismatch .sequence ('[' :: rest)
  | '{' :: rest => mismatch .map ('{' :: rest)
  | c :: rest =>
    if c.isDigit then numeric (number false (c :: rest)) else stopAfter .expectedValue (c :: rest)

/-- A way to read a value of a type: from fuel, the containers that may be opened, and the text. -/
abbrev Decoder (α : Type) := Nat → Nat → List Char → Except Stop (Parsed α)

/-- A string. -/
def decodeString : Decoder String := fun fuel _ s =>
  match skipBlanks s with
  | '"' :: rest => stringRest fuel rest
  | rest => refuse "a string" fuel rest

/-- A natural number below `2^64`; `kind` names it in messages. -/
def decodeNatural (kind : String) : Decoder Nat := fun fuel _ s =>
  let accept (r : Parsed Number) : Except Stop (Parsed Nat) :=
    match r with
    | (.int n, rest) =>
      if n < 0 then stopAt (.shape (.invalidValue (.integer n) kind)) rest else .ok (n.toNat, rest)
    | (.float x, rest) => stopAt (.shape (.invalidType (.float (x.text .json)) kind)) rest
  match skipBlanks s with
  | '-' :: rest => do accept (← number true rest)
  | c :: rest => if c.isDigit then do accept (← number false (c :: rest)) else refuse kind fuel s
  | [] => refuse kind fuel s

/-- An optional value; null stands for its absence. -/
def decodeOption {α : Type} (inner : Decoder α) : Decoder (Option α) := fun fuel depth s =>
  match skipBlanks s with
  | 'n' :: rest => do .ok (none, ← word ['u', 'l', 'l'] rest)
  | rest => do
    let (a, rest) ← inner fuel depth rest
    .ok (some a, rest)

/-- An object with any members. -/
def decodeMembers : Decoder Members := fun fuel depth s =>
  match skipBlanks s with
  | '{' :: rest =>
    if depth ≤ 1 then stopAfter .nestingTooDeep ('{' :: rest)
    else do
      let (ms, rest) ← members fuel (depth - 1) true rest
      .ok (Members.ofList ms, rest)
  | rest => refuse "a map" fuel rest

/-- The items of an array up to its closing bracket, each read by `inner`. -/
def decodeItems {α : Type} (inner : Decoder α) (depth : Nat) :
    Nat → Bool → List Char → Except Stop (Parsed (List α))
  | 0, _, s => stopAt .eofArray s
  | fuel + 1, first, s => do
    let (more, rest) ← beforeItem first s
    if more then
      let (a, rest) ← inner fuel depth rest
      let (as, rest) ← decodeItems inner depth fuel false rest
      .ok (a :: as, rest)
    else .ok ([], rest)

/-- An array whose items are all read by one decoder. -/
def decodeList {α : Type} (inner : Decoder α) : Decoder (List α) := fun fuel depth s =>
  match skipBlanks s with
  | '[' :: rest =>
    if depth ≤ 1 then stopAfter .nestingTooDeep ('[' :: rest)
    else decodeItems inner (depth - 1) fuel true rest
  | rest => refuse "a sequence" fuel rest

/-! ## Names out of a list -/

/-- What a name stands for, or a mismatch behind it. -/
def variant {α : Type} (variants : List (String × α)) (name : String) (rest : List Char) :
    Except Stop (Parsed α) :=
  match variants.lookup name with
  | some a => .ok (a, rest)
  | none => stopAt (.shape (.unknownVariant name (variants.map Prod.fst))) rest

/-- One of some names, as a string or as the only name of an object with a null in it. -/
def decodeVariant {α : Type} (variants : List (String × α)) : Decoder α := fun fuel depth s =>
  match skipBlanks s with
  | [] => stopAt .eofValue []
  | '"' :: rest => do
    let (name, rest) ← stringRest fuel rest
    variant variants name rest
  | '{' :: rest =>
    if depth ≤ 1 then stopAfter .nestingTooDeep ('{' :: rest)
    else
      match skipBlanks rest with
      | '"' :: rest => do
        let (name, rest) ← stringRest fuel rest
        let (a, rest) ← variant variants name rest
        let rest ← colon rest
        match skipBlanks rest with
        | 'n' :: rest =>
          let rest ← word ['u', 'l', 'l'] rest
          match skipBlanks rest with
          | '}' :: rest => .ok (a, rest)
          | [] => stopAt .eofObject []
          | rest => stopAt .expectedValue rest
        | rest => refuse "unit" fuel rest
      | rest => refuse "variant identifier" fuel rest
  | c :: rest => stopAfter .expectedValue (c :: rest)

/-! ## Records -/

/-- A field of a record that is built up in a state. -/
structure Field (σ : Type) where
  name : String
  /-- Whether a record without the field is refused. -/
  required : Bool
  isSet : σ → Bool
  read : Nat → Nat → List Char → σ → Except Stop (Parsed σ)

/-- A field that holds what a decoder reads. -/
def Field.of {σ α : Type} (name : String) (required : Bool) (decoder : Decoder α)
    (get : σ → Option α) (set : σ → α → σ) : Field σ :=
  { name, required, isSet := fun st => (get st).isSome,
    read := fun fuel depth s st => do
      let (a, rest) ← decoder fuel depth s
      .ok (set st a, rest) }

/-- The shape of a record. -/
structure Shape (σ : Type) where
  /-- How messages call the record. -/
  title : String
  fields : List (Field σ)
  /-- Whether names that are no fields are refused. -/
  closed : Bool

namespace Shape

/-- The text at which a mismatch inside an object is reported: behind its end if that is next. -/
def behindEnd (s : List Char) : List Char :=
  match skipBlanks s with
  | '}' :: rest => rest
  | rest => rest

/-- The members of an object up to its closing brace. -/
def members {σ : Type} (shape : Shape σ) (depth : Nat) :
    Nat → Bool → List Char → σ → Except Stop (Parsed σ)
  | 0, _, s, _ => stopAt .eofObject s
  | fuel + 1, first, s, st => do
    let (more, rest) ← beforeName first s
    if more then
      let (name, rest) ← stringRest fuel rest
      match shape.fields.find? (·.name == name) with
      | none =>
        if shape.closed then
          stopAt (.shape (.unknownField name (shape.fields.map (·.name)))) (behindEnd rest)
        else
          let rest ← colon rest
          members shape depth fuel false (← skipValue fuel rest) st
      | some field =>
        if field.isSet st then stopAt (.shape (.duplicateField name)) (behindEnd rest)
        else
          let rest ← colon rest
          let (st, rest) ← field.read fuel depth rest st
          members shape depth fuel false rest st
    else
      match shape.fields.find? fun field => field.required && !field.isSet st with
      | some field => stopAt (.shape (.missingField field.name)) rest
      | none => .ok (st, rest)

/-- Nothing may follow the last item of a record. -/
def endItems (s : List Char) : Except Stop (List Char) :=
  match skipBlanks s with
  | [] => stopAt .eofArray []
  | ']' :: rest => .ok rest
  | ',' :: rest =>
    match skipBlanks rest with
    | ']' :: rest => stopAfter .trailingComma (']' :: rest)
    | rest => stopAfter .trailingCharacters rest
  | rest => stopAfter .trailingCharacters rest

/-- The fields of a record as the items of an array, from the `index`-th on. -/
def items {σ : Type} (shape : Shape σ) (fuel depth : Nat) :
    Nat → List (Field σ) → List Char → σ → Except Stop (Parsed σ)
  | _, [], s, st => do .ok (st, ← endItems s)
  | index, field :: fields, s, st => do
    let (more, rest) ← beforeItem (index == 0) s
    if more then
      let (st, rest) ← field.read fuel depth rest st
      items shape fuel depth (index + 1) fields rest st
    else
      match (field :: fields).findIdx? (·.required) with
      | none => .ok (st, rest)
      | some n =>
        let expected := shape.title ++ " with " ++
          String.ofList (Decimal.natText shape.fields.length) ++ " elements"
        stopAt (.shape (.invalidLength (index + n) expected)) rest

/-- A record, from a state in which no field is set. -/
def decode {σ : Type} (shape : Shape σ) (st : σ) : Decoder σ := fun fuel depth s =>
  match skipBlanks s with
  | [] => stopAt .eofValue []
  | '[' :: rest =>
    if depth ≤ 1 then stopAfter .nestingTooDeep ('[' :: rest)
    else shape.items fuel (depth - 1) 0 shape.fields rest st
  | '{' :: rest =>
    if depth ≤ 1 then stopAfter .nestingTooDeep ('{' :: rest)
    else shape.members (depth - 1) fuel true rest st
  | rest => refuse shape.title fuel rest

end Shape

/-- The value of a whole text, by its decoder. -/
def decodeText {α : Type} (decoder : Decoder α) (text : String) : Except Error α :=
  let chars := text.toList
  match (do
      let (a, rest) ← decoder (2 * chars.length + 2) maxNesting chars
      finish a rest : Except Stop α) with
  | .ok a => .ok a
  | .error stop => .error (stop.locate chars)

end AgentManifest.Json
