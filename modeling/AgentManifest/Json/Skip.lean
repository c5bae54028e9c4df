import AgentManifest.Json.Reader

/-!
# Skipping JSON values

A value that nobody asked for is read over with less care than one that is kept: numbers have no
range, escapes may name half a surrogate pair, and there is no limit on nesting.
-/

namespace AgentManifest.Json

/-- Steps over the exponent of a number, behind its `e`. -/
def skipExponent (s : List Char) : Except Stop (List Char) :=
  let s :=
    match s with
    | '+' :: s => s
    | '-' :: s => s
    | s => s
  match s with
  | c :: cs => if c.isDigit then .ok (cs.dropWhile Char.isDigit) else stopAfter .invalidNumber s
  | [] => stopAt .invalidNumber []

/-- Steps over the part of a number behind its integer digits. -/
def skipAfterInteger (s : List Char) : Except Stop (List Char) :=
  match s with
  | '.' :: rest =>
    let after := rest.dropWhile Char.isDigit
    if rest.head?.any Char.isDigit then
      match after with
      | 'e' :: rest => skipExponent rest
      | 'E' :: rest => skipExponent rest
      | _ => .ok after
    else stopAfter .invalidNumber rest
  | 'e' :: rest => skipExponent rest
  | 'E' :: rest => skipExponent rest
  | _ => .ok s

/-- Steps over a number behind its sign. -/
def skipNumber (s : List Char) : Except Stop (List Char) :=
  match s with
  | '0' :: rest =>
    if rest.head?.any Char.isDigit then stopAfter .invalidNumber rest else skipAfterInteger rest
  | c :: rest =>
    if c.isDigit then skipAfterInteger (rest.dropWhile Char.isDigit)
    else stopAfter .invalidNumber s
  | [] => stopAt .invalidNumber []

/-- Steps over a string behind its opening quote. -/
def skipString : Nat → List Char → Except Stop (List Char)
  | 0, s => stopAt .eofString s
  | fuel + 1, s =>
    match s with
    | [] => stopAt .eofString []
    | '"' :: rest => .ok rest
    | '\\' :: [] => stopAt .eofString []
    | '\\' :: 'u' :: rest => do
      let (_, rest) ← hexUnit rest
      skipString fuel rest
    | '\\' :: c :: rest =>
      if (simpleEscape c).isSome then skipString fuel rest else stopAfter .invalidEscape (c :: rest)
    | c :: rest =>
      if c.toNat < 0x20 then stopAfter .controlCharacter (c :: rest) else skipString fuel rest

mutual

/-- Steps over a value. -/
def skipValue : Nat → List Char → Except Stop (List Char)
  | 0, s => stopAt .eofValue s
  | fuel + 1, s =>
    match skipBlanks s with
    | [] => stopAt .eofValue []
    | 'n' :: rest => word ['u', 'l', 'l'] rest
    | 't' :: rest => word ['r', 'u', 'e'] rest
    | 'f' :: rest => word ['a', 'l', 's', 'e'] rest
    | '-' :: rest => skipNumber rest
    | '"' :: rest => skipString fuel rest
    | '[' :: rest =>
      match skipBlanks rest with
      | ']' :: rest => .ok rest
      | [] => stopAt .eofArray []
      | rest => skipItems fuel rest
    | '{' :: rest =>
      match skipBlanks rest with
      | '}' :: rest => .ok rest
      | [] => stopAt .eofObject []
      | rest => skipMembers fuel rest
    | c :: rest =>
      if c.isDigit then skipNumber (c :: rest) else stopAfter .expectedValue (c :: rest)

/-- Steps over items and the closing bracket. -/
def skipItems : Nat → List Char → Except Stop (List Char)
  | 0, s => stopAt .eofArray s
  | fuel + 1, s => do
    let rest ← skipValue fuel s
    match skipBlanks rest with
    | ']' :: rest => .ok rest
    | ',' :: rest => skipItems fuel rest
    | [] => stopAt .eofArray []
    | rest => stopAfter .expectedArrayCommaOrEnd rest

/-- Steps over members and the closing brace. -/
def skipMembers : Nat → List Char → Except Stop (List Char)
  | 0, s => stopAt .eofObject s
  | fuel + 1, s =>
    match skipBlanks s with
    | [] => stopAt .eofObject []
    | '"' :: rest => do
      let rest ← skipString fuel rest
      let rest ← colon rest
      let rest ← skipValue fuel rest
      match skipBlanks rest with
      | '}' :: rest => .ok rest
      | ',' :: rest => skipMembers fuel rest
      | [] => stopAt .eofObject []
      | rest => stopAfter .expectedObjectCommaOrEnd rest
    | rest => stopAfter .keyMustBeString rest

end

end AgentManifest.Json
