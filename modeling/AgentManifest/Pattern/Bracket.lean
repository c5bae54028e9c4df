import AgentManifest.Pattern.Escape

/-!
# Sets in brackets

Characters, ranges of them, escapes, named sets and further sets in brackets make up a set, and sets
may be intersected with, taken from or compared to each other.
-/

namespace AgentManifest.Pattern

open Reading (invalid)

/-- How a set is read: whether it is spaced, and whether it ignores case. -/
structure SetMode where
  spaced : Bool
  ignoreCase : Bool

/-- How two sets are put together. -/
inductive SetOperation where
  | intersection
  | difference
  | symmetricDifference
  deriving DecidableEq, Repr, Inhabited

/-- The set that an operation makes of two. -/
def SetOperation.apply (op : SetOperation) (a b : CharSet) : CharSet :=
  match op with
  | .intersection => a.inter b
  | .difference => a.diff b
  | .symmetricDifference => a.symmDiff b

/-- A set being read: what stands left of the last operation, with how deep it is, and the members
behind it, with their number and how deep the deepest of them is. -/
structure OpenSet where
  negated : Bool
  left : Option (CharSet × SetOperation × Nat) := none
  members : CharSet := CharSet.none
  count : Nat := 0
  deepest : Nat := 0

namespace OpenSet

/-- Adds members that are so deep. -/
def add (s : OpenSet) (a : CharSet) (depth : Nat) : OpenSet :=
  { s with
    members := if s.count = 0 then a else s.members.union a
    count := s.count + 1
    deepest := max s.deepest depth }

/-- The set read so far, and how deep it is. -/
def value (ignoreCase : Bool) (s : OpenSet) : CharSet × Nat :=
  let members := s.members.finish ignoreCase false
  let depth := if 2 ≤ s.count then s.deepest + 1 else s.deepest
  match s.left with
  | some (a, op, left) => (op.apply a members, max left depth + 1)
  | none => (members, depth)

/-- Puts an operation behind the set read so far. -/
def operation (ignoreCase : Bool) (s : OpenSet) (op : SetOperation) : OpenSet :=
  let (a, depth) := s.value ignoreCase
  { negated := s.negated, left := some (a, op, depth) }

end OpenSet

/-- Opens a set: whether it is negated, and the hyphens or the bracket that it starts with. -/
def openSet (spaced : Bool) (cs : List Char) : OpenSet × List Char :=
  let cs := skip spaced cs
  let (negated, cs) : Bool × List Char :=
    match cs with
    | '^' :: rest => (true, skip spaced rest)
    | _ => (false, cs)
  let (hyphens, behind) := skipHyphens spaced 0 cs.length cs
  if 0 < hyphens then
    ({ negated, members := CharSet.single '-', count := hyphens }, behind)
  else
    match cs with
    | ']' :: rest => ({ negated, members := CharSet.single ']', count := 1 }, rest)
    | _ => ({ negated }, cs)
where
  /-- Skips hyphens and counts them. -/
  skipHyphens (spaced : Bool) (hyphens : Nat) : Nat → List Char → Nat × List Char
    | fuel + 1, '-' :: rest => skipHyphens spaced (hyphens + 1) fuel (skip spaced rest)
    | _, cs => (hyphens, cs)

/-- The set with a name between colons in brackets that a text starts with. -/
def namedSet? (ignoreCase : Bool) (cs : List Char) : Option (CharSet × List Char) :=
  match cs with
  | '[' :: ':' :: rest =>
    let (negated, rest) : Bool × List Char :=
      match rest with
      | '^' :: rest => (true, rest)
      | _ => (false, rest)
    let name := rest.takeWhile (· != ':')
    match rest.drop name.length with
    | ':' :: ']' :: rest =>
      (CharSet.named? (String.ofList name)).map fun a => (a.finish ignoreCase negated, rest)
    | _ => none
  | _ => none

/-- Reads one member of a set: a character or an escape. -/
def readMember (mode : SetMode) (cs : List Char) : Reading (Escaped × List Char) := do
  match cs with
  | '\\' :: rest =>
    match ← readEscape mode.spaced rest with
    | (.bell, rest) => pure (.char '\x07', rest)
    | found => pure found
  | c :: rest => pure (.char c, rest)
  | [] => invalid

/-- The members that an escape stands for. -/
def membersOf (ignoreCase : Bool) : Escaped → Reading CharSet
  | .char c => pure (CharSet.single c)
  | .set a negated => pure (a.finish ignoreCase negated)
  | _ => invalid

/-- Reads a member of a set, or a range of them. -/
def readRange (mode : SetMode) (cs : List Char) : Reading (CharSet × List Char) := do
  let (first, rest) ← readMember mode cs
  let rest := skip mode.spaced rest
  match rest with
  | '-' :: behind =>
    let behind := skip mode.spaced behind
    if behind.head? = some ']' ∨ behind.head? = some '-' then
      pure (← membersOf mode.ignoreCase first, rest)
    else
      let (last, rest) ← readMember mode behind
      match first, last with
      | .char a, .char b => if a ≤ b then pure (CharSet.range a b, rest) else invalid
      | _, _ => invalid
  | _ => pure (← membersOf mode.ignoreCase first, rest)

/-- Reads a set up to its closing bracket, and tells how deep it is. -/
def readSet (mode : SetMode) : Nat → OpenSet → List Char → Reading (CharSet × Nat × List Char)
  | 0, _, _ => invalid
  | fuel + 1, s, cs =>
    match skip mode.spaced cs with
    | [] => invalid
    | ']' :: rest =>
      let (a, depth) := s.value mode.ignoreCase
      pure (a.finish false s.negated, depth + 1, rest)
    | '&' :: '&' :: rest => readSet mode fuel (s.operation mode.ignoreCase .intersection) rest
    | '-' :: '-' :: rest => readSet mode fuel (s.operation mode.ignoreCase .difference) rest
    | '~' :: '~' :: rest =>
      readSet mode fuel (s.operation mode.ignoreCase .symmetricDifference) rest
    | '[' :: rest =>
      match namedSet? mode.ignoreCase ('[' :: rest) with
      | some (a, rest) => readSet mode fuel (s.add a 0) rest
      | none => do
        let (inner, rest) := openSet mode.spaced rest
        let (a, depth, rest) ← readSet mode fuel inner rest
        readSet mode fuel (s.add a depth) rest
    | cs => do
      let (a, rest) ← readRange mode cs
      readSet mode fuel (s.add a 0) rest

/-- Reads a set in brackets, behind the opening one, and tells how deep it is. -/
def readBracket (mode : SetMode) (cs : List Char) : Reading (CharSet × Nat × List Char) :=
  let (s, rest) := openSet mode.spaced cs
  readSet mode (cs.length + 1) s rest

/-- The set that a text is, in brackets or as one escape. -/
def setOf? (ignoreCase : Bool) (text : List Char) : Option CharSet :=
  let reading : Reading CharSet :=
    match text with
    | '[' :: rest => do
      let (a, _, rest) ← readBracket { spaced := false, ignoreCase } rest
      if rest.isEmpty then pure a else invalid
    | '\\' :: rest => do
      let (escaped, rest) ← readEscape false rest
      if rest.isEmpty then membersOf ignoreCase escaped else invalid
    | _ => invalid
  match reading.run {} with
  | .ok (a, findings) => if findings.unknown then none else some a
  | .error _ => none

end AgentManifest.Pattern
