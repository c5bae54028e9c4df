import AgentManifest.Pattern.Bracket

/-!
# Judging by the plain dialect

A text is sound if the plain dialect takes it, and the wide dialect is left to judge it if it comes
to look around itself or to refer to a group before anything is wrong with it.
-/

namespace AgentManifest.Pattern

open Reading (invalid beyond)

/-- A part of a pattern: how deep it is, and whether it may be repeated. -/
structure Item where
  depth : Nat
  repeatable : Bool

/-- How deep parts one after another are. -/
def depthOfSequence : List Item → Nat
  | [] => 0
  | [a] => a.depth
  | items => (items.map Item.depth).foldl max 0 + 1

/-- How deep one of some branches is. -/
def depthOfBranches : List Nat → Nat
  | [depth] => depth
  | depths => depths.foldl max 0 + 1

/-- How deep a pattern may be. -/
def maxDepth : Nat := 250

/-! ## Repetition -/

/-- The largest bound of a repetition. -/
def maxBound : Nat := UInt32.size - 1

/-- Reads digits, between which there may be blanks if the pattern is spaced. -/
def takeDigits (spaced : Bool) (digits : List Char) : Nat → List Char → List Char × List Char
  | 0, cs => (digits.reverse, cs)
  | fuel + 1, cs =>
    match cs with
    | c :: rest =>
      if c.isDigit then takeDigits spaced (c :: digits) fuel (skip spaced rest)
      else (digits.reverse, cs)
    | [] => (digits.reverse, [])

/-- Reads a bound of a repetition, with blanks around it. It is absent if there are no digits. -/
def readBound (spaced : Bool) (cs : List Char) : Reading (Option Nat × List Char) :=
  let (digits, rest) := takeDigits spaced [] cs.length (cs.dropWhile Text.isBlank)
  let rest :=
    match rest with
    | c :: _ => if Text.isBlank c then skip spaced (rest.dropWhile Text.isBlank) else rest
    | [] => []
  if digits.isEmpty then pure (none, rest)
  else
    let n := decimalNumber digits
    if n ≤ maxBound then pure (some n, rest) else invalid

/-- Reads the bounds of a repetition, behind the opening brace. -/
def readBounds (spaced : Bool) (cs : List Char) : Reading (List Char) := do
  match ← readBound spaced (skip spaced cs) with
  | (some _, '}' :: rest) => pure rest
  | (some least, ',' :: rest) =>
    match skip spaced rest with
    | '}' :: rest => pure rest
    | cs =>
      match ← readBound spaced cs with
      | (some most, '}' :: rest) => if least ≤ most then pure rest else invalid
      | _ => invalid
  | _ => invalid

/-- Drops the mark of reluctance that an operator may have. -/
def dropMark (cs : List Char) : List Char :=
  match cs with
  | '?' :: rest => rest
  | _ => cs

/-- Reads an operator that repeats the part before it, if the text starts with one. -/
def readOperator? (spaced : Bool) (cs : List Char) : Reading (Option (List Char)) :=
  match cs with
  | '?' :: rest => pure (some (dropMark rest))
  | '*' :: rest => pure (some (dropMark rest))
  | '+' :: rest => pure (some (dropMark rest))
  | '{' :: rest => do pure (some (dropMark (skip spaced (← readBounds spaced rest))))
  | _ => pure none

/-! ## Groups -/

/-- What opens a group. -/
inductive Opening where
  /-- A group in which the text may be spaced or not. -/
  | group (spaced : Bool)
  /-- Switches for the rest of the surrounding group. -/
  | switches (spaced : Bool)

/-- Whether a text may be the name of a group. -/
def isGroupName : List Char → Bool
  | [] => false
  | c :: cs =>
    (c == '_' || Text.isAlphabetic c) &&
      cs.all fun c => ['_', '.', '[', ']'].contains c || Text.isAlphanumeric c

/-- Reads the name of a group, which no other group may have. -/
def readGroupName (spaced : Bool) (cs : List Char) : Reading (Opening × List Char) := do
  let name := cs.takeWhile (· != '>')
  if isGroupName name ∧ name.length < cs.length ∧ !(← get).names.contains name then
    modify fun f => { f with names := name :: f.names }
    pure (.group spaced, cs.drop (name.length + 1))
  else invalid

/-- The letters that are switches. -/
def switchLetters : List Char := ['i', 'm', 's', 'U', 'u', 'R', 'x']

/-- Reads switches up to a colon or a closing bracket. Each of them stands there once, and the last
one is not a hyphen. -/
def readSwitches (spaced on : Bool) (seen : List Char) : List Char → Reading (Opening × List Char)
  | [] => invalid
  | c :: rest =>
    if c = ':' ∨ c = ')' then
      if seen.head? = some '-' ∨ (c = ')' ∧ seen.isEmpty) then invalid
      else pure (if c = ':' then .group spaced else .switches spaced, rest)
    else if seen.contains c then invalid
    else if c = '-' then readSwitches spaced false (c :: seen) rest
    else if c = 'x' then readSwitches on on (c :: seen) rest
    else if switchLetters.contains c then readSwitches spaced on (c :: seen) rest
    else invalid

/-- Reads the opening of a group, behind its bracket. -/
def readOpening (spaced : Bool) (cs : List Char) : Reading (Opening × List Char) :=
  match skip spaced cs with
  | '?' :: '=' :: _ => beyond
  | '?' :: '!' :: _ => beyond
  | '?' :: '<' :: '=' :: _ => beyond
  | '?' :: '<' :: '!' :: _ => beyond
  | '?' :: 'P' :: '<' :: rest => readGroupName spaced rest
  | '?' :: '<' :: rest => readGroupName spaced rest
  | '?' :: rest => readSwitches spaced true [] rest
  | rest => pure (.group spaced, rest)

/-! ## Parts -/

/-- Reads a part that is no group, and tells how deep it is. -/
def readPart (spaced : Bool) (c : Char) (rest : List Char) : Reading (Nat × List Char) := do
  if c = '\\' then
    match ← readEscape spaced rest with
    | (.bell, rest) => do
      modify fun f => { f with bell := true }
      pure (0, rest)
    | (_, rest) => pure (0, rest)
  else if c = '[' then
    let (_, depth, rest) ← readBracket { spaced, ignoreCase := false } rest
    pure (depth, rest)
  else pure (0, rest)

/-- Reads the branches of a body up to its closing bracket or the end of the text, and tells how
deep it is. -/
def judgeBody : Nat → Bool → List Nat → List Item → List Char → Reading (Nat × List Char)
  | 0, _, _, _, _ => invalid
  | fuel + 1, spaced, branches, items, cs => do
    let branch := depthOfSequence items
    let cs := skip spaced cs
    match ← readOperator? spaced cs with
    | some rest =>
      match items with
      | a :: items =>
        if a.repeatable then
          judgeBody fuel spaced branches ({ a with depth := a.depth + 1 } :: items) rest
        else invalid
      | [] => invalid
    | none =>
      match cs with
      | [] => pure (depthOfBranches (branch :: branches), [])
      | ')' :: _ => pure (depthOfBranches (branch :: branches), cs)
      | '|' :: rest => judgeBody fuel spaced (branch :: branches) [] rest
      | '(' :: rest =>
        match ← readOpening spaced rest with
        | (.switches spaced, rest) =>
          judgeBody fuel spaced branches ({ depth := 0, repeatable := false } :: items) rest
        | (.group inner, rest) =>
          match ← judgeBody fuel inner [] [] rest with
          | (depth, ')' :: rest) =>
            judgeBody fuel spaced branches ({ depth := depth + 1, repeatable := true } :: items)
              rest
          | _ => invalid
      | c :: rest =>
        let (depth, rest) ← readPart spaced c rest
        judgeBody fuel spaced branches ({ depth, repeatable := true } :: items) rest

/-- Reads a whole text. -/
def judgeText (text : List Char) : Reading Unit := do
  let (depth, rest) ← judgeBody (text.length + 1) false [] [] text
  if rest.isEmpty ∧ depth ≤ maxDepth then pure () else invalid

/-! ## Judgements -/

/-- What becomes of a text. -/
inductive Judgement where
  /-- A pattern, with the shorthands spelled out. -/
  | sound (text : List Char)
  /-- A text that is left to the wide dialect. -/
  | beyond (text : List Char)
  | malformed
  deriving DecidableEq, Repr, Inhabited

/-- The text that a part of a text, given by its distance from the end, becomes with another one
instead. -/
def replaceAt (left length : Nat) (part : List Char) (size : Nat) (text : List Char) : List Char :=
  text.take (size - left) ++ part ++ text.drop (size - left + length)

/-- Spells out the shorthands of a text, the last one first. -/
def spellOut (shorthands : List Shorthand) (text : List Char) : List Char :=
  shorthands.foldl (fun out s => replaceAt s.left 2 (shorthandText s.letter) text.length out) text

/-- The control character that an escape at the beginning of a text is. -/
def controlOf (cs : List Char) : List Char :=
  (cs.drop 2).take 1 |>.map fun letter => Char.ofNat (letter.toNat % 32)

/-- Judges a text after putting so many control characters, at most, in place of their escapes. -/
def judgeWith : Nat → List Char → Judgement
  | 0, _ => .malformed
  | fuel + 1, text =>
    match (judgeText text).run {} with
    | .ok (_, f) => if f.bell then .malformed else .sound (spellOut f.shorthands text)
    | .error .beyond => .beyond text
    | .error .invalid => .malformed
    | .error (.control left) =>
      let size := text.length
      judgeWith fuel (replaceAt left 3 (controlOf (text.drop (size - left))) size text)

/-- Judges a text. -/
def judge (text : List Char) : Judgement := judgeWith (text.length + 1) text

/-- Whether a text is a pattern, as far as the plain dialect can tell. -/
def isPattern (text : String) : Bool := judge text.toList != .malformed

end AgentManifest.Pattern
