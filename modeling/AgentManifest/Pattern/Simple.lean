import AgentManifest.Pattern.CharSet
import AgentManifest.Text.Property.Word

/-!
# Simple patterns

Patterns that need no memory: neither do they look around themselves, nor refer to groups. Such a
pattern leads from places in a text to other places, and occurs in a text if it leads anywhere. Its
size when it is compiled is limited.
-/

namespace AgentManifest.Pattern

/-! ## Places -/

/-- A place in a text: the character before it, those behind it, and its number. -/
structure Place where
  before : Option Char
  rest : List Char
  index : Nat
  deriving Inhabited

/-- The places of a text from one on, behind those that are given. -/
def placesFrom (before : Option Char) (index : Nat) (found : Array Place) :
    List Char → Array Place
  | [] => found.push { before, rest := [], index }
  | c :: rest =>
    placesFrom (some c) (index + 1) (found.push { before, rest := c :: rest, index }) rest

/-- The places of a text. -/
def placesOf (text : List Char) : Array Place := placesFrom none 0 #[] text

/-- A set of places, as the bits of one number. -/
abbrev Marks := Nat

/-- The places of a list that are not marked, each once, and the marks with theirs. -/
def unmarked (marks : Marks) (ps : List Place) : List Place × Marks :=
  ps.foldl
    (fun (fresh, marks) p =>
      if marks.testBit p.index then (fresh, marks) else (p :: fresh, marks ||| 1 <<< p.index))
    ([], marks)

/-- The places of a list, each once. -/
def distinct (ps : List Place) : List Place := (unmarked 0 ps).1

/-- A condition on the characters around a place. -/
inductive Anchor where
  | start
  | finish
  | lineStart
  | lineFinish
  | boundary
  | noBoundary
  | wordStart
  | wordFinish
  deriving DecidableEq, Repr, Inhabited

/-- Whether a condition holds at a place. -/
def Anchor.holds (p : Place) : Anchor → Bool
  | .start => p.before.isNone
  | .finish => p.rest.isEmpty
  | .lineStart => p.before.all (· == '\n')
  | .lineFinish => p.rest.head?.all (· == '\n')
  | .boundary => p.before.any Text.isWord != p.rest.head?.any Text.isWord
  | .noBoundary => p.before.any Text.isWord == p.rest.head?.any Text.isWord
  | .wordStart => !p.before.any Text.isWord && p.rest.head?.any Text.isWord
  | .wordFinish => p.before.any Text.isWord && !p.rest.head?.any Text.isWord

/-! ## Patterns -/

/-- A simple pattern. -/
inductive Simple where
  | empty
  | char (c : Char)
  | set (members : CharSet)
  | anchor (a : Anchor)
  | seq (first second : Simple)
  | either (first second : Simple)
  /-- At least and at most so many times; `none` for no upper bound. -/
  | repeated (body : Simple) (least : Nat) (most : Option Nat) (greedy : Bool)
  /-- A group, with its number if it matters where it was found. -/
  | group (index : Option Nat) (body : Simple)
  deriving Inhabited

namespace Simple

/-- One after another. -/
def sequence : List Simple → Simple
  | [] => .empty
  | [r] => r
  | r :: rs => .seq r (sequence rs)

/-- One of several. -/
def oneOf : List Simple → Simple
  | [] => .empty
  | [r] => r
  | r :: rs => .either r (oneOf rs)

/-- Whether a pattern may match without a character. -/
def canBeEmpty : Simple → Bool
  | .empty => true
  | .char _ => false
  | .set _ => false
  | .anchor _ => true
  | .seq a b => canBeEmpty a && canBeEmpty b
  | .either a b => canBeEmpty a || canBeEmpty b
  | .repeated body least _ _ => least == 0 || canBeEmpty body
  | .group _ body => canBeEmpty body

/-! ## Matching -/

/-- The place behind the next character, if it is admitted. -/
def pass? (admits : Char → Bool) (p : Place) : Option Place :=
  match p.rest with
  | c :: rest =>
    if admits c then some { before := some c, rest, index := p.index + 1 } else none
  | [] => none

/-- The places after exactly so many steps. -/
def times (step : List Place → List Place) : Nat → List Place → List Place
  | 0, ps => ps
  | _ + 1, [] => []
  | n + 1, ps => times step n (step ps)

/-- The places after at most so many further steps, given the last ones, the marks of all places
so far, and those places. -/
def further (step : List Place → List Place) :
    Nat → List Place → Marks → List Place → List Place
  | 0, _, _, found => found
  | _ + 1, [], _, found => found
  | n + 1, last, marks, found =>
    let (fresh, marks) := unmarked marks (step last)
    further step n fresh marks (fresh ++ found)

/-- More steps than lead to new places. -/
def manySteps (ps : List Place) : Nat := (ps.map fun p => p.rest.length + 1).foldl max 0

/-- The places after a number of steps between two bounds. -/
def repeatedly (step : List Place → List Place) (least : Nat) (most : Option Nat)
    (ps : List Place) : List Place :=
  let (first, marks) := unmarked 0 (times step least ps)
  let steps :=
    match most with
    | some n => n - least
    | none => manySteps first
  further step steps first marks first

/-- The places that a pattern leads to from one of some places. -/
def reach : Simple → List Place → List Place
  | .empty, ps => ps
  | .char a, ps => ps.filterMap (pass? (· == a))
  | .set members, ps => ps.filterMap (pass? members.has)
  | .anchor a, ps => ps.filter fun p => a.holds p
  | .seq a b, ps => reach b (reach a ps)
  | .either a b, ps => distinct (reach a ps ++ reach b ps)
  | .repeated body least most _, ps => repeatedly (reach body) least most ps
  | .group _ body, ps => reach body ps

/-- Whether a pattern occurs in a text. -/
def occursIn (r : Simple) (text : List Char) : Bool := !(r.reach (placesOf text).toList).isEmpty

/-- The groups of which it matters where they were found. -/
def keptGroups : Simple → List Nat
  | .seq a b => keptGroups a ++ keptGroups b
  | .either a b => keptGroups a ++ keptGroups b
  | .repeated body _ _ _ => keptGroups body
  | .group index body => index.toList ++ keptGroups body
  | _ => []

/-! ## Bounds -/

/-- The room for a fork in a compiled pattern, in bytes. -/
def forkRoom : Nat := 40

/-- The room for any other single step, in bytes. -/
def stepRoom : Nat := 32

/-- The room for a compiled pattern, in bytes. A repetition takes the room of its body as often as
it may have to be gone through. -/
def room : Simple → Nat
  | .empty => stepRoom
  | .char c => stepRoom * c.utf8Size
  | .set members => 2 * stepRoom + members.room
  | .anchor _ => stepRoom
  | .seq a b => room a + room b
  | .either a b => room a + room b + forkRoom
  | .repeated body least most _ =>
    match most with
    | none => room body * max least 1 + forkRoom
    | some n => room body * least + (n - least) * (room body + forkRoom) + stepRoom
  | .group _ body => room body + 2 * stepRoom

/-- The largest bound of a repetition. -/
def maxBound : Nat := UInt32.size - 1

/-- Whether the bounds of all repetitions are in order and not too large. -/
def isBounded : Simple → Bool
  | .seq a b => isBounded a && isBounded b
  | .either a b => isBounded a && isBounded b
  | .repeated body least most _ =>
    decide (least ≤ maxBound) && most.all (fun n => decide (least ≤ n ∧ n ≤ maxBound)) &&
      isBounded body
  | .group _ body => isBounded body
  | _ => true

/-- The room that a compiled pattern has, in bytes. -/
def maxRoom : Nat := 10 * 1024 * 1024 - 256

/-- Whether a pattern can be compiled. -/
def isSound (r : Simple) : Bool := r.isBounded && decide (r.room ≤ maxRoom)

end Simple
end AgentManifest.Pattern
