import AgentManifest.Pattern.Escape
import AgentManifest.Pattern.Node
import AgentManifest.Text.Character

/-!
# Scanning patterns

What a pattern means is said by the wide dialect. It has look-around, references to groups and
conditions; its sets in brackets are those of the plain dialect with a few more escapes. A scan is a
pattern that has been read in part, with what holds at its place.
-/

namespace AgentManifest.Pattern
namespace Wide

/-- What is switched on in a part of a pattern. -/
structure Switches where
  ignoreCase : Bool := false
  /-- Whether the ends of lines are meant, and not those of the text. -/
  lines : Bool := false
  /-- Whether a point admits the end of a line. -/
  everything : Bool := false
  /-- Whether repetitions prefer less. -/
  reluctant : Bool := false
  /-- Whether blanks and comments may stand between the parts of the pattern. -/
  spaced : Bool := false
  deriving Inhabited

/-- A pattern being read. -/
structure Scan where
  /-- The text that is left. -/
  rest : List Char
  /-- The number of bytes of the whole text. -/
  size : Nat
  switches : Switches := {}
  /-- The number of groups that were opened. -/
  groups : Nat := 0
  /-- The numbers of the groups with names, last first. -/
  names : List (List Char × Nat) := []
  references : References := {}
  /-- Whether a group is referred to by its number. -/
  numbered : Bool := false

/-- Reading a pattern. -/
abbrev Scanning := StateT Scan Option

namespace Scanning

/-- The text that is left. -/
def rest : Scanning (List Char) := do return (← get).rest

/-- The switches at this place. -/
def switches : Scanning Switches := do return (← get).switches

/-- Goes on with a text. -/
def goTo (rest : List Char) : Scanning Unit := modify fun s => { s with rest }

end Scanning

open Scanning (rest switches goTo)

/-- The text behind a comment in brackets. -/
def behindRemark? : List Char → Option (List Char)
  | [] => none
  | ')' :: rest => some rest
  | '\\' :: _ :: rest => behindRemark? rest
  | _ :: rest => behindRemark? rest

/-- The text behind what may stand between the parts of a pattern. -/
def behindGap? (spaced : Bool) : Nat → List Char → Option (List Char)
  | 0, cs => some cs
  | fuel + 1, cs =>
    match cs with
    | '(' :: '?' :: '#' :: rest => (behindRemark? rest).bind (behindGap? spaced fuel)
    | '#' :: rest =>
      if spaced then behindGap? spaced fuel ((rest.dropWhile (· != '\n')).drop 1) else some cs
    | c :: rest =>
      if spaced && [' ', '\r', '\n', '\t'].contains c then behindGap? spaced fuel rest else some cs
    | [] => some []

/-- Skips what may stand between the parts of a pattern, and tells whether there was anything. -/
def gap : Scanning Bool := do
  let s ← get
  let behind ← behindGap? s.switches.spaced s.rest.length s.rest
  goTo behind
  return behind.length != s.rest.length

/-- Reads a closing bracket. -/
def close : Scanning Unit := do
  let _ ← gap
  match ← rest with
  | ')' :: behind => goTo behind
  | _ => failure

/-! ## Repetition -/

/-- The number that some digits spell, if it is not too large. -/
def numberOf? (digits : List Char) : Option Nat :=
  let n := decimalNumber digits
  if digits.isEmpty ∨ UInt64.size ≤ n then none else some n

/-- Reads a number. -/
def readNumber? (cs : List Char) : Option (Nat × List Char) :=
  let digits := cs.takeWhile Char.isDigit
  (numberOf? digits).map fun n => (n, cs.drop digits.length)

/-- How often a part is repeated. -/
structure Bounds where
  least : Nat
  most : Option Nat

/-- Reads bounds between braces, behind the opening one. -/
def readBounds? (spaced : Bool) (cs : List Char) : Option (Bounds × List Char) := do
  let behindGap? (cs : List Char) : Option (List Char) := behindGap? spaced cs.length cs
  let cs ← behindGap? cs
  let (least, cs) ← if cs.head? = some ',' then some (0, cs) else readNumber? cs
  let cs ← behindGap? cs
  let (most, cs) ←
    match cs with
    | '}' :: _ => some (some least, cs)
    | ',' :: rest => do
      let rest ← behindGap? rest
      match readNumber? rest with
      | some (n, rest) => some (some n, rest)
      | none => some (none, rest)
    | _ => none
  match ← behindGap? cs with
  | '}' :: rest => some ({ least, most }, rest)
  | _ => none

/-- The bounds that an operator stands for, if the text starts with one. A brace without proper
bounds stands for itself. -/
def readOperator? (spaced : Bool) (cs : List Char) : Option (Bounds × List Char) :=
  match cs with
  | '?' :: rest => some ({ least := 0, most := some 1 }, rest)
  | '*' :: rest => some ({ least := 0, most := none }, rest)
  | '+' :: rest => some ({ least := 1, most := none }, rest)
  | '{' :: rest => readBounds? spaced rest
  | _ => none

/-- Reads the operator that a part may have behind it. A question mark turns its preference around,
and a plus sign makes the choice final. -/
def readRepeated (part : Node) : Scanning Node := do
  let _ ← gap
  match readOperator? (← switches).spaced (← rest) with
  | none => return part
  | some (bounds, behind) =>
    if !part.isRepeatable then failure
    goTo behind
    let _ ← gap
    let (turned, behind) : Bool × List Char :=
      match ← rest with
      | '?' :: behind => (true, behind)
      | behind => (false, behind)
    let node :=
      Node.repeated part bounds.least bounds.most (turned == (← switches).reluctant)
    match behind with
    | '+' :: behind => do
      goTo behind
      return .atomic node
    | _ => do
      goTo behind
      return node

end Wide
end AgentManifest.Pattern
