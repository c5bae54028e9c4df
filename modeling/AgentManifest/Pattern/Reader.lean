import AgentManifest.Pattern.Part

/-!
# Reading patterns

Groups are captures, with or without a name, look at what stands around a place, keep to their first
match, choose as a condition holds, or have switches of their own. Switches that are turned within a
group stay so behind it, unless the group has switches of its own.
-/

namespace AgentManifest.Pattern
namespace Wide

open Scanning (rest switches goTo)

/-! ## Groups -/

/-- Turns a switch on or off, if a letter is one. -/
def turn? (sw : Switches) (on : Bool) : Char → Option Switches
  | 'i' => some { sw with ignoreCase := on }
  | 'm' => some { sw with lines := on }
  | 's' => some { sw with everything := on }
  | 'U' => some { sw with reluctant := on }
  | 'x' => some { sw with spaced := on }
  | 'u' => if on then some sw else none
  | _ => none

/-- Reads switches, given the character before this place if it is not the first one, and tells
whether they are those of a body that follows. -/
def readSwitches : Nat → Bool → Option Char → Scanning Bool
  | 0, _, _ => failure
  | fuel + 1, on, before => do
    let before := if ← gap then some ' ' else before
    match ← rest with
    | [] => failure
    | c :: behind => do
      goTo behind
      match c with
      | ')' => if before = none ∨ before = some '-' then failure else return false
      | ':' => if before = some '-' then failure else return true
      | '-' => if on then readSwitches fuel false (some c) else failure
      | _ => do
        let sw ← turn? (← switches) on c
        modify fun s => { s with switches := sw }
        readSwitches fuel on (some c)

/-- What opens a group. -/
inductive Opening where
  | capture (group : Nat)
  | look (ahead wanted : Bool)
  | atomic
  /-- A group with switches of its own, and those that come back behind it. -/
  | plain (outer : Switches)
  /-- One of two bodies, as a condition holds. -/
  | choice
  /-- Nothing but a part, which is complete. -/
  | complete (node : Node)

/-- Counts a group, which may have a name. -/
def openGroup (name : Option (List Char)) : Scanning Opening := do
  let group := (← get).groups + 1
  modify fun s =>
    { s with groups := group, names := (name.toList.map fun name => (name, group)) ++ s.names }
  return .capture group

/-- Reads the opening of a group, behind its bracket. -/
def readOpening : Scanning Opening := do
  let _ ← gap
  match ← rest with
  | '?' :: '=' :: behind => do
    goTo behind
    return .look true true
  | '?' :: '!' :: behind => do
    goTo behind
    return .look true false
  | '?' :: '<' :: '=' :: behind => do
    goTo behind
    return .look false true
  | '?' :: '<' :: '!' :: behind => do
    goTo behind
    return .look false false
  | '?' :: '<' :: behind => do
    goTo behind
    openGroup (some (← readName '>'))
  | '?' :: 'P' :: '<' :: behind => do
    goTo behind
    openGroup (some (← readName '>'))
  | '?' :: 'P' :: '=' :: behind => do
    goTo behind
    let group ← readNamed ')'
    keep group
    return .complete (.again group)
  | '?' :: '>' :: behind => do
    goTo behind
    return .atomic
  | '?' :: '(' :: behind => do
    goTo behind
    return .choice
  | '?' :: behind => do
    goTo behind
    let outer ← switches
    if ← readSwitches (behind.length + 1) true none then return .plain outer
    else return .complete .empty
  | _ => openGroup none

/-- The reference to a group that a condition starts with, if it does. -/
def readCondition? : Scanning (Option Nat) := do
  match ← rest with
  | '\x27' :: behind => do
    goTo behind
    return some (← readNear '\x27')
  | '<' :: behind => do
    goTo behind
    return some (← readNear '>')
  | c :: _ => if c.isDigit then return some (← readNumbered) else return none
  | [] => failure

/-- What a condition asks: a reference to a group asks whether it was entered. -/
def conditionOf : Node → Node
  | .again group => .entered group
  | n => n

/-- One of two parts, as a condition holds, given the body that follows the condition, unless it is
missing. Its first branch is for when the condition holds. -/
def choiceOf? (condition : Node) (body : Option Node) : Option Node :=
  match conditionOf condition, body with
  | .entered group, none => some (.entered group)
  | _, none => none
  | condition, some (.either (yes :: branches)) =>
    let no :=
      match branches with
      | [no] => no
      | _ => .either branches
    some (if yes.isEmpty && no.isEmpty then condition else .choice condition yes no)
  | condition, some yes =>
    some (if yes.isEmpty then condition else .choice condition yes .empty)

/-- The part that a group with a body is. -/
def groupOf (opening : Opening) (body : Node) : Scanning Node := do
  match opening with
  | .capture group => return .group group body
  | .look ahead wanted => return .look ahead wanted body
  | .atomic => return .atomic body
  | .plain outer => do
    modify fun s => { s with switches := outer }
    return body
  | _ => return body

/-- How deep groups may be. -/
def maxGroupDepth : Nat := 64

/-- Branches as one pattern, the last branch first. References by number do not go together with
names where there are no branches to choose from. -/
def finishBody (branches : List Node) (parts : List Node) : Scanning Node := do
  let branch := Node.sequence parts.reverse
  if branches.isEmpty then
    let s ← get
    if s.numbered && !s.names.isEmpty then failure
    return branch
  return .either (branch :: branches).reverse

/-- Reads the branches of a body up to its closing bracket or the end of the text. -/
def readBody : Nat → Nat → List Node → List Node → Scanning Node
  | 0, _, _, _ => failure
  | fuel + 1, depth, branches, parts => do
    let _ ← gap
    match ← rest with
    | [] => finishBody branches parts
    | ')' :: _ => finishBody branches parts
    | '|' :: behind => do
      goTo behind
      readBody fuel depth (Node.sequence parts.reverse :: branches) []
    | '*' :: _ => failure
    | '+' :: _ => failure
    | '?' :: _ => failure
    | c :: behind => do
      let part ←
        if c = '(' then do
          goTo behind
          let depth := depth + 1
          if depth = maxGroupDepth then failure
          match ← readOpening with
          | .complete node => pure node
          | .choice => do
            let condition ←
              match ← readCondition? with
              | some group => do
                keep group
                pure (.entered group)
              | none => readBody fuel depth [] []
            close
            let start := (← rest).length
            let body ← readBody fuel depth [] []
            let body := if (← rest).length = start then none else some body
            let node ← choiceOf? condition body
            close
            pure node
          | opening => do
            let body ← readBody fuel depth [] []
            close
            groupOf opening body
        else readPart
      let part ← readRepeated part
      readBody fuel depth branches (if part.isEmpty then parts else part :: parts)

/-- Reads a whole text as a pattern, with the number of its groups and those that it refers to. -/
def read? (text : List Char) : Option (Node × Nat × References) := do
  let size := Text.byteLength text
  let (node, s) ← (readBody (text.length + 1) 0 [] []).run { rest := text, size }
  if s.rest.isEmpty then some (node, s.groups, s.references) else none

end Wide
end AgentManifest.Pattern
