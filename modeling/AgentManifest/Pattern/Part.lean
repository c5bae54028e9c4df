import AgentManifest.Pattern.Bracket
import AgentManifest.Pattern.Scan

/-!
# Parts of patterns

Characters, escapes and sets in brackets, and references to groups by number, by name or by how many
groups ago they were opened.
-/

namespace AgentManifest.Pattern
namespace Wide

open Scanning (rest switches goTo)

/-! ## References -/

/-- Whether a character may stand in the name of a group. -/
def isNameChar (c : Char) : Bool := c == '_' || Text.isAlphanumeric c

/-- Reads a name up to its closing mark. -/
def readName (mark : Char) : Scanning (List Char) := do
  let cs ← rest
  let name := cs.takeWhile isNameChar
  match cs.drop name.length with
  | c :: behind =>
    if c = mark ∧ !name.isEmpty then
      goTo behind
      return name
    else failure
  | [] => failure

/-- The number of a group that was opened. -/
def opened (group : Nat) : Scanning Nat := do
  if group ≤ (← get).groups then return group else failure

/-- Reads the name of a group, or its number. -/
def readNamed (mark : Char) : Scanning Nat := do
  let name ← readName mark
  match (← get).names.lookup name with
  | some group => return group
  | none =>
    if name.all Char.isDigit then
      let group ← numberOf? name
      opened group
    else failure

/-- Reads a reference to a group by its name, or by how many groups ago it was opened. -/
def readNear (mark : Char) : Scanning Nat := do
  match ← rest with
  | '-' :: behind => do
    let (back, behind) ← readNumber? behind
    match behind with
    | c :: behind => do
      if c ≠ mark then failure
      goTo behind
      let next := (← get).groups + 1
      if back ≤ next then opened (next - back) else failure
    | [] => failure
  | _ => readNamed mark

/-- Reads the number of a group. It must be less than half the size of the pattern. -/
def readNumbered : Scanning Nat := do
  let (group, behind) ← readNumber? (← rest)
  goTo behind
  if (← get).size / 2 ≤ group then failure
  modify fun s => { s with numbered := true }
  opened group

/-- A reference to a group of which further matches are tried. -/
def retry (group : Nat) : Scanning Node := do
  modify fun s =>
    { s with references := { s.references with retried := group :: s.references.retried } }
  return .again group

/-- Notes a group that keeps to its first match. -/
def keep (group : Nat) : Scanning Unit :=
  modify fun s => { s with references := { s.references with kept := group :: s.references.kept } }

/-! ## Escapes -/

/-- What an escape stands for. -/
inductive WideEscape where
  | char (c : Char) (ignoreCase : Bool)
  /-- A set, as it is put in the plain dialect. -/
  | set (text : List Char)
  | part (node : Node)

/-- Reads the code of a character: so many digits, or at most eight between braces. -/
def readCode (count : Nat) : Scanning WideEscape := do
  let cs ← rest
  let digits := cs.take count
  let (digits, behind) ←
    if digits.length = count ∧ digits.all Text.isHex then some (digits, cs.drop count)
    else
      match cs with
      | '{' :: cs =>
        let digits := cs.takeWhile Text.isHex
        match cs.drop digits.length with
        | '}' :: behind =>
          if digits.isEmpty ∨ 8 < digits.length then none else some (digits, behind)
        | _ => none
      | _ => none
  goTo behind
  let c ← charOfCode? (Text.hexNumber digits)
  return .char c (← switches).ignoreCase

/-- Reads the escape of a property, behind its letter. -/
def readPropertyText (letter : Char) : Scanning WideEscape := do
  match ← rest with
  | '{' :: behind =>
    let body := behind.takeWhile (· != '}')
    match behind.drop body.length with
    | _ :: behind => do
      goTo behind
      return .set ('\\' :: letter :: '{' :: body ++ ['}'])
    | [] => failure
  | c :: behind => do
    goTo behind
    return .set ['\\', letter, c]
  | [] => failure

/-- The condition that an escape outside brackets stands for. -/
def anchorOf? : Char → Option Anchor
  | 'A' => some .start
  | 'z' => some .finish
  | 'b' => some .boundary
  | 'B' => some .noBoundary
  | '<' => some .wordStart
  | '>' => some .wordFinish
  | _ => none

/-- The characters that a letter behind a backslash stands for. -/
def namedEscape? : Char → Option Char
  | 'a' => some '\x07'
  | 'e' => some '\x1b'
  | 'f' => some '\x0c'
  | 'n' => some '\n'
  | 'r' => some '\r'
  | 't' => some '\t'
  | 'v' => some '\x0b'
  | _ => none

/-- Reads an escape outside brackets that is no character, if the letter is one of those that stand
for themselves in brackets. -/
def readPart? (letter : Char) : Scanning (Option Node) := do
  match anchorOf? letter with
  | some a =>
    if (a = .boundary ∨ a = .noBoundary) ∧ (← rest).head? = some '{' then failure
    return some (.anchor a)
  | none =>
    match letter with
    | 'K' => return some .restart
    | 'G' => return some .origin
    | 'k' =>
      match ← rest with
      | '\x27' :: behind => do
        goTo behind
        return some (← retry (← readNear '\x27'))
      | '<' :: behind => do
        goTo behind
        return some (← retry (← readNear '>'))
      | _ => failure
    | _ => return none

/-- The letters that stand for themselves in brackets. -/
def plainLetters : List Char := ['A', 'z', 'B', 'K', 'G', 'k']

/-- Reads an escape, behind its backslash. -/
def readEscape (inSet : Bool) : Scanning WideEscape := do
  match ← rest with
  | [] => failure
  | c :: behind =>
    if c.isDigit then
      let group ← readNumbered
      return .part (← retry group)
    goTo behind
    let part ← if inSet then pure none else readPart? c
    match part with
    | some node => return .part node
    | none =>
      match c with
      | 'h' => return .set "[0-9A-Fa-f]".toList
      | 'H' => return .set "[^0-9A-Fa-f]".toList
      | 'x' => readCode 2
      | 'u' => readCode 4
      | 'U' => readCode 8
      | 'p' => readPropertyText c
      | 'P' => readPropertyText c
      | 'b' => return .char '\x08' false
      | _ =>
        if (shorthandSet? c.toLower).isSome then return .set ['\\', c]
        match namedEscape? c with
        | some a => return .char a false
        | none =>
          if c.isAlpha ∧ !plainLetters.contains c then failure
          return .char c false

/-! ## Sets -/

/-- A character as the plain dialect writes it in brackets. -/
def codeText (c : Char) : List Char := "\\x\x7b".toList ++ Nat.toDigits 16 c.toNat ++ ['}']

/-- Reads a set up to its closing bracket as the plain dialect puts it, given the number of open
brackets and what was read, last first. -/
def readSetText : Nat → Nat → List Char → Scanning (List Char)
  | 0, _, _ => failure
  | fuel + 1, nested, written => do
    match ← rest with
    | [] => failure
    | '\\' :: behind => do
      goTo behind
      match ← readEscape true with
      | .char c _ => readSetText fuel nested ((codeText c).reverse ++ written)
      | .set text => readSetText fuel nested (text.reverse ++ written)
      | .part _ => failure
    | '[' :: behind => do
      goTo behind
      readSetText fuel (nested + 1) ('[' :: written)
    | ']' :: behind => do
      goTo behind
      if nested = 1 then return (']' :: written).reverse
      readSetText fuel (nested - 1) (']' :: written)
    | c :: behind => do
      goTo behind
      readSetText fuel nested (c :: written)

/-- Reads a set in brackets, behind the opening one. A hat and a closing bracket may stand in front
of its members. -/
def readSet : Scanning Node := do
  let cs ← rest
  let hat := cs.head?.toList.filter (· == '^')
  let bracket := (cs.drop hat.length).head?.toList.filter (· == ']')
  goTo (cs.drop (hat.length + bracket.length))
  let text ← readSetText (cs.length + 1) 1 (bracket ++ hat ++ ['['])
  let a ← setOf? (← switches).ignoreCase text
  return .set a

/-! ## Parts -/

/-- Reads a part that is no group. -/
def readPart : Scanning Node := do
  let sw ← switches
  match ← rest with
  | [] => failure
  | c :: behind => do
    goTo behind
    match c with
    | '.' => return .any sw.everything
    | '^' => return .anchor (if sw.lines then .lineStart else .start)
    | '$' => return .anchor (if sw.lines then .lineFinish else .finish)
    | '[' => readSet
    | '\\' =>
      match ← readEscape false with
      | .char c ignoreCase => return .char c ignoreCase
      | .set text => do
        let a ← setOf? sw.ignoreCase text
        return .set a
      | .part node => return node
    | c => return .char c sw.ignoreCase

end Wide
end AgentManifest.Pattern
