import AgentManifest.Yaml.Token

/-!
# Block scalars

A header says what happens to the line breaks at the end and, optionally, how far the lines are
indented. A folded scalar joins neighbouring lines by a space unless one of them starts with a
blank.
-/

namespace AgentManifest.Yaml

/-- What becomes of the line breaks at the end of a block scalar. -/
inductive Chomping where
  | strip
  | clip
  | keep
  deriving DecidableEq, Repr, Inhabited

/-- A chomping indicator. -/
def Chomping.ofChar? : Char → Option Chomping
  | '+' => some .keep
  | '-' => some .strip
  | _ => none

/-- The indentation indicator at a cursor; zero is refused. -/
def readIncrement (start : Mark) (c : Cursor) : Except Fault (Option Nat × Cursor) :=
  match c.head? with
  | none => .ok (none, c)
  | some ch =>
    if ch == '0' then faultIn .blockScalar start .zeroIndentation c.mark
    else if ch.isDigit then .ok (some (ch.toNat - '0'.toNat), c.skip)
    else .ok (none, c)

/-- The chomping indicator at a cursor. -/
def readChomping (c : Cursor) : Option Chomping × Cursor :=
  match c.head?.bind Chomping.ofChar? with
  | none => (none, c)
  | some chomping => (some chomping, c.skip)

/-- The indicators of a header, in either order. -/
def readIndicators (start : Mark) (c : Cursor) :
    Except Fault (Chomping × Option Nat × Cursor) :=
  match readChomping c with
  | (some chomping, c) =>
    match readIncrement start c with
    | .error fault => .error fault
    | .ok (increment, c) => .ok (chomping, increment, c)
  | (none, c) =>
    match readIncrement start c with
    | .error fault => .error fault
    | .ok (none, c) => .ok (.clip, none, c)
    | .ok (some increment, c) =>
      match readChomping c with
      | (chomping, c) => .ok (chomping.getD .clip, some increment, c)

/-- Steps over the indentation of a line: spaces up to the column `indent`, or all of them while
the indentation is not known. -/
def skipIndentation (indent : Option Nat) (c : Cursor) : Cursor :=
  match indent with
  | none => c.skipWhile (· == ' ')
  | some n => c.skip ((c.rest.take (n - c.mark.column)).takeWhile (· == ' ')).length

/-- Whether the indentation of a line may go on at a cursor. -/
def belowIndentation (indent : Option Nat) (c : Cursor) : Bool :=
  indent.all fun n => decide (c.mark.column < n)

/-- Reads empty lines up to the start of a line with content, behind the breaks read so far; keeps
the greatest column of an indentation met. -/
def readEmptyLines (indent : Option Nat) (start : Mark) :
    Nat → List Char → Nat → Cursor → Except Fault (List Char × Nat × Cursor)
  | 0, breaks, widest, c => .ok (breaks, widest, c)
  | fuel + 1, breaks, widest, c =>
    let c := skipIndentation indent c
    let widest := max widest c.mark.column
    if belowIndentation indent c && c.isAt 0 '\t' then
      faultIn .blockScalar start .tabInBlockScalar c.mark
    else
      match c.readBreak? with
      | none => .ok (breaks, widest, c)
      | some (b, c) => readEmptyLines indent start fuel (breaks ++ [b]) widest c

/-- The line break between two lines of content, as a folded or literal scalar keeps it. -/
def joinLines (folded : Bool) (leading : Option Char) (breaks : List Char)
    (blankBefore blankHere : Bool) : List Char :=
  match leading with
  | none => breaks
  | some b =>
    if folded && b == '\n' && !blankBefore && !blankHere then
      if breaks.isEmpty then [' '] else breaks
    else b :: breaks

/-- Reads lines of content, behind the characters read so far (last first), the break that ended
the line before, and the empty lines behind it. -/
def readLines (folded : Bool) (indent : Nat) (start : Mark) :
    Nat → List Char → Option Char → List Char → Bool → Cursor →
      Except Fault (List Char × Option Char × List Char × Cursor)
  | 0, seen, leading, breaks, _, c => .ok (seen, leading, breaks, c)
  | fuel + 1, seen, leading, breaks, blankBefore, c =>
    if c.mark.column ≠ indent ∨ c.rest.isEmpty then .ok (seen, leading, breaks, c)
    else
      let blankHere := c.check 0 isBlank
      let seen := (joinLines folded leading breaks blankBefore blankHere).reverse ++ seen
      let line := c.rest.takeWhile fun ch => !isBreak ch
      let seen := line.reverse ++ seen
      let c := c.skip line.length
      let (leading, c) : Option Char × Cursor :=
        match c.readBreak? with
        | some (b, c) => (some b, c)
        | none => (none, c)
      match readEmptyLines (some indent) start (c.rest.length + 1) [] 0 c with
      | .error fault => .error fault
      | .ok (breaks, _, c) => readLines folded indent start fuel seen leading breaks blankHere c

/-- A block scalar in a collection whose entries stand at the column `parent`. -/
def readBlockScalar (folded : Bool) (parent : Int) (c : Cursor) :
    Except Fault (List Char × Cursor) := do
  let start := c.mark
  let (chomping, increment, c) ← readIndicators start c.skip
  let c := (c.skipWhile isBlank).skipComment
  if !c.lineEnds then faultIn .blockScalar start .commentOrBreakExpected c.mark
  else
    let c := c.skipBreak
    let given := increment.map fun n => ((max parent 0) + (n : Int)).toNat
    let (breaks, widest, c) ← readEmptyLines given start (c.rest.length + 1) [] 0 c
    let indent := given.getD (max widest (max (parent + 1).toNat 1))
    let (seen, leading, breaks, c) ←
      readLines folded indent start (c.rest.length + 1) [] none breaks false c
    let tail :=
      match chomping with
      | .strip => []
      | .clip => leading.toList
      | .keep => leading.toList ++ breaks
    .ok (seen.reverse ++ tail, c)

end AgentManifest.Yaml
