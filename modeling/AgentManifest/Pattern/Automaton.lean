import AgentManifest.Pattern.Simple

/-!
# Automata

A simple pattern as a list of moves, to find its preferred match at a place. All ways to match are
followed side by side through a text, in order of preference, and no two of them are in one state at
one place; so the work is at most the length of the text times the number of moves.
-/

namespace AgentManifest.Pattern

/-- A move of an automaton. Unless it says otherwise, the next move follows. -/
inductive Move where
  | char (c : Char)
  | set (members : CharSet)
  | anchor (a : Anchor)
  /-- Two ways to go on, the preferred one first. -/
  | fork (first second : Nat)
  | jump (target : Nat)
  /-- Keep the place in a slot. The slots of a group are twice its number, for its beginning, and
  the slot behind it, for its end. -/
  | keep (slot : Nat)
  | finish
  deriving Inhabited

/-- An automaton: moves by their number, and the groups that it keeps. -/
structure Automaton where
  moves : Array Move
  kept : List Nat
  deriving Inhabited

/-! ## Writing -/

namespace Simple

/-- A fork that prefers the next move, or the move behind. -/
def forkAt (start : Nat) (greedy : Bool) (behind : Nat) : Move :=
  if greedy then .fork (start + 1) behind else .fork behind (start + 1)

/-- So many copies of a body, from a number on. -/
def copies (body : Nat → List Move) (start : Nat) : Nat → List Move
  | 0 => []
  | n + 1 =>
    let first := body start
    first ++ copies body (start + first.length) n

/-- So many copies of a body, each of them a way to go on behind all of them. -/
def optionalCopies (body : Nat → List Move) (greedy : Bool) (behind start : Nat) :
    Nat → List Move
  | 0 => []
  | n + 1 =>
    let first := body (start + 1)
    forkAt start greedy behind ::
      first ++ optionalCopies body greedy behind (start + 1 + first.length) n

/-- A body once or more. -/
def onceOrMore (body : Nat → List Move) (greedy : Bool) (start : Nat) : List Move :=
  let first := body start
  let behind := start + first.length + 1
  first ++ [if greedy then .fork start behind else .fork behind start]

/-- A body any number of times. One that may match without a character is put as an option to go
through it once or more, so that the ways to match stay in order. -/
def anyTimes (body : Nat → List Move) (greedy canBeEmpty : Bool) (start : Nat) : List Move :=
  if canBeEmpty then
    let inner := onceOrMore body greedy (start + 1)
    forkAt start greedy (start + 1 + inner.length) :: inner
  else
    let first := body (start + 1)
    forkAt start greedy (start + first.length + 2) :: first ++ [.jump start]

/-- A body at least and at most so many times. -/
def repetition (body : Nat → List Move) (least : Nat) (most : Option Nat)
    (greedy canBeEmpty : Bool) (start : Nat) : List Move :=
  match most, least with
  | none, 0 => anyTimes body greedy canBeEmpty start
  | none, n + 1 =>
    let before := copies body start n
    before ++ onceOrMore body greedy (start + before.length)
  | some most, least =>
    let before := copies body start least
    let start := start + before.length
    let behind := start + (most - least) * ((body 0).length + 1)
    before ++ optionalCopies body greedy behind start (most - least)

/-- The moves of a pattern, from a number on. -/
def write : Simple → Nat → List Move
  | .empty, _ => []
  | .char c, _ => [.char c]
  | .set members, _ => [.set members]
  | .anchor a, _ => [.anchor a]
  | .seq a b, start =>
    let first := write a start
    first ++ write b (start + first.length)
  | .either a b, start =>
    let first := write a (start + 1)
    let others := start + first.length + 2
    let second := write b others
    .fork (start + 1) others :: first ++ .jump (others + second.length) :: second
  | .repeated body least most greedy, start =>
    repetition (write body) least most greedy body.canBeEmpty start
  | .group none body, start => write body start
  | .group (some index) body, start =>
    .keep (2 * index) :: write body (start + 1) ++ [.keep (2 * index + 1)]

/-- The automaton of a pattern. -/
def automaton (r : Simple) : Automaton where
  moves := (r.write 0 ++ [Move.finish]).toArray
  kept := r.keptGroups

end Simple

/-! ## Running -/

/-- A way to match: the next move, and the numbers of the places in slots, the last one first. -/
structure Thread where
  state : Nat := 0
  slots : List (Nat × Nat) := []

/-- The same way with another next move. -/
def Thread.goTo (t : Thread) (state : Nat) : Thread := { t with state }

/-- The way behind the next move. -/
def Thread.next (t : Thread) : Thread := { t with state := t.state + 1 }

namespace Automaton

/-- Whether a way to match is complete. -/
def isComplete (a : Automaton) (t : Thread) : Bool := a.moves[t.state]? matches some .finish

/-- The way behind a character, if it passes the character. -/
def pass? (a : Automaton) (c : Char) (t : Thread) : Option Thread :=
  match a.moves[t.state]? with
  | some (.char b) => if b = c then some t.next else none
  | some (.set members) => if members.has c then some t.next else none
  | _ => none

/-- The ways to go on without a character, in order of preference. -/
def onward (a : Automaton) (p : Place) (t : Thread) : Option (List Thread) :=
  match a.moves[t.state]? with
  | some (.anchor x) => some (if x.holds p then [t.next] else [])
  | some (.fork first second) => some [t.goTo first, t.goTo second]
  | some (.jump target) => some [t.goTo target]
  | some (.keep slot) => some [{ t.next with slots := (slot, p.index) :: t.slots }]
  | _ => none

/-- Follows some ways until each of them is complete or waits for a character, given the states that
were entered. A state is entered once. -/
def settle (a : Automaton) (p : Place) :
    Nat → List Thread → Array Bool → Array Thread → List Thread
  | 0, _, _, ready => ready.toList
  | _, [], _, ready => ready.toList
  | fuel + 1, t :: ts, entered, ready =>
    if entered.getD t.state true then settle a p fuel ts entered ready
    else
      let entered := entered.setIfInBounds t.state true
      match a.onward p t with
      | some further => settle a p fuel (further ++ ts) entered ready
      | none => settle a p fuel ts entered (ready.push t)

/-- The ways that are complete or wait for a character at a place, in order of preference. -/
def settled (a : Automaton) (p : Place) (ts : List Thread) : List Thread :=
  a.settle p (3 * a.moves.size + ts.length) ts (Array.replicate a.moves.size false) #[]

/-- Where a match ends, and the slots that it leaves. -/
abbrev Match := Nat × List (Nat × Nat)

/-- The preferred match of some ways from a place on, unless they lead nowhere and an earlier one is
kept. Once a way is complete, those that are less preferred are given up. -/
def preferred (a : Automaton) (before : Option Char) (index : Nat) (found : Option Match)
    (ts : List Thread) (text : List Char) : Option Match :=
  let ready := a.settled { before, rest := text, index } ts
  let found := ((ready.find? a.isComplete).map fun t => (index, t.slots)) <|> found
  match text with
  | [] => found
  | c :: rest =>
    match (ready.takeWhile fun t => !a.isComplete t).filterMap (a.pass? c) with
    | [] => found
    | ts => preferred a (some c) (index + 1) found ts rest

/-- The preferred match at a place. -/
def match? (a : Automaton) (p : Place) : Option Match :=
  a.preferred p.before p.index none [{}] p.rest

end Automaton
end AgentManifest.Pattern
