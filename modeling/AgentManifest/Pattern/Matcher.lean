import AgentManifest.Pattern.Program
import AgentManifest.Pattern.Plain
import AgentManifest.Pattern.Reader

/-!
# Matchers

A text as a pattern that can be looked for. Patterns without memory are looked for as they are, and
others with their program. A program goes through a text step by step. Where it forks it remembers
the other way, and it takes up the last one when a step fails. It may do so a million times, and
then gives up.
-/

namespace AgentManifest.Pattern

/-! ## Running a program -/

/-- What comes of looking for a pattern in a text. -/
inductive Search where
  | found
  | absent
  /-- It was given up. -/
  | exhausted
  deriving DecidableEq, Repr, Inhabited

/-- The other way of a fork: the step, the place, and what was known there. -/
structure Fork where
  step : Nat
  place : Nat
  slots : Array (Option Nat)
  marks : List Nat

/-- A program on its way: the next step, the place in the text, the places in the slots, the numbers
of open forks that were noted, the open forks, last first, and how many they are. -/
structure Machine where
  step : Nat
  place : Nat
  slots : Array (Option Nat)
  marks : List Nat
  forks : List Fork
  depth : Nat

namespace Machine

/-- The next step, with nothing else changed. -/
def proceed (m : Machine) : Machine := { m with step := m.step + 1 }

/-- Goes on with a step. -/
def goTo (m : Machine) (step : Nat) : Machine := { m with step }

/-- Goes on with the next step at a place. -/
def moveTo (m : Machine) (place : Nat) : Machine := { m with step := m.step + 1, place }

/-- Puts a number into a slot. -/
def put (m : Machine) (slot n : Nat) : Machine :=
  { m with slots := m.slots.setIfInBounds slot (some n) }

/-- The number in a slot. -/
def get? (m : Machine) (slot : Nat) : Option Nat := (m.slots[slot]?).join

/-- Forgets where a group was found. -/
def forget (m : Machine) (group : Nat) : Machine :=
  { m with slots := (m.slots.setIfInBounds (2 * group) none).setIfInBounds (2 * group + 1) none }

/-- Notes where a match found some groups, and forgets those that it did not find. -/
def keep (m : Machine) (kept : List Nat) (slots : List (Nat × Nat)) : Machine :=
  slots.foldr (fun (slot, place) m => m.put slot place) (kept.foldl forget m)

/-- Opens a fork whose other way is a step. -/
def remember (m : Machine) (step : Nat) : Machine :=
  { m with
    forks := { step, place := m.place, slots := m.slots, marks := m.marks } :: m.forks
    depth := m.depth + 1 }

/-- Takes up the other way of a fork, given the ones that were opened before. -/
def resume (m : Machine) (f : Fork) (forks : List Fork) : Machine :=
  { step := f.step, place := f.place, slots := f.slots, marks := f.marks, forks,
    depth := m.depth - 1 }

/-- Closes forks until so many are open. -/
def closeDownTo (m : Machine) (depth : Nat) : Machine :=
  { m with forks := m.forks.drop (m.depth - depth), depth := min m.depth depth }

/-- Closes forks up to and with the last one whose other way is a step. -/
def closeTo (m : Machine) (step : Nat) : Machine :=
  let forks := (m.forks.dropWhile fun f => f.step != step).drop 1
  { m with forks, depth := forks.length }

/-- The place behind a text that is the same as one before it. -/
def passAgain? (text : Array Place) (first length place : Nat) : Option Nat :=
  let char? (i : Nat) : Option Char := (text[i]?).bind fun p => p.rest.head?
  if (List.range length).all fun i =>
      (char? (first + i)).isSome && char? (first + i) == char? (place + i) then
    some (place + length)
  else none

/-- Does a step of a program; `none` if it fails. -/
def perform? (text : Array Place) (m : Machine) : Step → Option Machine
  | .part a =>
    match (text[m.place]?).bind a.match? with
    | some (place, slots) => some ((m.keep a.kept slots).moveTo place)
    | none => none
  | .any lines =>
    match (text[m.place]?).bind fun p => p.rest.head? with
    | some c => if lines || c != '\n' then some (m.moveTo (m.place + 1)) else none
    | none => none
  | .anchor a => if (text[m.place]?).any fun p => a.holds p then some m.proceed else none
  | .fork first second => some ((m.remember second).goTo first)
  | .jump target => some (m.goTo target)
  | .save slot => some (m.put slot m.place).proceed
  | .clear slot => some (m.put slot 0).proceed
  | .restore slot => (m.get? slot).map m.moveTo
  | .count least most greedy counter behind =>
    let n := (m.get? counter).getD 0
    if most = some n then some (m.goTo behind)
    else
      let m := m.put counter (n + 1)
      if n < least then some m.proceed
      else if greedy then some (m.remember behind).proceed
      else some ((m.remember (m.step + 1)).goTo behind)
  | .guarded least greedy counter guard behind =>
    let n := (m.get? counter).getD 0
    if 0 < n ∧ m.get? guard = some m.place then none
    else
      let m := m.put counter (n + 1)
      if n < least then some m.proceed
      else
        let m := m.put guard m.place
        if greedy then some (m.remember behind).proceed
        else some ((m.remember (m.step + 1)).goTo behind)
  | .back distance => if distance ≤ m.place then some (m.moveTo (m.place - distance)) else none
  | .again group =>
    match m.get? (2 * group), m.get? (2 * group + 1) with
    | some first, some last => (passAgain? text first (last - first) m.place).map m.moveTo
    | _, _ => none
  | .entered group => if (m.get? (2 * group)).isSome then some m.proceed else none
  | .mark => some { m with marks := m.depth :: m.marks }.proceed
  | .cut =>
    match m.marks with
    | depth :: marks => some { m.closeDownTo depth with marks }.proceed
    | [] => none
  | .refuse => none
  | .origin => if m.place = 0 then some m.proceed else none
  | .finish => none

/-- How often a program may take up a fork. -/
def maxResumptions : Nat := 1000000

/-- How many steps a program may take. -/
def maxSteps : Nat := 1000000000000

/-- Runs a program, given how many steps it may still take and how many forks it took up. -/
def run (steps : Array Step) (text : Array Place) : Nat → Nat → Machine → Search
  | 0, _, _ => .exhausted
  | fuel + 1, resumed, m =>
    match steps[m.step]? with
    | some .finish => .found
    | step =>
      match step.bind (m.perform? text) with
      | some m => run steps text fuel resumed m
      | none =>
        let m := if step matches some .refuse then m.closeTo (m.step + 1) else m
        match m.forks with
        | [] => .absent
        | f :: forks =>
          if resumed = maxResumptions then .exhausted
          else run steps text fuel (resumed + 1) (m.resume f forks)

end Machine

/-- Looks for a pattern in a text with its program. -/
def Program.search (p : Program) (text : List Char) : Search :=
  Machine.run p.steps (placesOf text) Machine.maxSteps 0
    { step := 0, place := 0, slots := Array.replicate p.slots none, marks := [], forks := [],
      depth := 0 }

/-! ## Patterns -/

/-- A pattern that can be looked for. -/
inductive Matcher where
  | simple (r : Simple)
  | program (p : Program)
  deriving Inhabited

namespace Matcher

/-- The matcher of a pattern, given the number of its groups and those that it refers to. -/
def ofNode? (n : Node) (groups : Nat) (refs : References) : Option Matcher :=
  match n.simple? refs with
  | some r => if r.isSound then some (.simple r) else none
  | none => (n.program? groups refs).map .program

/-- The matcher of a text in the wide dialect. -/
def ofWide? (text : List Char) : Option Matcher := do
  let (n, groups, refs) ← Wide.read? text
  ofNode? n groups refs

/-- The matcher that a text is. -/
def ofText? (text : String) : Option Matcher :=
  match judge text.toList with
  | .sound text => ofWide? text
  | .beyond text => ofWide? text
  | .malformed => none

/-- Looks for a pattern in a text. -/
def search (m : Matcher) (text : String) : Search :=
  match m with
  | .simple r => if r.occursIn text.toList then .found else .absent
  | .program p => p.search text.toList

/-- Whether a pattern is found in a text. -/
def occursIn (m : Matcher) (text : String) : Bool := m.search text == .found

end Matcher

end AgentManifest.Pattern
