import AgentManifest.Pattern.Automaton
import AgentManifest.Pattern.Node

/-!
# Programs

A pattern with memory as a list of steps. What such a pattern has of simple parts is gone through in
one step; the rest forks, saves places, and goes back to them.
-/

namespace AgentManifest.Pattern

/-- A step of a program. Steps are numbered, and places are saved in numbered slots; the slots of a
group are twice its number, for its beginning, and the slot behind it, for its end. -/
inductive Step where
  /-- The preferred match of a simple pattern. -/
  | part (a : Automaton)
  | any (lines : Bool)
  | anchor (a : Anchor)
  /-- Go on with the first step, and with the second one if that fails. -/
  | fork (first second : Nat)
  | jump (target : Nat)
  | save (slot : Nat)
  /-- Put zero into a slot. -/
  | clear (slot : Nat)
  /-- Go to the place in a slot. -/
  | restore (slot : Nat)
  /-- Go through the next steps as often as admitted, counting in a slot, and then go on behind. -/
  | count (least : Nat) (most : Option Nat) (greedy : Bool) (counter behind : Nat)
  /-- Go through the next steps at least so often, counting in a slot, and not twice at the place in
  another slot. -/
  | guarded (least : Nat) (greedy : Bool) (counter guard behind : Nat)
  /-- Go back so many characters. -/
  | back (distance : Nat)
  | again (group : Nat)
  | entered (group : Nat)
  /-- Note how many forks are open. -/
  | mark
  /-- Close all forks but those noted. -/
  | cut
  /-- What must not match has matched: close all forks down to the one that leads behind. -/
  | refuse
  | origin
  | finish
  deriving Inhabited

/-- A program, and the number of its slots. -/
structure Program where
  steps : Array Step
  slots : Nat
  deriving Inhabited

/-- Writing a program: the number of slots so far, and failure if it cannot be written. -/
abbrev Writing := StateT Nat Option

namespace Writing

/-- A slot of its own. -/
def fresh : Writing Nat := modifyGet fun n => (n, n + 1)

/-- Simple patterns one after another, as one step. -/
def simple (rs : List Simple) : Writing (List Step) :=
  let r := Simple.sequence rs
  if r.isSound then pure [.part r.automaton] else failure

/-- The steps of the first simple parts of a sequence, if there are any. -/
def held (rs : List Simple) : Writing (List Step) :=
  if rs.isEmpty then pure [] else simple rs

/-- A fork that prefers the next step, or the step behind. -/
def forkAt (start : Nat) (greedy : Bool) (behind : Nat) : Step :=
  if greedy then .fork (start + 1) behind else .fork behind (start + 1)

/-- The steps of a repetition whose body is written from a place on. -/
def repetition (start least : Nat) (most : Option Nat) (greedy emptyBody : Bool)
    (body : Nat → Writing (List Step)) : Writing (List Step) := do
  if least = 0 ∧ most = some 1 then
    let steps ← body (start + 1)
    pure (forkAt start greedy (start + 1 + steps.length) :: steps)
  else if most = none ∧ emptyBody then
    let counter ← fresh
    let guard ← fresh
    let steps ← body (start + 2)
    pure (.clear counter :: .guarded least greedy counter guard (start + 3 + steps.length) ::
      steps ++ [.jump (start + 1)])
  else if most = none ∧ least = 0 then
    let steps ← body (start + 1)
    pure (forkAt start greedy (start + 2 + steps.length) :: steps ++ [.jump start])
  else if most = none ∧ least = 1 then
    let steps ← body start
    let behind := start + steps.length + 1
    pure (steps ++ [if greedy then .fork start behind else .fork behind start])
  else
    let counter ← fresh
    let steps ← body (start + 2)
    pure (.clear counter :: .count least most greedy counter (start + 3 + steps.length) ::
      steps ++ [.jump (start + 1)])

/-- The steps for what must match ahead or behind. -/
def wantedLook (start : Nat) (ahead : Bool) (width : Nat) (body : Nat → Writing (List Step)) :
    Writing (List Step) := do
  let slot ← fresh
  let begin : List Step := if ahead then [.save slot] else [.save slot, .back width]
  let steps ← body (start + begin.length)
  pure (begin ++ steps ++ [.restore slot])

/-- The steps for what must not match ahead or behind. -/
def unwantedLook (start : Nat) (ahead : Bool) (width : Nat) (body : Nat → Writing (List Step)) :
    Writing (List Step) := do
  let turn : List Step := if ahead then [] else [.back width]
  let steps ← body (start + 1 + turn.length)
  pure (.fork (start + 1) (start + 2 + turn.length + steps.length) ::
    turn ++ steps ++ [.refuse])

/-- The steps for one of several, each written by itself. -/
def oneOf (start : Nat) : List (Nat → Writing (List Step)) → Writing (List Step)
  | [] => pure []
  | [branch] => branch start
  | branch :: branches => do
    let steps ← branch (start + 1)
    let others := start + 2 + steps.length
    let rest ← oneOf others branches
    pure (.fork (start + 1) others :: steps ++ .jump (others + rest.length) :: rest)

/-- Steps one after another, each part written by itself. -/
def inTurn (start : Nat) : List (Nat → Writing (List Step)) → Writing (List Step)
  | [] => pure []
  | part :: parts => do
    let steps ← part start
    pure (steps ++ (← inTurn (start + steps.length) parts))

/-- The steps for a look behind or ahead, given the ways to write its branches with their lengths.
Only a look behind at branches of several lengths has more than one. -/
def look (start : Nat) (ahead wanted : Bool)
    (branches : List (Nat × (Nat → Writing (List Step)))) : Writing (List Step) :=
  if wanted then
    oneOf start (branches.map fun (width, body) => fun start => wantedLook start ahead width body)
  else
    inTurn start
      (branches.map fun (width, body) => fun start => unwantedLook start ahead width body)

end Writing

namespace Node

open Writing (simple held)

/-- A simple pattern as one step if nothing behind it may ask for its next match, and otherwise as
the steps that are given. -/
def unlessSimple (refs : References) (exact : Bool) (n : Node) (steps : Writing (List Step)) :
    Writing (List Step) :=
  match if exact then none else n.simple? refs with
  | some r => simple [r]
  | none => steps

/-- A pattern that is always one simple step. -/
def asSimple (refs : References) (n : Node) : Writing (List Step) :=
  match n.simple? refs with
  | some r => simple [r]
  | none => failure

mutual

/-- The steps of a pattern from a number on. If `exact`, all its matches must be found in order,
and otherwise simple parts at its end may keep to their first one. -/
def write (refs : References) (exact : Bool) (start : Nat) : Node → Writing (List Step)
  | .empty => unlessSimple refs exact .empty (pure [])
  | .any lines => unlessSimple refs exact (.any lines) (pure [.any lines])
  | .char c ignoreCase => asSimple refs (.char c ignoreCase)
  | .set members => asSimple refs (.set members)
  | .anchor a => unlessSimple refs exact (.anchor a) (pure [.anchor a])
  | .seq parts =>
    unlessSimple refs exact (.seq parts) (writeParts refs exact (some []) start parts)
  | .either branches =>
    unlessSimple refs exact (.either branches)
      (Writing.oneOf start (writeBranches refs exact branches))
  | .group index body =>
    unlessSimple refs exact (.group index body) do
      let steps ← write refs exact (start + 1) body
      pure (.save (2 * index) :: steps ++ [.save (2 * index + 1)])
  | .repeated body n most greedy =>
    unlessSimple refs exact (.repeated body n most greedy)
      (let single := n == 0 && most == some 1
      let exact := if single then exact else exact || (simple? refs body).isNone
      Writing.repetition start n most greedy (body.least == 0) fun start =>
        write refs exact start body)
  | .again index => pure [.again index]
  | .entered index => pure [.entered index]
  | .choice condition yes no => do
    let first ← write refs exact (start + 2) condition
    let second ← write refs exact (start + 3 + first.length) yes
    let others := start + 4 + first.length + second.length
    let third ← write refs exact others no
    pure (.mark :: .fork (start + 2) others :: first ++ .cut :: second ++
      .jump (others + third.length) :: third)
  | .look ahead wanted (.either branches) =>
    if ahead || allAlike branches then
      Writing.look start ahead wanted [(leastOfAny branches, fun start =>
        unlessSimple refs false (.either branches)
          (Writing.oneOf start (writeBranches refs false branches)))]
    else if allFixed branches then
      Writing.look start ahead wanted
        ((branches.map least).zip (writeBranches refs false branches))
    else failure
  | .look ahead wanted body =>
    if ahead || body.isFixed then
      Writing.look start ahead wanted [(body.least, fun start => write refs false start body)]
    else failure
  | .atomic body => do
    let steps ← write refs false (start + 1) body
    pure (.mark :: steps ++ [.cut])
  | .restart => pure [.save 0]
  | .origin => pure [.origin]

/-- The steps of parts one after another. Simple parts of fixed length at the beginning are held
back, to become one step. So do simple parts at the end, if they are of fixed length or not all
their matches are needed. -/
def writeParts (refs : References) (exact : Bool) (front : Option (List Simple)) (start : Nat) :
    List Node → Writing (List Step)
  | [] => held (front.getD [])
  | n :: ns =>
    match front, if n.isFixed then n.simple? refs else none with
    | some rs, some r => writeParts refs exact (some (rs ++ [r])) start ns
    | _, _ => do
      let before ← held (front.getD [])
      match if exact && !allFixed (n :: ns) then none else allSimple? refs (n :: ns) with
      | some rs => pure (before ++ (← simple rs))
      | none =>
        let here := start + before.length
        let steps ← write refs true here n
        pure (before ++ steps ++ (← writeParts refs exact none (here + steps.length) ns))

/-- The ways to write some branches. -/
def writeBranches (refs : References) (exact : Bool) :
    List Node → List (Nat → Writing (List Step))
  | [] => []
  | n :: ns => (fun start => write refs exact start n) :: writeBranches refs exact ns

end

/-- The program that looks for a pattern from the beginning of a text on, given the number of its
groups and those that are referred to. -/
def program? (n : Node) (groups : Nat) (refs : References) : Option Program :=
  match (n.write refs true 4).run (2 * (groups + 1)) with
  | some (steps, slots) =>
    let search : List Step := [.fork 3 1, .any true, .jump 0, .save 0]
    some { steps := (search ++ steps ++ [Step.save 1, Step.finish]).toArray, slots }
  | none => none

end Node
end AgentManifest.Pattern
