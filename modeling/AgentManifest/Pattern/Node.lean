import AgentManifest.Pattern.Simple

/-!
# Patterns

The tree of a pattern with memory. Groups have numbers, and the texts of those that are referred to
are kept while the pattern is matched.
-/

namespace AgentManifest.Pattern

/-- A pattern. -/
inductive Node where
  | empty
  /-- Any character, or any but a line feed. -/
  | any (lines : Bool)
  | char (c : Char) (ignoreCase : Bool)
  | set (members : CharSet)
  | anchor (a : Anchor)
  | seq (parts : List Node)
  | either (branches : List Node)
  | group (index : Nat) (body : Node)
  /-- At least and at most so many times; `none` for no upper bound. -/
  | repeated (body : Node) (least : Nat) (most : Option Nat) (greedy : Bool)
  /-- The text of a group once more. -/
  | again (index : Nat)
  /-- Nothing, where a group has been entered. -/
  | entered (index : Nat)
  /-- One of two, as a condition matches or not. -/
  | choice (condition yes no : Node)
  /-- What follows matches, or what stands before, or it does not. -/
  | look (ahead wanted : Bool) (body : Node)
  /-- The first match of the body, and no other. -/
  | atomic (body : Node)
  /-- Nothing; what has been matched is forgotten. -/
  | restart
  /-- Nothing, at the place where the search began. -/
  | origin
  deriving Inhabited

/-- The groups that a pattern refers to. -/
structure References where
  /-- Those whose further matches are tried if the first one does not lead on. -/
  retried : List Nat := []
  /-- Those that keep to their first match. -/
  kept : List Nat := []
  deriving Inhabited

namespace Node

/-- One after another. -/
def sequence : List Node → Node
  | [] => .empty
  | [n] => n
  | ns => .seq ns

/-- Whether a pattern is the empty one. -/
def isEmpty : Node → Bool
  | .empty => true
  | _ => false

/-- Whether a pattern may be repeated. -/
def isRepeatable : Node → Bool
  | .empty => false
  | .anchor _ => false
  | .look _ _ _ => false
  | _ => true

mutual

/-- The least number of characters of a match. -/
def least : Node → Nat
  | .any _ => 1
  | .char _ _ => 1
  | .set _ => 1
  | .seq parts => leastOfAll parts
  | .either branches => leastOfAny branches
  | .group _ body => least body
  | .repeated body n _ _ => least body * n
  | .choice condition yes no => least condition + min (least yes) (least no)
  | .atomic body => least body
  | _ => 0

/-- The least number of characters of patterns one after another. -/
def leastOfAll : List Node → Nat
  | [] => 0
  | n :: ns => least n + leastOfAll ns

/-- The least number of characters of one of some patterns. -/
def leastOfAny : List Node → Nat
  | [] => 0
  | [n] => least n
  | n :: ns => min (least n) (leastOfAny ns)

end

mutual

/-- Whether all matches have the same number of characters. -/
def isFixed : Node → Bool
  | .seq parts => allFixed parts
  | .either branches => allAlike branches
  | .group _ body => isFixed body
  | .repeated body n most _ => isFixed body && most == some n
  | .again _ => false
  | .choice condition yes no =>
    isFixed condition && isFixed yes && isFixed no &&
      least condition + least yes == least no
  | .atomic body => isFixed body
  | _ => true

/-- Whether each of some patterns has matches of one length. -/
def allFixed : List Node → Bool
  | [] => true
  | n :: ns => isFixed n && allFixed ns

/-- Whether some patterns have matches of one common length. -/
def allAlike : List Node → Bool
  | [] => true
  | [n] => isFixed n
  | n :: ns => isFixed n && least n == leastOfAny ns && allAlike ns

end

/-- Every character, or every one but a line feed. -/
def anySet (lines : Bool) : CharSet :=
  if lines then CharSet.all else (CharSet.single '\n').complement

/-- Whether a condition can be decided without looking at words. -/
def isPlainAnchor : Anchor → Bool
  | .start => true
  | .finish => true
  | .lineStart => true
  | .lineFinish => true
  | _ => false

mutual

/-- The pattern as a simple one, if it is one, given the groups that are referred to. -/
def simple? (refs : References) : Node → Option Simple
  | .empty => some .empty
  | .any lines => some (.set (anySet lines))
  | .char c ignoreCase => some (if ignoreCase then .set (CharSet.single c).caseless else .char c)
  | .set members => some (.set members)
  | .anchor a => if isPlainAnchor a then some (.anchor a) else none
  | .seq parts => (allSimple? refs parts).map Simple.sequence
  | .either branches => (allSimple? refs branches).map Simple.oneOf
  | .group index body =>
    if refs.retried.contains index then none
    else
      (simple? refs body).map (.group (if refs.kept.contains index then some index else none))
  | .repeated body n most greedy =>
    (simple? refs body).map fun r => .repeated r n most greedy
  | _ => none

/-- Patterns as simple ones, if they all are. -/
def allSimple? (refs : References) : List Node → Option (List Simple)
  | [] => some []
  | n :: ns =>
    match simple? refs n, allSimple? refs ns with
    | some r, some rs => some (r :: rs)
    | _, _ => none

end

end Node
end AgentManifest.Pattern
