import AgentManifest.Decimal.Notation
import AgentManifest.Json.Value

/-!
# Places in a tree

A place is the list of names and indices on the way to it from the root. Its pointer puts a slash
before each of them and escapes slashes and tildes in names.
-/

namespace AgentManifest.Json

/-- A step down a tree: into a member of an object or an item of an array. -/
inductive Segment where
  | key (name : String)
  | index (n : Nat)
  deriving DecidableEq, Repr, Inhabited

/-- A way down a tree. -/
abbrev Location := List Segment

/-- The written form of one character of a name. -/
def pointerEscape (c : Char) : List Char :=
  if c = '~' then ['~', '0'] else if c = '/' then ['~', '1'] else [c]

/-- The written form of a step. -/
def Segment.write : Segment → List Char
  | .key name => name.toList.flatMap pointerEscape
  | .index n => Decimal.natText n

/-- The characters of a pointer. -/
def Location.write (l : Location) : List Char := l.flatMap fun s => '/' :: s.write

/-- The pointer to a place. -/
def Location.pointer (l : Location) : String := String.ofList (Location.write l)

namespace Value

/-- The value one step down. -/
def step? : Value → Segment → Option Value
  | .object ms, .key name => Members.get? ms name
  | .array items, .index n => items[n]?
  | _, _ => none

/-- The value at a place. -/
def at? : Value → Location → Option Value
  | v, [] => some v
  | v, s :: l => (v.step? s).bind fun w => at? w l

end Value
end AgentManifest.Json
