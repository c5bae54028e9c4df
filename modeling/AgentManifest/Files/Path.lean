import AgentManifest.Text.Utf8

/-!
# Paths

A path is a sequence of bytes in which slashes separate names. Paths are ordered by their
components, so that a directory comes before its longer-named neighbours.
-/

namespace AgentManifest.Files

open Text (Bytes)

/-- The byte between the names of a path. -/
def slash : UInt8 := '/'.toNat.toUInt8

/-- The byte before an extension. -/
def dot : UInt8 := '.'.toNat.toUInt8

/-- A path as it is written. -/
structure Path where
  bytes : Bytes
  deriving DecidableEq, Repr, Inhabited

/-- The parts of a sequence between the occurrences of a byte. -/
def splitAt (sep : UInt8) : Bytes → List Bytes
  | [] => [[]]
  | b :: bs =>
    if b = sep then [] :: splitAt sep bs
    else
      match splitAt sep bs with
      | [] => [[b]]
      | part :: parts => (b :: part) :: parts

/-- A step of a path. -/
inductive Component where
  | root
  | current
  | parent
  | name (bytes : Bytes)
  deriving DecidableEq, Repr, Inhabited

namespace Component

/-- The rank of a component among those of other kinds. -/
def rank : Component → Nat
  | .root => 0
  | .current => 1
  | .parent => 2
  | .name _ => 3

/-- The bytes by which names are compared. -/
def bytes : Component → Bytes
  | .name bytes => bytes
  | _ => []

end Component

/-- Lexicographic order of byte sequences. -/
def compareBytes : Bytes → Bytes → Ordering
  | [], [] => .eq
  | [], _ :: _ => .lt
  | _ :: _, [] => .gt
  | a :: as, b :: bs => (compare a.toNat b.toNat).then (compareBytes as bs)

/-- Order of components: by kind, then names bytewise. -/
def Component.compare (a b : Component) : Ordering :=
  (Ord.compare a.rank b.rank).then (compareBytes a.bytes b.bytes)

/-- Lexicographic order of component sequences. -/
def compareComponents : List Component → List Component → Ordering
  | [], [] => .eq
  | [], _ :: _ => .lt
  | _ :: _, [] => .gt
  | a :: as, b :: bs => (a.compare b).then (compareComponents as bs)

namespace Path

/-- A path from its text. -/
def ofString (s : String) : Path := { bytes := Text.encode s.toList }

/-- The text of a path, with U+FFFD for what is no character. -/
def text (p : Path) : String := String.ofList (Text.decodeLossy p.bytes)

/-- Whether a path starts at the root. -/
def isAbsolute (p : Path) : Bool := p.bytes.head? == some slash

/-- The component that a part between slashes stands for; empty parts and single dots do not
count. -/
def component? (part : Bytes) : Option Component :=
  if part = [] ∨ part = [dot] then none
  else if part = [dot, dot] then some .parent
  else some (.name part)

/-- The components of a path. A single dot counts at the start only. -/
def components (p : Path) : List Component :=
  let parts := splitAt slash p.bytes
  let steps := parts.filterMap component?
  if p.isAbsolute then .root :: steps
  else if parts.head? == some [dot] then .current :: steps
  else steps

/-- The name that a path ends in. -/
def fileName? (p : Path) : Option Bytes :=
  match p.components.getLast? with
  | some (.name bytes) => some bytes
  | _ => none

/-- What stands behind the last dot of the file name, unless the name starts with that dot. -/
def extension? (p : Path) : Option Bytes :=
  match p.fileName? with
  | none => none
  | some name =>
    let reversed := name.reverse
    let suffix := reversed.takeWhile (· != dot)
    match reversed.drop suffix.length with
    | [] => none
    | [_] => none
    | _ => some suffix.reverse

/-- The path of a name in a directory. -/
def join (p : Path) (name : Bytes) : Path :=
  if p.bytes.isEmpty || p.bytes.getLast? == some slash then { bytes := p.bytes ++ name }
  else { bytes := p.bytes ++ slash :: name }

/-- Order of paths by their components. -/
def compare (p q : Path) : Ordering := compareComponents p.components q.components

end Path
end AgentManifest.Files
