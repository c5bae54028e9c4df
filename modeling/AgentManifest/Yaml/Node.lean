import AgentManifest.Text.Utf8
import AgentManifest.Yaml.Error
import AgentManifest.Yaml.Token

/-!
# Nodes of a YAML document

The tree that the tokens describe, before tags and scalars are given a meaning. A document that
ends in a fault has its tree up to there, with the fault in the place of the next node.
-/

namespace AgentManifest.Yaml

/-- What is known of a node beside its content. -/
structure Properties where
  mark : Mark
  tag : Option Text.Bytes
  /-- The number under which aliases refer to the node. -/
  anchor : Option Nat
  deriving DecidableEq, Repr, Inhabited

/-- A node of a document. -/
inductive Node where
  | scalar (properties : Properties) (text : List Char) (style : Style)
  | sequence (properties : Properties) (items : List Node)
  | mapping (properties : Properties) (entries : List (Node × Node))
  | alias (anchor : Nat)
  /-- The text is at fault where this node would start or end. -/
  | broken (fault : Fault)
  deriving Repr, Inhabited

namespace Node

/-- A plain scalar without text. -/
def empty (mark : Mark) : Node := .scalar { mark, tag := none, anchor := none } [] .plain

/-- How much of a document was read: its scalars and aliases, and the ends of its collections; and
whether it was read to its end. -/
structure Extent where
  count : Nat
  complete : Bool
  deriving DecidableEq, Repr, Inhabited

/-- The extent of two parts, one behind the other. -/
def Extent.append (a b : Extent) : Extent :=
  { count := a.count + b.count, complete := a.complete && b.complete }

/-- The extent of a collection around a content; its end is there only if the content is whole. -/
def Extent.enclosed (a : Extent) : Extent :=
  { a with count := a.count + if a.complete then 2 else 1 }

mutual

/-- The extent of a node. -/
def extent : Node → Extent
  | .scalar _ _ _ => { count := 1, complete := true }
  | .sequence _ items => (extentItems items).enclosed
  | .mapping _ entries => (extentEntries entries).enclosed
  | .alias _ => { count := 1, complete := true }
  | .broken _ => { count := 0, complete := false }

/-- The extent of a list of items. -/
def extentItems : List Node → Extent
  | [] => { count := 0, complete := true }
  | n :: ns => (extent n).append (extentItems ns)

/-- The extent of a list of entries. -/
def extentEntries : List (Node × Node) → Extent
  | [] => { count := 0, complete := true }
  | (k, v) :: es => ((extent k).append (extent v)).append (extentEntries es)

end

mutual

/-- The nodes with an anchor, each after the nodes around it. -/
def anchored : Node → List (Nat × Node)
  | .scalar p text style =>
    match p.anchor with
    | some id => [(id, .scalar p text style)]
    | none => []
  | .sequence p items =>
    match p.anchor with
    | some id => (id, .sequence p items) :: anchoredItems items
    | none => anchoredItems items
  | .mapping p entries =>
    match p.anchor with
    | some id => (id, .mapping p entries) :: anchoredEntries entries
    | none => anchoredEntries entries
  | .alias _ => []
  | .broken _ => []

/-- The nodes with an anchor among items. -/
def anchoredItems : List Node → List (Nat × Node)
  | [] => []
  | n :: ns => anchored n ++ anchoredItems ns

/-- The nodes with an anchor among keys and values. -/
def anchoredEntries : List (Node × Node) → List (Nat × Node)
  | [] => []
  | (k, v) :: es => anchored k ++ (anchored v ++ anchoredEntries es)

end

end Node

/-- The first document of a text. -/
structure Document where
  /-- The root, unless the text holds nothing. -/
  root : Option Node
  /-- A fault behind the root. -/
  fault : Option Fault
  /-- Whether anything but the end of the text follows. -/
  followed : Bool
  deriving Repr, Inhabited

end AgentManifest.Yaml
