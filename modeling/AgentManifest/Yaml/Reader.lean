import AgentManifest.Yaml.Node.Grammar
import AgentManifest.Yaml.Scalar
import AgentManifest.Yaml.Value

/-!
# Reading YAML

A text holds one document.
-/

namespace AgentManifest.Yaml

/-!
## From nodes to values

Scalars are given their meaning, and an alias is replaced by the value of the node it names, each
time anew. Two limits keep this finite: on the depth of collections, and on the number of aliases
followed.
-/

/-- What aliases refer to, and how many may be followed. -/
structure Anchors where
  nodes : List (Nat × Node)
  limit : Nat

/-- The anchors of a document. -/
def Anchors.ofRoot (root : Node) : Anchors :=
  { nodes := root.anchored.reverse, limit := 100 * root.extent.count }

/-- A reading that counts the aliases followed. -/
abbrev Expand := StateT Nat (Except Error)

/-- The depth of collections that is refused, less one. -/
def maxDepth : Nat := 128

/-- The node that an alias names, the last one under its number; other nodes name themselves. -/
def Anchors.follow (anchors : Anchors) : Node → Expand Node
  | .alias id => do
    let count := (← get) + 1
    set count
    if anchors.limit < count then throw .repetitionLimit
    else
      match anchors.nodes.find? fun n => n.1 == id with
      | some (_, target) => pure target
      | none => pure (.broken default)
  | node => pure node

/-- A text without the bang in front, unless that is all of it. -/
def unbanged : List Char → List Char
  | '!' :: c :: cs => c :: cs
  | cs => cs

/-- The name of a local tag; octets that are no characters name nothing. -/
def localTag? (tag : Option Text.Bytes) : Option String := do
  let tag ← tag
  if isLocalTag tag then
    let name ← Text.decode? (if tag.length = 1 then tag else tag.drop 1)
    some (String.ofList (unbanged name))
  else none

/-- A value under the local tag of its node. -/
def withTag (p : Properties) (v : Value) : Value :=
  match localTag? p.tag with
  | some name => .tagged name v
  | none => v

/-- The step from a mapping to the value under a key. -/
def stepTo : Node → Step
  | .scalar _ text _ => .key (String.ofList text)
  | _ => .unknown

/-- The value of a meaning. -/
def Meaning.value (s : List Char) : Meaning → Except Decode.Mismatch Value
  | .null => .ok .null
  | .bool b => .ok (.bool b)
  | .int n => .ok (.number (.int n))
  | .wide n => .error (.invalidType (.wide n) "any YAML value")
  | .float x => .ok (.number (.float x))
  | .text => .ok (.string (String.ofList s))

/-- The value of a scalar; under a local tag the text speaks for itself. -/
def scalarValue (p : Properties) (text : List Char) (style : Style) :
    Except Decode.Mismatch Value := do
  let tag := if (localTag? p.tag).isSome then none else p.tag
  let m ← meaning tag text style
  .ok (withTag p (← m.value text))

/-- The values of items, by what gives the value of one. -/
def itemValues (inner : List Step → Node → Expand Value) (path : List Step) :
    Nat → List Node → Expand (List Value)
  | _, [] => pure []
  | i, n :: ns => do
    let v ← inner (.index i :: path) n
    pure (v :: (← itemValues inner path (i + 1) ns))

/-- The entries of a mapping behind those seen (last first); a key may not occur twice. -/
def entryValues (inner : List Step → Node → Expand Value) (path : List Step) (mark : Mark) :
    List (Value × Value) → List (Node × Node) → Expand (List (Value × Value))
  | seen, [] => pure seen.reverse
  | seen, (k, v) :: es => do
    let key ← inner path k
    match seen.find? fun e => e.1.same key with
    | some (old, _) => throw (.refused (.duplicateKey old.namedAsKey) mark path)
    | none =>
      let value ← inner (stepTo k :: path) v
      entryValues inner path mark ((key, value) :: seen) es

/-- The value of a node that is no alias. Without `inner` no collection is let in. -/
def contentValue (inner : Option (List Step → Node → Expand Value)) (path : List Step) :
    Node → Expand Value
  | .broken fault => throw (.malformed fault)
  | .alias _ => throw .repetitionLimit
  | .scalar p text style =>
    match scalarValue p text style with
    | .ok v => pure v
    | .error mismatch => throw (.refused (.shape mismatch) p.mark path)
  | .sequence p items =>
    match inner with
    | none => throw (.malformed { problem := .nestingTooDeep, mark := p.mark, context := none })
    | some inner => do pure (withTag p (.sequence (← itemValues inner path 0 items)))
  | .mapping p entries =>
    match inner with
    | none => throw (.malformed { problem := .nestingTooDeep, mark := p.mark, context := none })
    | some inner => do
      pure (withTag p (.mapping (← entryValues inner path p.mark [] entries)))

/-- The value of a node under which so many collections may be nested. -/
def nodeValue (anchors : Anchors) : Nat → List Step → Node → Expand Value
  | 0, path, n => do contentValue none path (← anchors.follow n)
  | depth + 1, path, n => do
    contentValue (some (nodeValue anchors depth)) path (← anchors.follow n)

/-- What follows a document that was read: nothing may be wrong, and nothing else may follow. -/
def Document.finish {α : Type} (d : Document) (a : α) : Except Error α :=
  match d.fault with
  | some fault => .error (.malformed fault)
  | none => if d.followed then .error .severalDocuments else .ok a

/-- The value of a document. -/
def Document.value (d : Document) : Except Error Value :=
  match d.root with
  | none => d.finish .null
  | some root => do
    let (v, _) ← (nodeValue (Anchors.ofRoot root) maxDepth [] root).run 0
    d.finish v

/-- The value of a YAML text. -/
def readChars (text : List Char) : Except Error Value := (Document.ofText text).value

end AgentManifest.Yaml
