import AgentManifest.Schema.Registry

/-!
# Following references

A reference is read in a context: the draft, the identifier of the resource around it, and the
resources passed on the way, the innermost first. Where it leads has a context of its own.
-/

namespace AgentManifest.Schema

open Json (Value Members Segment Location)

/-- Where a schema stands, and how it is read there. -/
structure Context where
  draft : Draft
  /-- The vocabularies in force. -/
  vocabularies : List Vocabulary
  base : String
  scopes : List String
  /-- The way to the schema, through references. -/
  place : Location
  deriving Inhabited

/-- Where a reference leads. -/
structure Landing where
  resource : String
  anchor : Option String
  place : Location
  contents : Value
  /-- The draft of the resource. -/
  draft : Draft
  base : String
  scopes : List String
  deriving Inhabited

/-- An identifier over the one around it, if a schema has its own. -/
def innerBase (draft : Draft) (base : String) (v : Value) : Except Fault String :=
  match draft.identifier? v with
  | some id => resolveReference base id
  | none => .ok base

/-- The draft that a schema is read in, inside one that is read in another. -/
def innerDraft (outer : Draft) (v : Value) : Draft :=
  match draftOf outer v with
  | .ok d => d
  | .error _ => .draft2020

namespace Context

/-- The context of a schema in no other. -/
def root (draft : Draft) (vocabularies : List Vocabulary) (base : String) : Context :=
  { draft, vocabularies, base, scopes := [], place := [] }

/-- The context further down. -/
def down (c : Context) (way : Location) : Context := { c with place := c.place ++ way }

/-- The context inside a schema of a draft: its own identifier over the one around it. -/
def enterAs (c : Context) (draft : Draft) (v : Value) : Except Fault Context := do
  .ok { c with draft, base := ← innerBase draft c.base v }

/-- The context inside a schema, which may name its own draft. -/
def enter (c : Context) (v : Value) : Except Fault Context :=
  c.enterAs (innerDraft c.draft v) v

/-- The context at the end of a reference that is followed in place. -/
def landed (c : Context) (reg : Registry) (l : Landing) : Context :=
  { draft := l.draft, vocabularies := reg.vocabularies l.draft l.contents, base := l.base,
    scopes := l.scopes, place := c.place }

/-- The context at the end of a reference that is read on its own: as the schema around the
reference is read, and with the identifier of the schema at its end laid over once more. -/
def detached (c : Context) (l : Landing) : Except Fault Context := do
  .ok { c with base := ← innerBase c.draft l.base l.contents, scopes := l.scopes, place := [] }

/-- The place where a reference leads, as it is read in a context. -/
def target (c : Context) (l : Landing) : Target :=
  { resource := l.resource, anchor := l.anchor, place := l.place, base := c.base,
    scopes := c.scopes, draft := c.draft, vocabularies := c.vocabularies }

/-- The resources passed after passing on to a resource. Only the later drafts need to know them. -/
def scopesTo (c : Context) (id : String) : List String :=
  if c.draft.since .draft2019 && (c.scopes.isEmpty || c.base != id) && !c.scopes.contains c.base
  then c.base :: c.scopes
  else c.scopes

end Context

/-- The fault of a pointer that leads nowhere. -/
def PointerFault.fault (pointer : String) : PointerFault → Fault
  | .missing => .noPlace pointer
  | .badIndex text => .badIndex (String.ofList text) pointer

/-! ## Following -/

/-- The base inside a value that a pointer passes: that of the value, if it is a schema. -/
def passedBase (draft : Draft) (base : String) (way : Location) (v : Value) :
    Except Fault String :=
  if draft.leadsToSchema way then innerBase draft base v else .ok base

/-- Follows the parts of a pointer from a base, entering the schemas on the way: gives the way, what
is at its end, and the base there. The way since the last change of base is kept, to tell schemas
from other values. -/
def followPointer (pointer : String) (draft : Draft) :
    String → Location → Location → Value → List (List Char) →
      Except Fault (Location × Value × String)
  | base, place, _, v, [] => .ok (place.reverse, v, base)
  | base, place, way, v, part :: parts =>
    match pointerStep v part with
    | .error f => .error (f.fault pointer)
    | .ok (s, w) => do
      let way := way ++ [s]
      let inner ← passedBase draft base way w
      let way := if inner = base then way else []
      followPointer pointer draft inner (s :: place) way w parts

namespace Registry

/-- The place with a name in a resource. A resource may be registered under another identifier
than its own. -/
def named? (reg : Registry) (id name : String) : Option NamedPlace :=
  match reg.names.lookup (id, name) with
  | some p => some p
  | none =>
    match reg.find? id with
    | some r =>
      match (r.draft.identifier? r.contents).map rootIdentifier with
      | some (.ok own) => reg.names.lookup (own, name)
      | _ => none
    | none => none

/-- The outermost resource that gives a dynamic name, from the innermost one on. -/
def outermost (reg : Registry) (name : String) (id : String) (p : NamedPlace) :
    List String → String × NamedPlace
  | [] => (id, p)
  | scope :: scopes =>
    match reg.named? scope name with
    | some q => if q.dynamic then reg.outermost name scope q scopes
      else reg.outermost name id p scopes
    | none => reg.outermost name id p scopes

/-- The base at a name in a resource. A dynamic name may lie in another resource. -/
def NamedPlace.base (p : NamedPlace) (id : String) : Except Fault String :=
  if p.dynamic then innerBase p.resource.draft id p.resource.contents else .ok id

/-- Follows a name in a resource. -/
def followName (reg : Registry) (id name : String) (scopes : List String) :
    Except Fault Landing :=
  match reg.named? id name with
  | none => .error (.noAnchor name)
  | some p => do
    let (owner, p) := if p.dynamic then reg.outermost name id p scopes else (id, p)
    let base ← NamedPlace.base p id
    .ok { resource := owner, anchor := some name, place := [], contents := p.resource.contents,
          draft := p.resource.draft, base, scopes }

/-- Follows a fragment inside a resource. -/
def followFragment (reg : Registry) (c : Context) (id : String) (r : Resource)
    (fragment : String) : Except Fault Landing :=
  let scopes := c.scopesTo id
  match fragment.toList with
  | [] =>
    .ok { resource := id, anchor := none, place := [], contents := r.contents, draft := r.draft,
          base := id, scopes }
  | '/' :: rest =>
    match Text.decode? (percentDecode rest) with
    | none => .error (.badOctets fragment)
    | some parts => do
      let (place, contents, base) ←
        followPointer fragment r.draft id [] [] r.contents (Uri.splitOnChar '/' parts)
      .ok { resource := id, anchor := none, place, contents, draft := r.draft, base, scopes }
  | _ => reg.followName id fragment scopes

/-- The identifier and the fragment that a reference leads to from a base. -/
def referred (base reference : String) : Except Fault (String × String) :=
  match reference.toList with
  | '#' :: fragment => .ok (base, String.ofList fragment)
  | cs =>
    let fragment := (cs.reverse.takeWhile (· != '#')).reverse
    if fragment.length = cs.length then do .ok (← resolveReference base reference, "")
    else do
      let front := String.ofList (cs.take (cs.length - fragment.length - 1))
      .ok (← resolveReference base front, String.ofList fragment)

/-- Follows a reference to whatever lies at its end. -/
def followAny (reg : Registry) (c : Context) (reference : String) : Except Fault Landing := do
  let (id, fragment) ← referred c.base reference
  match reg.find? id with
  | none => .error (.notKnown id)
  | some r => reg.followFragment c id r fragment

/-- Follows a reference, which has to lead to a schema: an object or a truth value. -/
def follow (reg : Registry) (c : Context) (reference : String) : Except Fault Landing := do
  let l ← reg.followAny c reference
  match l.contents with
  | .bool _ | .object _ => .ok l
  | v => .error (.unfit v (.type [.boolean, .object]))

/-- Whether a schema lets the outermost resource decide what its root is. -/
def isRecursiveAnchor (v : Value) : Bool :=
  match v.get? "$recursiveAnchor" with
  | some (.bool b) => b
  | _ => false

/-- The last landing among the roots of the resources passed that all leave the decision to the
outermost one. -/
def outermostRoot (reg : Registry) (c : Context) (l : Landing) :
    List String → Except Fault Landing
  | [] => .ok l
  | scope :: scopes => do
    let next ← reg.follow c scope
    if isRecursiveAnchor next.contents then reg.outermostRoot c next scopes else .ok l

/-- Follows a reference to the root that the outermost resource may decide. -/
def followRecursive (reg : Registry) (c : Context) : Except Fault Landing := do
  let l ← reg.followAny c "#"
  if isRecursiveAnchor l.contents then reg.outermostRoot c l l.scopes else .ok l

end Registry
end AgentManifest.Schema
