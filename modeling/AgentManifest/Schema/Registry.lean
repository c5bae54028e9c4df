import AgentManifest.Schema.Fault

/-!
# Resources

The schemas that references can lead to, by their identifiers, with the names that lie in them.
-/

namespace AgentManifest.Schema

open Json (Value Members Segment Location)

/-- A schema that references can lead to. -/
structure Resource where
  contents : Value
  draft : Draft
  deriving Inhabited

/-- A name that lies in a resource. -/
structure NamedPlace where
  resource : Resource
  dynamic : Bool

/-- Resources by identifier, and names by the resource that they lie in. -/
structure Registry where
  resources : List (String × Resource)
  names : List ((String × String) × NamedPlace)

/-! ## Identifiers -/

/-- The identifier of a schema that has none. -/
def defaultBase : String := "json-schema:///"

/-- Lays a reference over a base, in normal form. -/
def resolveReference (base reference : String) : Except Fault String :=
  if reference.toList.head? = some '#' ∧ reference.toList.isSuffixOf base.toList then .ok base
  else
    match Uri.parse false reference.toList, Uri.parse false base.toList with
    | .error f, _ => .error (.badReference reference f)
    | _, .error f => .error (.badReference base f)
    | .ok r, .ok b =>
      if b.fragment.isSome then
        .error (.baseWithFragment reference base)
      else if b.resolvable r then .ok (String.ofList (b.resolve r).normalize.text)
      else .error (.rootlessBase reference base)

/-- The identifier of a root schema, in normal form. -/
def rootIdentifier (text : String) : Except Fault String :=
  match Uri.parse false text.toList with
  | .error f => .error (.badReference text f)
  | .ok r =>
    let r := r.normalize
    if r.scheme.isSome then .ok (String.ofList r.text)
    else
      match Uri.parse false defaultBase.toList with
      | .ok b => .ok (String.ofList (b.resolve r).text)
      | .error f => .error (.badReference defaultBase f)

/-- An identifier without its fragment, and the fragment. -/
def splitFragment (text : String) : String × Option String :=
  let front := text.toList.takeWhile (· != '#')
  match text.toList.drop front.length with
  | _ :: fragment => (String.ofList front, some (String.ofList fragment))
  | [] => (text, none)

/-! ## Drafts -/

/-- The draft that a schema is written in: the one it names, or the one around it. -/
def draftOf (outer : Draft) (v : Value) : Except Fault Draft :=
  match (v.get? "$schema").bind Value.string? with
  | none => .ok outer
  | some text =>
    match Draft.ofIdentifier? text with
    | some d => .ok d
    | none => .error (.unknownDraft (Draft.trimNumberSigns text))

/-- The vocabularies that a schema of schemas puts into force, if it has an identifier and says
so. -/
def vocabulariesOf? (v : Value) : Option (List Vocabulary) :=
  match (v.get? "$id").bind Value.string?, v.get? "$vocabulary" with
  | some "https://json-schema.org/schema", _ => some Draft.draft2020.vocabularies
  | some _, some (.object ms) =>
    let names := (ms.filter fun m => match m.2 with
      | .bool b => b
      | _ => false).map Prod.fst
    if names.all fun name => (rootIdentifier name).toBool then
      some (names.filterMap fun name => Vocabulary.identifiers.lookup name)
    else none
  | _, _ => none

/-! ## Pointers -/

/-- The bytes of a text in which escaped octets are read. -/
def percentDecode : List Char → Text.Bytes
  | '%' :: a :: b :: rest =>
    if Text.isHex a && Text.isHex b then
      (Text.hexNumber [a, b]).toUInt8 :: percentDecode rest
    else Text.encodeChar '%' ++ percentDecode (a :: b :: rest)
  | c :: rest => Text.encodeChar c ++ percentDecode rest
  | [] => []

/-- A name of a pointer without its escapes. -/
def unescapeName : List Char → List Char
  | '~' :: '1' :: rest => '/' :: unescapeName rest
  | '~' :: '0' :: rest => '~' :: unescapeName rest
  | c :: rest => c :: unescapeName rest
  | [] => []

/-- The number that a text of a pointer spells, with a plus sign or without. -/
def pointerIndex? (s : List Char) : Option Nat :=
  let digits := if s.head? = some '+' then s.drop 1 else s
  if digits.isEmpty || !digits.all Char.isDigit then none
  else
    let n := digits.foldl (fun n c => 10 * n + (c.toNat - '0'.toNat)) 0
    if n < UInt64.size then some n else none

/-- Why a pointer leads nowhere. -/
inductive PointerFault where
  | missing
  | badIndex (text : List Char)

/-- One step of a pointer: the step, and where it leads. -/
def pointerStep (v : Value) (part : List Char) : Except PointerFault (Segment × Value) :=
  match v with
  | .array vs =>
    match pointerIndex? part with
    | none => .error (.badIndex part)
    | some n =>
      match vs[n]? with
      | some w => .ok (.index n, w)
      | none => .error .missing
  | _ =>
    let name := String.ofList (unescapeName part)
    match v.get? name with
    | some w => .ok (.key name, w)
    | none => .error .missing

/-- Where the parts of a pointer lead. An index is spelled without sign and leading zeros. -/
def followParts : Value → List (List Char) → Option Value
  | v, [] => some v
  | v, part :: parts =>
    match v, part with
    | .array _, '+' :: _ => none
    | .array _, '0' :: _ :: _ => none
    | _, _ =>
      match pointerStep v part with
      | .ok (_, w) => followParts w parts
      | .error _ => none

/-- Where a local reference leads inside a schema, as far as it is spelled without escapes of
octets. -/
def followLocal (v : Value) (pointer : List Char) : Option Value :=
  match pointer with
  | [] => some v
  | '/' :: rest => followParts v (Uri.splitOnChar '/' rest)
  | _ => none

namespace Registry

/-- No resources. -/
def empty : Registry := { resources := [], names := [] }

/-- Puts a resource under an identifier. -/
def insert (reg : Registry) (id : String) (r : Resource) : Registry :=
  { reg with resources := (id, r) :: reg.resources }

/-- The resource under an identifier. -/
def find? (reg : Registry) (id : String) : Option Resource := reg.resources.lookup id

/-- The vocabularies that a schema brings into force: those of the draft that it names, or those
that its own schema of schemas puts into force. -/
def vocabularies (reg : Registry) (outer : Draft) (v : Value) : List Vocabulary :=
  match draftOf outer v with
  | .ok d => d.vocabularies
  | .error (.unknownDraft text) =>
    match rootIdentifier text with
    | .ok id => ((reg.find? id).bind fun r => vocabulariesOf? r.contents).getD outer.vocabularies
    | .error _ => outer.vocabularies
  | .error _ => outer.vocabularies

/-- Puts the names that a schema gives itself under a resource. -/
def insertNames (reg : Registry) (id : String) (r : Resource) : Registry :=
  { reg with
    names := ((r.draft.anchors r.contents).map fun a =>
      ((id, a.name), ({ resource := r, dynamic := a.dynamic } : NamedPlace))) ++ reg.names }

end Registry

end AgentManifest.Schema
