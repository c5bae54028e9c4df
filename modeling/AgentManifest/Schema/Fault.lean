import AgentManifest.Files.Tree
import AgentManifest.Json.Error
import AgentManifest.Schema.Failure
import AgentManifest.Uri.Reference

/-!
# Faults of schemas

What can be wrong with a schema: a reference that cannot be read or leads nowhere, a draft that is
not known, or a keyword with a value that it cannot have.
-/

namespace AgentManifest.Schema

open Json (Value)

/-- What is wrong with a schema. -/
inductive Fault where
  /-- A text is no reference. -/
  | badReference (text : String) (fault : Uri.Fault)
  /-- A reference is laid over a base with a fragment. -/
  | baseWithFragment (text base : String)
  /-- A relative reference is laid over a base that has no root to start from. -/
  | rootlessBase (text base : String)
  | unknownDraft (text : String)
  /-- A resource was not supplied. -/
  | notSupplied (id : String)
  /-- A resource is referred to that was not found in time. -/
  | notKnown (id : String)
  | noAnchor (name : String)
  | noPlace (pointer : String)
  | badIndex (text pointer : String)
  /-- The escaped octets of a pointer are no text. -/
  | badOctets (pointer : String)
  /-- A keyword has a value that it cannot have. -/
  | unfit (v : Value) (cause : Cause)
  | unknownType
  deriving Inhabited

namespace Fault

/-- The start of the wording for a resource that is not there. -/
def missingResource (id : String) : String :=
  "Resource '" ++ id ++ "' is not present in a registry and retrieving it failed: "

/-- The start of the wording for a reference that cannot be laid over a base. -/
def unresolved (text base : String) : String :=
  "Failed to resolve '" ++ text ++ "' against '" ++ base ++ "': "

/-- The wording of a fault. -/
def message : Fault → String
  | badReference text fault => "Invalid URI reference '" ++ text ++ "': " ++ fault.message
  | baseWithFragment text base => unresolved text base ++ "base should not have fragment"
  | rootlessBase text base =>
    unresolved text base ++
      "relative reference must be empty or start with '#' when resolved against " ++
      "authority-less base URI/IRI with rootless path"
  | unknownDraft text => "Unknown specification: " ++ text
  | notSupplied id => missingResource id ++ "schema not found for URI: " ++ id
  | notKnown id =>
    missingResource id ++
      "Retrieving external resources is not supported once the registry is populated"
  | noAnchor name =>
    if name.toList.contains '/' then "Anchor '" ++ name ++ "' is invalid"
    else "Anchor '" ++ name ++ "' does not exist"
  | noPlace pointer => "Pointer '" ++ pointer ++ "' does not exist"
  | badIndex text pointer =>
    "Failed to parse array index '" ++ text ++ "' in pointer '" ++ pointer ++ "'"
  | badOctets pointer =>
    "Invalid percent encoding in pointer '" ++ pointer ++
      "': the decoded bytes do not represent valid UTF-8"
  | unfit v cause => cause.message v.compact
  | unknownType => "Unexpected type"

end Fault
/-!
## Errors of schemas

Why a schema is of no use: its file cannot be read, its text is not JSON, or something is wrong
with it at a place.
-/

open Json (Location)

/-- Something that is wrong with a schema, and where. -/
structure Flaw where
  place : Location
  fault : Fault
  deriving Inhabited

/-- Why a schema is of no use. -/
inductive Error where
  | unreadable (path : Files.Path) (reason : Files.IoError)
  /-- The text is not JSON. The origin says which text. -/
  | notJson (origin : String) (error : Json.Error)
  | flawed (id? : Option String) (flaw : Flaw)
  deriving Inhabited

/-- What a schema is called in messages. -/
def displayId (id? : Option String) : String := id?.getD "<anonymous>"

/-- The wording of an error. -/
def Error.message : Error → String
  | .unreadable path reason => "failed to load schema " ++ path.text ++ ": " ++ reason.message
  | .notJson origin error => "schema " ++ origin ++ " is not valid JSON: " ++ error.message
  | .flawed id? flaw =>
    "failed to compile schema " ++ displayId id? ++ ": " ++ flaw.fault.message

end AgentManifest.Schema
