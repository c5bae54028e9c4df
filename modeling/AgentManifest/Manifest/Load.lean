import AgentManifest.Files.Discovery
import AgentManifest.Json.Reader
import AgentManifest.Text.Character
import AgentManifest.Yaml.Reader
import AgentManifest.Yaml.Value

/-!
# Loading manifests

A manifest is read from a file, whose name announces its syntax.
-/

namespace AgentManifest.Manifest

/-!
## The text of a manifest

A manifest is written in YAML or in JSON; both are read into one kind of tree.
-/

/-- The syntax of a text. -/
inductive Format where
  | yaml
  | json
  deriving DecidableEq, Repr, Inhabited

/-- Why a text gives no tree. -/
inductive ReadError where
  | json (error : Json.Error)
  | yaml (error : Yaml.Error)
  | noJson (reason : Yaml.NoJson)
  deriving Inhabited

/-- The message of a failure. -/
def ReadError.message : ReadError → String
  | .json e => e.message
  | .yaml e => e.message
  | .noJson e => e.message

/-- The line and column of a failure, where they are known. -/
def ReadError.location? : ReadError → Option (Nat × Nat)
  | .json e => some (e.place.line, e.place.column)
  | .yaml e => e.location?
  | .noJson _ => none

/-- The tree of a YAML text. -/
def parseYaml (text : List Char) : Except ReadError Json.Value :=
  match Yaml.readChars text with
  | .error e => .error (.yaml e)
  | .ok v =>
    match v.toJson with
    | .error e => .error (.noJson e)
    | .ok v => .ok v

/-- The tree of a text. A blank YAML text is null without being read. -/
def parse (format : Format) (text : String) : Except ReadError Json.Value :=
  match format with
  | .json =>
    match Json.read text with
    | .error e => .error (.json e)
    | .ok v => .ok v
  | .yaml => if Text.allBlank text.toList then .ok .null else parseYaml text.toList

open Files (Path Tree IoError)

/-- The syntax that a path announces: JSON by the extension `json` in any case, else YAML. -/
def Format.ofPath (p : Path) : Format :=
  match p.extension? with
  | some extension =>
    if (Text.decodeLossy extension).map Files.lowerAscii = "json".toList then .json else .yaml
  | none => .yaml

/-- A manifest that was loaded. -/
structure Loaded where
  path : Path
  tree : Json.Value
  /-- The size of the file in bytes. -/
  size : Nat
  deriving Inhabited

/-- Why a file gives no manifest. -/
inductive LoadFailure where
  | unreadable (reason : IoError)
  | malformed (error : ReadError)
  deriving Inhabited

/-- A file that gives no manifest. -/
structure LoadError where
  path : Path
  failure : LoadFailure
  deriving Inhabited

/-- The message of a failure. -/
def LoadError.message (e : LoadError) : String :=
  match e.failure with
  | .unreadable reason => "cannot read " ++ e.path.text ++ ": " ++ reason.message
  | .malformed error => "cannot parse " ++ e.path.text ++ ": " ++ error.message

/-- The manifest in a file. -/
def load (files : Tree) (p : Path) : Except LoadError Loaded :=
  match files.read p with
  | .error reason => .error { path := p, failure := .unreadable reason }
  | .ok contents =>
    match Text.decode? contents with
    | none => .error { path := p, failure := .unreadable .notUtf8 }
    | some text =>
      match parse (Format.ofPath p) (String.ofList text) with
      | .error e => .error { path := p, failure := .malformed e }
      | .ok tree => .ok { path := p, tree, size := contents.length }

end AgentManifest.Manifest
