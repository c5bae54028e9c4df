import AgentManifest.Lint.Config
import AgentManifest.Yaml.Reader
import AgentManifest.Files.Tree
import AgentManifest.Text.Character

/-!
# Configuration files

A configuration is written in YAML, of which JSON is a part. It is read from the nodes of a document
and not from its value, because a field asks for a kind: a section name may be any scalar, and a
threshold only a bare number. A blank text sets nothing.
-/

namespace AgentManifest.Lint.Config

open Decode (Mismatch)
open Yaml (Anchors Expand Mark Node Step)

/-! ## Nodes -/

/-- Refuses a node for its shape. -/
def refuseAt {α : Type} (mismatch : Mismatch) (mark : Mark) (path : List Step) : Expand α :=
  throw (.refused (.shape mismatch) mark path)

/-- Refuses a node because another kind is expected. -/
def refuseNode {α : Type} (expected : String) (path : List Step) : Node → Expand α
  | .scalar p text style =>
    match Yaml.meaning p.tag text style with
    | .ok m => refuseAt (.invalidType (m.found text) expected) p.mark path
    | .error mismatch => refuseAt mismatch p.mark path
  | .sequence p _ => refuseAt (.invalidType .sequence expected) p.mark path
  | .mapping p _ => refuseAt (.invalidType .map expected) p.mark path
  | .broken fault => throw (.malformed fault)
  | .alias _ => throw .repetitionLimit

/-- Whether a scalar may stand for a number: a bare one, or a literal one that a tag says is one. -/
def mayBeNumber (tag : Option Text.Bytes) : Yaml.Style → Bool
  | .plain => true
  | .literal => tag == some (Yaml.coreTag "int")
  | _ => false

/-- A number below `2^64`; `kind` names it in messages. -/
def readNatural (anchors : Anchors) (kind : String) (path : List Step) (n : Node) :
    Expand Nat := do
  let n ← anchors.follow n
  match n with
  | .scalar p text style =>
    match (if mayBeNumber p.tag style then Yaml.natural? text else none) with
    | some value => if value < UInt64.size then pure value else refuseNode kind path n
    | none => refuseNode kind path n
  | n => refuseNode kind path n

/-- The text of any scalar. -/
def readText (anchors : Anchors) (expected : String) (path : List Step) (n : Node) :
    Expand (String × Mark) := do
  match ← anchors.follow n with
  | .scalar p text _ => pure (String.ofList text, p.mark)
  | n => refuseNode expected path n

/-- The items of a sequence of texts. -/
def readTexts (anchors : Anchors) (path : List Step) : Nat → List Node → Expand (List String)
  | _, [] => pure []
  | i, n :: ns => do
    let (text, _) ← readText anchors "a string" (.index i :: path) n
    pure (text :: (← readTexts anchors path (i + 1) ns))

/-- A sequence of texts; a bare empty scalar is an empty one. -/
def readSections (anchors : Anchors) (path : List Step) (n : Node) : Expand (List String) := do
  match ← anchors.follow n with
  | .sequence _ items => readTexts anchors path 0 items
  | .scalar _ [] .plain => pure []
  | n => refuseNode "a sequence" path n

/-- Sets a field that is not set yet to what is read for it. -/
def setField {α : Type} (name : String) (mark : Mark) (old : Option α) (read : Expand α)
    (put : α → Partial) : Expand Partial :=
  if old.isSome then refuseAt (.duplicateField name) mark [] else do pure (put (← read))

/-- Sets the field of a given name from a node. -/
def readField (anchors : Anchors) (mark : Mark) (st : Partial) (name : String) (step : Step)
    (n : Node) : Expand Partial :=
  match name with
  | "max_code_lines" =>
    setField name mark st.maxCodeLines (readNatural anchors "usize" [step] n)
      fun a => { st with maxCodeLines := some a }
  | "max_file_size" =>
    setField name mark st.maxFileSize (readNatural anchors "u64" [step] n)
      fun a => { st with maxFileSize := some a }
  | "min_usage_examples" =>
    setField name mark st.minUsageExamples (readNatural anchors "usize" [step] n)
      fun a => { st with minUsageExamples := some a }
  | "max_decision_tree_depth" =>
    setField name mark st.maxDecisionTreeDepth (readNatural anchors "usize" [step] n)
      fun a => { st with maxDecisionTreeDepth := some a }
  | _ =>
    setField name mark st.recommendedSections (readSections anchors [step] n)
      fun a => { st with recommendedSections := some a }

/-- Sets the fields that the entries of a mapping name. -/
def readEntries (anchors : Anchors) (mark : Mark) : Partial → List (Node × Node) → Expand Partial
  | st, [] => pure st
  | st, (k, v) :: es => do
    let (name, keyMark) ← readText anchors "field identifier" [] k
    if fieldNames.contains name then
      readEntries anchors mark (← readField anchors mark st name (Yaml.stepTo k) v) es
    else refuseAt (.unknownField name fieldNames) keyMark []

/-- The configuration that a node holds; a bare empty scalar sets nothing. -/
def readNode (anchors : Anchors) (n : Node) : Expand Config := do
  match ← anchors.follow n with
  | .mapping p entries => do pure (← readEntries anchors p.mark {} entries).get
  | .scalar _ [] .plain => pure {}
  | n => refuseNode "struct LintConfig" [] n

/-- The configuration in a YAML text. -/
def ofYaml (text : String) : Except Yaml.Error Config := do
  let document := Yaml.Document.ofText text.toList
  match document.root with
  | none => document.finish {}
  | some root =>
    let (config, _) ← (readNode (Anchors.ofRoot root) root).run 0
    document.finish config

end AgentManifest.Lint.Config

namespace AgentManifest.Lint

/-! ## Texts and files -/

/-- The configuration in a text. -/
def Config.ofText (text : String) : Except Yaml.Error Config :=
  if Text.allBlank text.toList then .ok {} else Config.ofYaml text

/-- Why a file gives no configuration. -/
inductive ConfigFailure where
  | unreadable (reason : Files.IoError)
  | invalid (error : Yaml.Error)
  deriving Inhabited

/-- A file that gives no configuration. -/
structure ConfigError where
  path : Files.Path
  failure : ConfigFailure
  deriving Inhabited

/-- The message of a failure. -/
def ConfigError.message (e : ConfigError) : String :=
  match e.failure with
  | .unreadable reason => "cannot read config " ++ e.path.text ++ ": " ++ reason.message
  | .invalid error => "invalid config " ++ e.path.text ++ ": " ++ error.message

/-- The configuration in a file. -/
def Config.ofFile (files : Files.Tree) (p : Files.Path) : Except ConfigError Config :=
  match files.readText p with
  | .error reason => .error { path := p, failure := .unreadable reason }
  | .ok text =>
    match Config.ofText (String.ofList text) with
    | .ok config => .ok config
    | .error error => .error { path := p, failure := .invalid error }

end AgentManifest.Lint
