import AgentManifest.Text.Utf8
import AgentManifest.Yaml.Error

/-!
# Tokens of YAML

The indicators, scalars and node properties that a text is made of, and the indentation made
explicit: a block collection starts and ends with a token of its own.
-/

namespace AgentManifest.Yaml

/-!
## Styles of scalars

How a scalar is written down. Only a plain one speaks for itself; all others are text, unless a tag
says otherwise.
-/

/-- The ways of writing a scalar. -/
inductive Style where
  | plain
  | quoted
  | literal
  | folded
  deriving DecidableEq, Repr, Inhabited

/-- What a token is. -/
inductive TokenKind where
  | streamStart
  | streamEnd
  | version (major minor : Nat)
  | tagHandle (handle : List Char) (meaning : Text.Bytes)
  | documentStart
  | documentEnd
  | blockSequenceStart
  | blockMappingStart
  | blockEnd
  | flowSequenceStart
  | flowSequenceEnd
  | flowMappingStart
  | flowMappingEnd
  | blockEntry
  | flowEntry
  | key
  | value
  | alias (name : List Char)
  | anchor (name : List Char)
  | tag (handle : List Char) (suffix : Text.Bytes)
  | scalar (text : List Char) (style : Style)
  deriving DecidableEq, Repr, Inhabited

/-- A token with the marks at which it starts and ends. -/
structure Token where
  kind : TokenKind
  start : Mark
  stop : Mark
  deriving DecidableEq, Repr, Inhabited

/-- A fault inside a construct. -/
def faultIn {α : Type} (construct : Construct) (start : Mark) (problem : Problem) (at' : Mark) :
    Except Fault α :=
  .error { problem, mark := at', context := some (construct, start) }

/-- A fault that stands for itself. -/
def faultAt {α : Type} (problem : Problem) (at' : Mark) : Except Fault α :=
  .error { problem, mark := at', context := none }

end AgentManifest.Yaml
