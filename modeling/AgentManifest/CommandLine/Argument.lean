import AgentManifest.CommandLine.Request

/-!
# Arguments

What can be given on the command line: one target, flags, and options with a value.
-/

namespace AgentManifest.CommandLine

/-- An argument of the command line. -/
inductive Argument where
  | verbose
  | target
  | recursive
  | quiet
  | noBestPractices
  | format
  | config
  | schema
  | help
  | version
  deriving DecidableEq, Repr, Inhabited

namespace Argument

/-- The arguments that have a name, in the order of the help text. -/
def named : List Argument :=
  [verbose, recursive, quiet, noBestPractices, format, config, schema, help, version]

/-- The name behind two dashes. -/
def long : Argument → String
  | verbose => "verbose"
  | target => ""
  | recursive => "recursive"
  | quiet => "quiet"
  | noBestPractices => "no-best-practices"
  | format => "format"
  | config => "config"
  | schema => "schema"
  | help => "help"
  | version => "version"

/-- The letter behind one dash. -/
def short? : Argument → Option Char
  | verbose => some 'v'
  | recursive => some 'r'
  | quiet => some 'q'
  | help => some 'h'
  | version => some 'V'
  | _ => none

/-- What stands for the value in messages. -/
def valueName? : Argument → Option String
  | target => some "TARGET"
  | format => some "FORMAT"
  | config | schema => some "PATH"
  | _ => none

/-- Whether the argument has a value. -/
def takesValue (a : Argument) : Bool := a.valueName?.isSome

/-- The values to choose from, if there is a choice. -/
def choices : Argument → List String
  | format => OutputFormat.all.map OutputFormat.name
  | _ => []

/-- The argument with a name. -/
def ofLong? (name : String) : Option Argument := named.find? fun a => a.long == name

/-- The argument with a letter. -/
def ofShort? (c : Char) : Option Argument := named.find? fun a => a.short? == some c

/-- An argument in messages. -/
def text (a : Argument) : String :=
  match a with
  | target => "<TARGET>"
  | verbose => "--verbose..."
  | a =>
    match a.valueName? with
    | some value => "--" ++ a.long ++ " <" ++ value ++ ">"
    | none => "--" ++ a.long

end Argument
end AgentManifest.CommandLine
