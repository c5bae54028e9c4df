import AgentManifest.CommandLine.Misuse
import AgentManifest.CommandLine.Reading
import AgentManifest.CommandLine.Run

/-!
# Invocations

What the program does with the words that it is called with: what it writes, what it complains of,
and its exit code. Asked for help, it says what it is and which arguments it has.
-/

namespace AgentManifest.CommandLine

open Files (Tree)

/-! ## Help

In the short form each argument has one line; in the long form its description stands below its
name.
-/

/-- The version of this program. -/
def versionText : String := "llm-yml 0.1.0\n"

/-- What an argument is for. -/
def Argument.purpose (long : Bool) : Argument → String
  | .verbose => "Enable verbose logging. Repeat for more verbosity (-v, -vv, -vvv)"
  | .target => "LLM.yml file, or directory to scan for LLM.yml files"
  | .recursive => "Search every level below TARGET, not just its immediate subdirectories"
  | .quiet => "Only show errors, no warnings"
  | .noBestPractices => "Skip best-practice checks"
  | .format => "Output format"
  | .config => "Lint thresholds file (YAML or JSON)"
  | .schema => "JSON Schema to validate against instead of the built-in one"
  | .help => if long then "Print help (see a summary with '-h')"
    else "Print help (see more with '--help')"
  | .version => "Print version"

/-- What a form of reports is. -/
def OutputFormat.purpose : OutputFormat → String
  | .human => "Human-readable text with colors"
  | .json => "One JSON report for the whole run"

/-- A text filled up with blanks to a width. -/
def padded (width : Nat) (s : String) : String :=
  s ++ String.ofList (List.replicate (width - s.toList.length) ' ')

/-- The letter and the name of an argument, the names below one another. -/
def Argument.label (a : Argument) : String :=
  (match a.short? with
    | some c => String.ofList [' ', ' ', '-', c, ',', ' ']
    | none => "      ") ++ a.text

/-- The form of reports that is chosen if none is asked for. -/
def defaultNote : String := "[default: " ++ OutputFormat.human.name ++ "]"

/-- The line for an argument. -/
def Argument.shortLines (a : Argument) : List String :=
  [padded 27 a.label ++ a.purpose false ++
    match a with
    | .format => " " ++ defaultNote ++ " [possible values: " ++ ", ".intercalate a.choices ++ "]"
    | _ => ""]

/-- The start of a line below the name of an argument. -/
def indent : String := "          "

/-- The lines for an argument, with its choices below. -/
def Argument.longLines (a : Argument) : List String :=
  ["", a.label, indent ++ a.purpose true] ++
    match a with
    | .format =>
      ["", indent ++ "Possible values:"] ++
        OutputFormat.all.map (fun f =>
          indent ++ "- " ++ padded 7 (f.name ++ ":") ++ f.purpose) ++
        [indent, indent ++ defaultNote]
    | _ => []

/-- The lines for the target. -/
def targetLines (long : Bool) : List String :=
  let name := "  " ++ Argument.target.text
  let purpose := Argument.target.purpose long
  if long then [name, indent ++ purpose] else [name ++ "  " ++ purpose]

/-- The help, in long or short form. -/
def helpText (long : Bool) : String :=
  let options := if long then (Argument.named.flatMap Argument.longLines).drop 1
    else Argument.named.flatMap Argument.shortLines
  String.join ((["LLM.yml Validator", "", usageLine [], "", "Arguments:"] ++ targetLines long ++
    ["", "Options:"] ++ options).map (· ++ "\n"))

/-! ## Runs -/

/-- The effects of a call. -/
structure Invocation where
  code : Nat
  output : String
  /-- What is said about the words of the call. -/
  usage? : Option String := none
  /-- What is logged about a run that cannot start. -/
  failure? : Option String := none
  deriving DecidableEq, Repr, Inhabited

/-- The effects of a call that makes no request. -/
def Halt.invocation : Halt → Invocation
  | .help long => { code := 0, output := helpText long }
  | .version => { code := 0, output := versionText }
  | .misuse m => { code := 2, output := "", usage? := some m.message }

/-- The effects of a call. -/
def invoke (color : Bool) (files : Tree) (words : List String) : Invocation :=
  match Request.ofArguments words with
  | .error h => h.invocation
  | .ok r =>
    match run color files r with
    | .ok result => { code := result.code, output := result.output }
    | .error e => { code := 2, output := "", failure? := some e.message }

/-- Whether a setting of the environment is on; it is off if it is zero. -/
def isOn (setting : String) : Bool := setting != "0"

/-- Whether output is in colour, given whether it goes to a terminal and what the environment says
about colour, about forcing it, and about leaving it out. -/
def wantsColor (terminal : Bool) (color? force? none? : Option String) : Bool :=
  if (force?.map isOn).getD false then true
  else if none?.isSome then false
  else (color?.map isOn).getD true && terminal

end AgentManifest.CommandLine
