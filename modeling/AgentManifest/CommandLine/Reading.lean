import AgentManifest.CommandLine.Misuse

/-!
# Reading arguments

Words are read from the left. An option without an equals sign takes the next word that is not
itself an option for its value; two dashes end the options. The value of an argument is looked at
when the next argument is met or the words end.
-/

namespace AgentManifest.CommandLine

open Files (Path)

/-- What ends the reading of arguments without a request. -/
inductive Halt where
  | help (long : Bool)
  | version
  | misuse (m : Misuse)
  deriving DecidableEq, Repr, Inhabited

/-- What was read so far. -/
structure Progress where
  /-- The arguments that were given, in order. -/
  given : List Argument := []
  target? : Option Path := none
  recursive : Bool := false
  quiet : Bool := false
  bestPractices : Bool := true
  format : OutputFormat := .human
  config? : Option Path := none
  schema? : Option Path := none
  verbosity : Nat := 0
  /-- An argument whose value has not been looked at, and the value if it was met. -/
  pending : Option (Argument × Option String) := none
  /-- Whether the target was met. -/
  targetMet : Bool := false
  /-- Whether two dashes were met. -/
  onlyTargets : Bool := false
  deriving Inhabited

namespace Progress

/-- Whether a value suits an argument. -/
def suits (a : Argument) (value : String) : Bool :=
  match a with
  | .format => (OutputFormat.ofName? value).isSome
  | _ => !value.isEmpty

/-- The count at which further demands for more to be logged are passed over. -/
def maxVerbosity : Nat := 255

/-- Records a value of an argument. -/
def record (p : Progress) (a : Argument) (value : String) : Progress :=
  match a with
  | .target => { p with target? := some (Path.ofString value) }
  | .config => { p with config? := some (Path.ofString value) }
  | .schema => { p with schema? := some (Path.ofString value) }
  | .format => { p with format := (OutputFormat.ofName? value).getD p.format }
  | .recursive => { p with recursive := true }
  | .quiet => { p with quiet := true }
  | .noBestPractices => { p with bestPractices := false }
  | .verbose => { p with verbosity := min (p.verbosity + 1) maxVerbosity }
  | .help | .version => p

/-- An occurrence of an argument, with what is wrong with it. An argument that is wrong is still
given, unless it is given a second time or lacks its value. -/
def occur (p : Progress) (a : Argument) (value? : Option String) : Progress × Option Misuse :=
  if a.takesValue && value?.isNone then (p, some (.badValue a ""))
  else if a != .verbose && p.given.contains a then
    ({ p with given := p.given.erase a }, some (.repeated a))
  else
    let q := { p with given := p.given.erase a ++ [a] }
    let value := value?.getD ""
    if a.takesValue && !suits a value then (q, some (.badValue a value))
    else (q.record a value, none)

/-- Looks at the value that is pending. -/
def settle (p : Progress) : Progress × Option Misuse :=
  match p.pending with
  | none => (p, none)
  | some (a, value?) => { p with pending := none }.occur a value?

/-- Looks at the value that is pending, or stops. -/
def settled (p : Progress) : Except Halt Progress :=
  match p.settle with
  | (q, none) => .ok q
  | (_, some m) => .error (.misuse m)

/-- An occurrence of an argument after what is pending. -/
def accept (p : Progress) (a : Argument) (isLong : Bool) (value? : Option String) :
    Except Halt Progress :=
  match p.settled with
  | .error h => .error h
  | .ok q =>
    match a with
    | .help => .error (.help isLong)
    | .version => .error .version
    | a =>
      match q.occur a value? with
      | (r, none) => .ok r
      | (_, some m) => .error (.misuse m)

/-- The options that were given. -/
def givenOptions (p : Progress) : List Argument := p.given.filter (· != .target)

/-- A name that no argument has. -/
def readUnknown (p : Progress) (name : String) : Halt :=
  let q := p.settle.1
  let similar? :=
    (Text.mostSimilar? name (Argument.named.map Argument.long)).bind Argument.ofLong?
  let used :=
    match similar? with
    | some a => if q.given.contains a then q.givenOptions else q.givenOptions ++ [a]
    | none => q.givenOptions
  .misuse (.unknown ("--" ++ name) similar? used)

/-- A word behind two dashes: a name, and a value behind an equals sign. -/
def readLong (p : Progress) (word : List Char) : Except Halt Progress :=
  let front := word.takeWhile (· != '=')
  let name := String.ofList front
  let value? :=
    match word.drop front.length with
    | _ :: value => some (String.ofList value)
    | [] => none
  match Argument.ofLong? name, value? with
  | none, _ => .error (p.readUnknown name)
  | some a, none =>
    if a.takesValue then
      match p.settled with
      | .ok q => .ok { q with pending := some (a, none) }
      | .error h => .error h
    else p.accept a true none
  | some a, some value =>
    if a.takesValue then p.accept a true (some value)
    else .error (.misuse (.surplusValue a value (p.givenOptions ++ [a])))

/-- The letters behind one dash. -/
def readShorts (p : Progress) : List Char → Except Halt Progress
  | [] => .ok p
  | c :: cs =>
    match Argument.ofShort? c with
    | none => .error (.misuse (.unknown (String.ofList ['-', c]) none []))
    | some a =>
      match p.accept a false none with
      | .ok q => readShorts q cs
      | .error h => .error h

/-- A word that is no option. -/
def readTarget (p : Progress) (word : String) : Except Halt Progress :=
  if p.targetMet then .error (.misuse (.extra word))
  else
    match p.settled with
    | .ok q => .ok { q with pending := some (.target, some word), targetMet := true }
    | .error h => .error h

/-- A word that is no option, or the value of the option before it. -/
def readValue (p : Progress) (word : String) : Except Halt Progress :=
  match p.pending with
  | some (a, none) => .ok { p with pending := some (a, some word) }
  | _ => p.readTarget word

/-- One word. -/
def read (p : Progress) (word : String) : Except Halt Progress :=
  if p.onlyTargets then p.readTarget word
  else
    match word.toList with
    | ['-', '-'] => .ok { p with onlyTargets := true }
    | '-' :: '-' :: rest => p.readLong rest
    | '-' :: c :: rest => p.readShorts (c :: rest)
    | _ => p.readValue word

/-- The words from the left. -/
def readAll (p : Progress) : List String → Except Halt Progress
  | [] => .ok p
  | word :: words =>
    match p.read word with
    | .ok q => readAll q words
    | .error h => .error h

/-- The request that was read. -/
def finish (p : Progress) : Except Halt Request :=
  match p.settled with
  | .error h => .error h
  | .ok q =>
    match q.target? with
    | none => .error (.misuse (.missingTarget q.givenOptions))
    | some target =>
      .ok { target, recursive := q.recursive, quiet := q.quiet, bestPractices := q.bestPractices,
            format := q.format, config? := q.config?, schema? := q.schema?,
            verbosity := q.verbosity }

end Progress

/-- The request that some words make. -/
def Request.ofArguments (words : List String) : Except Halt Request :=
  match ({} : Progress).readAll words with
  | .ok p => p.finish
  | .error h => .error h

end AgentManifest.CommandLine
