import AgentManifest.Decimal.Binary64
import AgentManifest.CommandLine.Argument

/-!
# Misuse

What is said of arguments that make no request. A word that is no argument may be meant for one that
is similar.
-/

namespace AgentManifest.Text

open Decimal (Binary64)

/-! ## Similar words

How much two words have in common. Characters are common if they stand at most half the longer
word apart; each counts once. The measure is the mean of the shares of common characters in either
word and of the share of those that come in the same order.
-/

/-- A word in which some characters are taken. -/
abbrev Taken := List (Char × Bool)

/-- Takes the first free occurrence of a character between two places, counted from one on. -/
def take? (c : Char) (first last : Nat) : Nat → Taken → Option Taken
  | _, [] => none
  | i, (d, taken) :: rest =>
    if last ≤ i then none
    else if first ≤ i ∧ c = d ∧ taken = false then some ((d, true) :: rest)
    else (take? c first last (i + 1) rest).map ((d, taken) :: ·)

/-- The characters of a word that are common with another, whose characters are taken on the way,
given how far apart they may stand. -/
def common (reach : Nat) : Nat → List Char → Taken → List Char × Taken
  | _, [], b => ([], b)
  | i, c :: a, b =>
    match take? c (i - reach) (i + reach + 1) 0 b with
    | some b =>
      let (found, b) := common reach (i + 1) a b
      (c :: found, b)
    | none => common reach (i + 1) a b

/-- The share of a part in a whole. -/
def share (part whole : Nat) : Binary64 := (Binary64.ofInt part).div (Binary64.ofInt whole)

/-- How similar two words are, from zero to one. -/
def similarity (a b : List Char) : Binary64 :=
  if a.isEmpty && b.isEmpty then Binary64.ofInt 1
  else
    let (inA, b') := common (max a.length b.length / 2 - 1) 0 a (b.map fun c => (c, false))
    let inB := (b'.filter Prod.snd).map Prod.fst
    let n := inA.length
    if n = 0 then Binary64.ofInt 0
    else
      let moved := (inA.zip inB).countP fun p => p.1 != p.2
      ((share n a.length).add (share n b.length)).add (share (n - moved / 2) n) |>.div
        (Binary64.ofInt 3)

/-- How similar words have to be to be taken for one another: more than seven tenths. -/
def similarEnough (s : Binary64) : Bool := (Binary64.round false 7 10).lt s

/-- The word of a list that is most similar to another, if one is similar enough; of several the
last. -/
def mostSimilar? (word : String) (words : List String) : Option String :=
  (words.foldl (fun (best : Option (Binary64 × String)) w =>
    let s := similarity word.toList w.toList
    match best with
    | some (t, _) => if similarEnough s && !s.lt t then some (s, w) else best
    | none => if similarEnough s then some (s, w) else none) none).map Prod.snd

end AgentManifest.Text

namespace AgentManifest.CommandLine

/-! ## Messages -/

/-- Why arguments make no request. Some reasons come with the arguments found so far. -/
inductive Misuse where
  | missingTarget (used : List Argument)
  /-- A value that the argument cannot have; the empty text stands for no value, too. -/
  | badValue (a : Argument) (value : String)
  /-- A value for an argument that has none. -/
  | surplusValue (a : Argument) (value : String) (used : List Argument)
  | repeated (a : Argument)
  /-- An argument that there is not, and one that may be meant. -/
  | unknown (word : String) (similar? : Option Argument) (used : List Argument)
  /-- A second target. -/
  | extra (word : String)
  deriving DecidableEq, Repr, Inhabited

/-- The line that shows how arguments are given: those in use, or a summary. -/
def usageLine (used : List Argument) : String :=
  let options :=
    match used with
    | [] => ["[OPTIONS]"]
    | used => ((used.filter (· != .target)).eraseDups).map Argument.text
  "Usage: " ++ " ".intercalate ("llm-yml" :: (options ++ [Argument.target.text]))

/-- The hint at a similar word. -/
def similarTip (kind word : String) : String :=
  "\n\n  tip: a similar " ++ kind ++ " exists: '" ++ word ++ "'"

/-- The hint at how to give a target that starts with a dash. -/
def dashTip (word : String) : String :=
  "\n\n  tip: to pass '" ++ word ++ "' as a value, use '-- " ++ word ++ "'"

/-- The values to choose from. -/
def choiceText (a : Argument) : String :=
  match a.choices with
  | [] => ""
  | choices => "\n  [possible values: " ++ ", ".intercalate choices ++ "]"

namespace Misuse

/-- What is wrong, with a hint at what may be meant. -/
def reason : Misuse → String
  | missingTarget _ =>
    "the following required arguments were not provided:\n  " ++ Argument.target.text
  | badValue a value =>
    (if value.isEmpty then "a value is required for '" ++ a.text ++ "' but none was supplied"
      else "invalid value '" ++ value ++ "' for '" ++ a.text ++ "'") ++ choiceText a ++
      match Text.mostSimilar? value a.choices with
      | some choice => similarTip "value" choice
      | none => ""
  | surplusValue a value _ =>
    "unexpected value '" ++ value ++ "' for '" ++ a.text ++ "' found; no more were expected"
  | repeated a => "the argument '" ++ a.text ++ "' cannot be used multiple times"
  | unknown word similar? _ =>
    "unexpected argument '" ++ word ++ "' found" ++
      match similar? with
      | some a => similarTip "argument" ("--" ++ a.long)
      | none => dashTip word
  | extra word => "unexpected argument '" ++ word ++ "' found"

/-- The arguments that the usage line shows, where there is one. -/
def shown? : Misuse → Option (List Argument)
  | missingTarget used => some (used ++ [.target])
  | badValue _ _ => none
  | surplusValue _ _ used => some used
  | repeated _ => some []
  | unknown _ _ used => some used
  | extra _ => some []

/-- The whole message. -/
def message (m : Misuse) : String :=
  "error: " ++ m.reason ++
    (match m.shown? with
      | some used => "\n\n" ++ usageLine used
      | none => "") ++
    "\n\nFor more information, try '--help'.\n"

end Misuse

end AgentManifest.CommandLine
