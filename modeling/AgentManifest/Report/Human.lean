import AgentManifest.Report.Outcome

/-!
# Reports for people

One block of lines for each file, with a heading and a closing line around those of a directory.
The lines are made of fragments, some of which have a style. In colour a style is switched on by an
escape sequence before the fragment and off behind it; otherwise the fragments stand as they are.
-/

namespace AgentManifest.Report

open Files (Path)

/-! ## Styled text -/

/-- A way to make text stand out. -/
inductive Style where
  | blue
  | green
  | yellow
  | red
  | dimmed
  deriving DecidableEq, Repr, Inhabited

namespace Style

/-- The number that stands for a style. -/
def number : Style → List Char
  | blue => ['3', '4']
  | green => ['3', '2']
  | yellow => ['3', '3']
  | red => ['3', '1']
  | dimmed => ['2']

/-- The sequence that switches a style on. -/
def switchOn (s : Style) : List Char := '\x1b' :: '[' :: (s.number ++ ['m'])

/-- The sequence that switches all styles off. -/
def switchOff : List Char := ['\x1b', '[', '0', 'm']

/-- A text in which the style is switched on again wherever the text switches it off. -/
def restore (s : Style) : List Char → List Char
  | '\x1b' :: '[' :: '0' :: 'm' :: rest => switchOff ++ (s.switchOn ++ restore s rest)
  | c :: rest => c :: restore s rest
  | [] => []

/-- A text in a style. -/
def paint (s : Style) (text : List Char) : List Char :=
  s.switchOn ++ (s.restore text ++ switchOff)

end Style

/-- A piece of a line. -/
inductive Fragment where
  | plain (text : String)
  | styled (s : Style) (text : String)
  deriving DecidableEq, Repr, Inhabited

/-- The characters of a piece. -/
def Fragment.write (color : Bool) : Fragment → List Char
  | .plain text => text.toList
  | .styled s text => if color then s.paint text.toList else text.toList

/-- A line of text. -/
abbrev Line := List Fragment

/-- The characters of a line, with its end. -/
def Line.write (color : Bool) (l : Line) : List Char :=
  l.flatMap (Fragment.write color) ++ ['\n']

/-- The text of some lines. -/
def Line.render (color : Bool) (lines : List Line) : String :=
  String.ofList (lines.flatMap (Line.write color))

/-! ## Blocks -/

/-- A number in running text. -/
def natText (n : Nat) : String := Decimal.natString n

/-- The heading of a directory. -/
def scanHeader (dir : Path) : Line :=
  [.styled .blue "Scanning directory:", .plain (" " ++ dir.text)]

/-- The notice that a directory has no manifests. -/
def noFiles : Line := [.styled .yellow "No LLM.yml files found"]

/-- The style of a severity. -/
def Severity.style : Severity → Style
  | .minor => .dimmed
  | .moderate => .yellow

/-- A warning on one line. -/
def Warning.line (w : Warning) : Line :=
  [.plain "  ", .styled w.severity.style ("[" ++ w.severity.name ++ "]"), .plain (" " ++ w.message)]

/-- A violation, with its parameters on a line of their own. -/
def Violation.lines (v : Violation) : List Line :=
  [.plain "  ", .styled .yellow v.path, .plain (": " ++ v.message)] ::
    match v.params with
    | some ms => [[.plain "  ", .styled .dimmed ("Details: " ++ (Json.Value.object ms).compact)]]
    | none => []

/-- What is said of a verdict. -/
def Verdict.lines (v : Verdict) : List Line :=
  if v.isValid then
    [.styled .green "✓ Valid LLM.yml file"] ::
      if v.warnings.isEmpty then []
      else [] :: [.styled .yellow "⚠ Best Practice Warnings:"] :: v.warnings.map Warning.line
  else [.styled .red "✗ Schema Validation Failed:"] :: v.errors.flatMap Violation.lines

/-- What is said of a text that gives no manifest. -/
def Complaint.lines (c : Complaint) : List Line :=
  [.styled .red "✗ Parse Error:", .plain (" " ++ c.message)] ::
    match c.line?, c.column? with
    | some line, some column =>
      [[.plain "  ",
        .styled .dimmed ("at line " ++ natText line ++ ", column " ++ natText column)]]
    | _, _ => []

/-- The block of lines for one file. -/
def Outcome.lines (o : Outcome) : List Line :=
  [] :: [.styled .blue "Validating:", .plain (" " ++ o.path.text)] ::
    match o with
    | .checked _ verdict => verdict.lines
    | .unread _ message => [[.styled .red "✗ Error:", .plain (" " ++ message)]]
    | .malformed _ complaint => complaint.lines

/-- The closing lines of a directory. -/
def Summary.lines (s : Summary) : List Line :=
  [[], [.styled .blue "Summary:",
    .plain (" " ++ natText s.valid ++ "/" ++ natText s.total ++ " file(s) valid")]]

end AgentManifest.Report
