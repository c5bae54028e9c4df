import AgentManifest.Text.Character
import AgentManifest.Yaml.Token

/-!
# Plain and quoted scalars

Both fold the blanks between the words of a scalar: blanks inside a line are kept, one line break
becomes a space, and of several breaks the first is dropped.
-/

namespace AgentManifest.Yaml

/-- The blanks between two words of a scalar. -/
inductive Gap where
  | inLine (blanks : List Char)
  /-- The first line break, if it was not escaped, and the breaks behind it. -/
  | lines (first : Option Char) (others : List Char)
  deriving DecidableEq, Repr, Inhabited

/-- What a gap stands for. -/
def Gap.fold : Gap → List Char
  | .inLine blanks => blanks
  | .lines none others => others
  | .lines (some first) others =>
    if first = '\n' then (if others.isEmpty then [' '] else others) else first :: others

/-- Whether a gap passes the end of a line. -/
def Gap.isLines : Gap → Bool
  | .inLine _ => false
  | .lines _ _ => true

/-- A gap with one more blank; past the end of a line blanks do not count. -/
def Gap.addBlank (c : Char) : Gap → Gap
  | .inLine blanks => .inLine (blanks ++ [c])
  | gap => gap

/-- A gap with one more line break. -/
def Gap.addBreak (c : Char) : Gap → Gap
  | .inLine _ => .lines (some c) []
  | .lines first others => .lines first (others ++ [c])

/-- Reads on through blanks and line breaks. A blank that `refuses` at its cursor is a fault. -/
def readGap (refuses : Gap → Cursor → Option Fault) :
    Nat → Gap → Cursor → Except Fault (Gap × Cursor)
  | 0, gap, c => .ok (gap, c)
  | fuel + 1, gap, c =>
    match c.rest with
    | [] => .ok (gap, c)
    | ch :: _ =>
      if isBlank ch then
        match refuses gap c with
        | some fault => .error fault
        | none => readGap refuses fuel (gap.addBlank ch) c.skip
      else
        match c.readBreak? with
        | some (b, c) => readGap refuses fuel (gap.addBreak b) c
        | none => .ok (gap, c)

/-! ## Plain scalars -/

/-- The indicators of flow collections that end a word of a plain scalar inside one. -/
def isFlowIndicator (c : Char) : Bool :=
  c == ',' || c == '[' || c == ']' || c == '{' || c == '}'

/-- Whether a word of a plain scalar ends before `c`, behind which `next` stands. -/
def endsPlain (inFlow : Bool) (c : Char) (next : Option Char) : Bool :=
  isBlank c || isBreak c || (c == ':' && next.all fun d => isBlank d || isBreak d) ||
    (inFlow && isFlowIndicator c)

/-- Whether `c` is a colon too close to the indicator behind it. -/
def clashes (inFlow : Bool) (c : Char) (next : Option Char) : Bool :=
  inFlow && c == ':' && next.any fun d => isFlowIndicator d || d == '?'

/-- A word of a plain scalar; `none` where a colon clashes with the character behind it. -/
def plainWord (inFlow : Bool) : List Char → List Char × Bool
  | [] => ([], false)
  | c :: cs =>
    if clashes inFlow c cs.head? then ([], true)
    else if endsPlain inFlow c cs.head? then ([], false)
    else
      let (word, clash) := plainWord inFlow cs
      (c :: word, clash)

/-- A tab in the indentation of a continuation line is refused. -/
def refusesTab (indent : Int) (start : Mark) (gap : Gap) (c : Cursor) : Option Fault :=
  if gap.isLines && decide ((c.mark.column : Int) < indent) && c.isAt 0 '\t' then
    some { problem := .tabIndentation, mark := c.mark, context := some (.plainScalar, start) }
  else none

/-- The words of a plain scalar, behind the characters read so far (last first) and a gap. Also
says whether the end of a line followed the scalar. -/
def plainWords (inFlow : Bool) (indent : Int) (start : Mark) :
    Nat → List Char → Gap → Cursor → Except Fault (List Char × Bool × Cursor)
  | 0, seen, gap, c => .ok (seen, gap.isLines, c)
  | fuel + 1, seen, gap, c =>
    if c.atDocumentMarker || c.isAt 0 '#' then .ok (seen, gap.isLines, c)
    else
      let (word, clash) := plainWord inFlow c.rest
      let c := c.skip word.length
      let seen := if word.isEmpty then seen else word.reverse ++ (gap.fold.reverse ++ seen)
      let gap := if word.isEmpty then gap else .inLine []
      if clash then faultIn .plainScalar start .unexpectedColon c.mark
      else if !c.check 0 (fun ch => isBlank ch || isBreak ch) then .ok (seen, gap.isLines, c)
      else
        match readGap (refusesTab indent start) (c.rest.length + 1) gap c with
        | .error fault => .error fault
        | .ok (gap, c) =>
          if !inFlow && decide ((c.mark.column : Int) < indent) then .ok (seen, gap.isLines, c)
          else plainWords inFlow indent start fuel seen gap c

/-- A plain scalar; `indent` is the least column of its continuation lines. -/
def readPlain (inFlow : Bool) (indent : Int) (c : Cursor) :
    Except Fault (List Char × Bool × Cursor) :=
  match plainWords inFlow indent c.mark (c.rest.length + 1) [] (.inLine []) c with
  | .error fault => .error fault
  | .ok (seen, lineEnded, c) => .ok (seen.reverse, lineEnded, c)

/-! ## Quoted scalars -/

/-- The characters that an escape names by one character. -/
def namedEscape : Char → Option Char
  | '0' => some '\x00'
  | 'a' => some '\x07'
  | 'b' => some '\x08'
  | 't' => some '\t'
  | '\t' => some '\t'
  | 'n' => some '\n'
  | 'v' => some '\x0b'
  | 'f' => some '\x0c'
  | 'r' => some '\r'
  | 'e' => some '\x1b'
  | ' ' => some ' '
  | '"' => some '"'
  | '/' => some '/'
  | '\\' => some '\\'
  | 'N' => some '\u0085'
  | '_' => some '\u00a0'
  | 'L' => some '\u2028'
  | 'P' => some '\u2029'
  | _ => none

/-- How many hexadecimal digits an escape has. -/
def hexEscapeLength : Char → Option Nat
  | 'x' => some 2
  | 'u' => some 4
  | 'U' => some 8
  | _ => none

/-- The value of the first `n` characters, if they are hexadecimal digits. -/
def hexNumber? (n : Nat) (s : List Char) : Option Nat :=
  let digits := s.take n
  if digits.length = n ∧ digits.all Text.isHex then some (Text.hexNumber digits) else none

/-- The character of an escape, read behind its backslash. -/
def readEscape (start : Mark) (c : Cursor) : Except Fault (Char × Cursor) :=
  match c.skip.rest with
  | [] => faultIn .quotedEscape start .unknownEscape c.mark
  | ch :: _ =>
    match namedEscape ch with
    | some ch => .ok (ch, c.skip 2)
    | none =>
      match hexEscapeLength ch with
      | none => faultIn .quotedEscape start .unknownEscape c.mark
      | some n =>
        let c := c.skip 2
        match hexNumber? n c.rest with
        | none => faultIn .quotedEscape start .badHexEscape c.mark
        | some value =>
          if (0xD800 ≤ value ∧ value ≤ 0xDFFF) ∨ 0x10FFFF < value then
            faultIn .quotedEscape start .badCodePoint c.mark
          else .ok (Char.ofNat value, c.skip n)

/-- How a word of a quoted scalar ended. -/
inductive WordEnd where
  | quote
  | gap
  | escapedBreak
  deriving DecidableEq, Repr, Inhabited

/-- A word of a quoted scalar, behind the characters read so far (last first). -/
def quotedWord (quote : Char) (start : Mark) :
    Nat → List Char → Cursor → Except Fault (List Char × WordEnd × Cursor)
  | 0, seen, c => .ok (seen, .gap, c)
  | fuel + 1, seen, c =>
    match c.rest with
    | [] => .ok (seen, .gap, c)
    | ch :: _ =>
      if isBlank ch || isBreak ch then .ok (seen, .gap, c)
      else if quote == '\'' && ch == '\'' && c.isAt 1 '\'' then
        quotedWord quote start fuel ('\'' :: seen) (c.skip 2)
      else if ch == quote then .ok (seen, .quote, c)
      else if quote == '"' && ch == '\\' then
        if c.check 1 isBreak then .ok (seen, .escapedBreak, c.skip.skipBreak)
        else
          match readEscape start c with
          | .error fault => .error fault
          | .ok (ch, c) => quotedWord quote start fuel (ch :: seen) c
      else quotedWord quote start fuel (ch :: seen) c.skip

/-- The words of a quoted scalar up to its closing quote, behind the characters read so far (last
first). -/
def quotedWords (quote : Char) (start : Mark) :
    Nat → List Char → Cursor → Except Fault (List Char × Cursor)
  | 0, seen, c => .ok (seen, c)
  | fuel + 1, seen, c =>
    if c.atDocumentMarker then faultIn .quotedScalar start .documentMarkerInScalar c.mark
    else if c.rest.isEmpty then faultIn .quotedScalar start .unclosedScalar c.mark
    else
      match quotedWord quote start (c.rest.length + 1) seen c with
      | .error fault => .error fault
      | .ok (seen, .quote, c) => .ok (seen, c)
      | .ok (seen, stop, c) =>
        if stop == .escapedBreak && c.isAt 0 quote then .ok (seen, c)
        else
          let gap := if stop == .escapedBreak then .lines none [] else .inLine []
          match readGap (fun _ _ => none) (c.rest.length + 1) gap c with
          | .error fault => .error fault
          | .ok (gap, c) => quotedWords quote start fuel (gap.fold.reverse ++ seen) c

/-- A quoted scalar, from its opening to behind its closing quote. -/
def readQuoted (quote : Char) (c : Cursor) : Except Fault (List Char × Cursor) :=
  match quotedWords quote c.mark (c.rest.length + 1) [] c.skip with
  | .error fault => .error fault
  | .ok (seen, c) => .ok (seen.reverse, c.skip)

end AgentManifest.Yaml
