import AgentManifest.Text.Character
import AgentManifest.Yaml.Error
import AgentManifest.Yaml.Token.Block
import AgentManifest.Yaml.Token.Property

/-!
# From text to tokens

A scanner is the state between two tokens. A key of a mapping is known only by the colon behind
it, so the start of a possible key is remembered and the key token put in afterwards; tokens are
held back as long as one may still go in front of them.
-/

namespace AgentManifest.Yaml

/-!
## Portions

A text is taken in in portions, and what may not stand in a text is refused as soon as the portion
with it is needed. So a fault in front of that portion comes first, and one inside it does not.
-/

/-- Whether a character may stand in a text. -/
def isAllowed (c : Char) : Bool :=
  let n := c.toNat
  n == 0x09 || n == 0x0A || n == 0x0D || (decide (0x20 ≤ n) && decide (n ≤ 0x7E)) || n == 0x85 ||
    (decide (0xA0 ≤ n) && decide (n ≤ 0xD7FF)) || (decide (0xE000 ≤ n) && decide (n ≤ 0xFFFD)) ||
    decide (0x10000 ≤ n)

/-- The number of bytes in a portion, which ends in front of a character that does not fit. -/
def portionSize : Nat := 16384

/-- How many characters stand in the portions in front of the one with the `n`th character of a
text, of which `count` are passed, `start` of them in front of the portion at hand, which has room
for so many bytes more. -/
def portionStart (n : Nat) (start count room : Nat) : List Char → Nat
  | [] => start
  | c :: cs =>
    let fits := decide (c.utf8Size ≤ room)
    let start := if fits then start else count
    let room := if fits then room else portionSize
    if count = n then start else portionStart n start (count + 1) (room - c.utf8Size) cs

/-- The part of a text that can be taken in, and what is wrong with the portion behind it. -/
structure Intake where
  text : List Char
  fault : Option Fault
  deriving Repr, Inhabited

/-- Takes in a text. -/
def Intake.of (text : List Char) : Intake :=
  let sound := text.takeWhile isAllowed
  if sound.length = text.length then { text, fault := none }
  else
    { text := text.take (portionStart sound.length 0 0 portionSize text),
      fault := some
        { problem := .controlCharacter (Text.byteLength sound), mark := Mark.start,
          context := none } }

/-- The start of what may turn out to be a key. -/
structure PossibleKey where
  /-- The number of the token that a key token would go in front of. -/
  number : Nat
  mark : Mark
  /-- Whether nothing else than a key can stand here. -/
  required : Bool
  deriving DecidableEq, Repr, Inhabited

/-- The longest key, in bytes, that needs no indicator. -/
def maxKeyLength : Nat := 1024

/-- The state between two tokens. -/
structure Scanner where
  cursor : Cursor
  /-- The tokens found so far, the last one first. -/
  tokens : List Token
  count : Nat
  /-- The possible key of the innermost collection. -/
  key : Option PossibleKey
  /-- The possible keys of the collections around, one for each flow collection. -/
  outerKeys : List (Option PossibleKey)
  indent : Int
  outerIndents : List Int
  keyAllowed : Bool
  deriving Repr, Inhabited

namespace Scanner

/-- The scanner at the start of a text. -/
def start (text : List Char) : Scanner :=
  { cursor := { rest := text, mark := Mark.start },
    tokens := [{ kind := .streamStart, start := Mark.start, stop := Mark.start }],
    count := 1, key := none, outerKeys := [], indent := -1, outerIndents := [], keyAllowed := true }

/-- Whether the cursor is inside a flow collection. -/
def inFlow (s : Scanner) : Bool := !s.outerKeys.isEmpty

/-- Adds a token at the end. -/
def push (s : Scanner) (token : Token) : Scanner :=
  { s with tokens := token :: s.tokens, count := s.count + 1 }

/-- Adds a token that takes no text. -/
def pushEmpty (s : Scanner) (kind : TokenKind) : Scanner :=
  s.push { kind, start := s.cursor.mark, stop := s.cursor.mark }

/-- Adds a token for the text between the scanner's cursor and a later one. -/
def pushTo (s : Scanner) (kind : TokenKind) (next : Cursor) : Scanner :=
  { s.push { kind, start := s.cursor.mark, stop := next.mark } with cursor := next }

/-- Adds a token of `n` characters. -/
def pushIndicator (s : Scanner) (kind : TokenKind) (n : Nat := 1) : Scanner :=
  s.pushTo kind (s.cursor.skip n)

/-- Puts a token without text in front of the token of a given number. -/
def insertAt (s : Scanner) (number : Nat) (kind : TokenKind) (mark : Mark) : Scanner :=
  { s with
    tokens := s.tokens.insertIdx (s.count - number) { kind, start := mark, stop := mark },
    count := s.count + 1 }

/-! ## Possible keys -/

/-- Whether a key that starts at a mark can no longer end at the cursor. -/
def isStale (s : Scanner) (k : PossibleKey) : Bool :=
  decide (k.mark.line < s.cursor.mark.line) ||
    decide (k.mark.index + maxKeyLength < s.cursor.mark.index)

/-- Forgets a possible key; a required one must not be forgotten. -/
def forget (s : Scanner) : Option PossibleKey → Except Fault (Option PossibleKey)
  | none => .ok none
  | some k =>
    if k.required then faultIn .simpleKey k.mark .missingColon s.cursor.mark else .ok none

/-- Forgets a possible key that is stale. -/
def refresh (s : Scanner) : Option PossibleKey → Except Fault (Option PossibleKey)
  | none => .ok none
  | some k => if s.isStale k then s.forget (some k) else .ok (some k)

/-- Forgets all stale keys, those of outer collections first. -/
def dropStale (s : Scanner) : Except Fault Scanner := do
  let outer ← s.outerKeys.reverse.mapM s.refresh
  let key ← s.refresh s.key
  .ok { s with key, outerKeys := outer.reverse }

/-- Forgets the possible key of the innermost collection. -/
def dropKey (s : Scanner) : Except Fault Scanner := do
  .ok { s with key := ← s.forget s.key }

/-- Remembers that a key may start at the cursor. -/
def saveKey (s : Scanner) : Except Fault Scanner :=
  if s.keyAllowed then do
    let _ ← s.forget s.key
    let required := !s.inFlow && s.indent == (s.cursor.mark.column : Int)
    .ok { s with key := some { number := s.count, mark := s.cursor.mark, required } }
  else .ok s

/-- The number of the first token that a key may still go in front of; without one, the number of
the next token. -/
def settled (s : Scanner) : Nat :=
  (s.key :: s.outerKeys).foldl (fun n k => k.elim n fun k => min n k.number) s.count

/-! ## Indentation -/

/-- Starts a block collection at a column that is further in than the current one; `number` gives
the token in front of which it starts, if not the next one. -/
def indentTo (s : Scanner) (column : Nat) (number : Option Nat) (kind : TokenKind) (mark : Mark) :
    Scanner :=
  if s.inFlow then s
  else if s.indent < (column : Int) then
    let s := { s with outerIndents := s.indent :: s.outerIndents, indent := column }
    match number with
    | none => s.push { kind, start := mark, stop := mark }
    | some number => s.insertAt number kind mark
  else s

/-- Ends the block collections that are further in than a column. -/
def closeTo (column : Int) : List Int → Scanner → Scanner
  | [], s => s
  | outer :: others, s =>
    if column < s.indent then
      closeTo column others { s.pushEmpty .blockEnd with indent := outer, outerIndents := others }
    else s

/-- Ends the block collections that are further in than a column, outside flow collections. -/
def dedentTo (s : Scanner) (column : Int) : Scanner :=
  if s.inFlow then s else closeTo column s.outerIndents s

/-! ## Blanks and comments -/

/-- Steps over blanks, comments and line breaks; a new line may start a key in block context.
Tabs count as blanks only where no key may start. -/
def skipToToken : Nat → Scanner → Scanner
  | 0, s => s
  | fuel + 1, s =>
    let c := s.cursor
    let c := if c.mark.column == 0 && c.isAt 0 '\uFEFF' then c.skip else c
    let tabs := s.inFlow || !s.keyAllowed
    let c := (c.skipWhile fun ch => ch == ' ' || (tabs && ch == '\t')).skipComment
    match c.readBreak? with
    | none => { s with cursor := c }
    | some (_, c) =>
      skipToToken fuel { s with cursor := c, keyAllowed := s.keyAllowed || !s.inFlow }

/-! ## Tokens by kind -/

/-- The end of the text. -/
def streamEnd (s : Scanner) : Except Fault Scanner := do
  let m := s.cursor.mark
  let m := if m.column = 0 then m else { m with line := m.line + 1, column := 0 }
  let s := { s with cursor := { s.cursor with mark := m } }
  let s ← (s.dedentTo (-1)).dropKey
  .ok ({ s with keyAllowed := false }.pushEmpty .streamEnd)

/-- A directive. -/
def directive (s : Scanner) : Except Fault Scanner := do
  let s ← (s.dedentTo (-1)).dropKey
  let (kind, stop, next) ← readDirective s.cursor
  .ok { s.push { kind, start := s.cursor.mark, stop } with cursor := next, keyAllowed := false }

/-- A marker line of a document. -/
def documentMarker (s : Scanner) (kind : TokenKind) : Except Fault Scanner := do
  let s ← (s.dedentTo (-1)).dropKey
  .ok ({ s with keyAllowed := false }.pushIndicator kind 3)

/-- The start of a flow collection. -/
def flowStart (s : Scanner) (kind : TokenKind) : Except Fault Scanner := do
  let s ← s.saveKey
  .ok ({ s with key := none, outerKeys := s.key :: s.outerKeys, keyAllowed := true }.pushIndicator
    kind)

/-- The end of a flow collection. -/
def flowEnd (s : Scanner) (kind : TokenKind) : Except Fault Scanner := do
  let s ← s.dropKey
  let s :=
    match s.outerKeys with
    | [] => s
    | key :: others => { s with key, outerKeys := others }
  .ok ({ s with keyAllowed := false }.pushIndicator kind)

/-- A comma in a flow collection. -/
def flowEntry (s : Scanner) : Except Fault Scanner := do
  let s ← s.dropKey
  .ok ({ s with keyAllowed := true }.pushIndicator .flowEntry)

/-- The dash of an entry of a block sequence. -/
def blockEntry (s : Scanner) : Except Fault Scanner := do
  let mark := s.cursor.mark
  if !s.inFlow && !s.keyAllowed then faultAt .blockEntryNotAllowed mark
  else
    let s ← (s.indentTo mark.column none .blockSequenceStart mark).dropKey
    .ok ({ s with keyAllowed := true }.pushIndicator .blockEntry)

/-- The question mark in front of a key. -/
def explicitKey (s : Scanner) : Except Fault Scanner := do
  let mark := s.cursor.mark
  if !s.inFlow && !s.keyAllowed then faultAt .keyNotAllowed mark
  else
    let s ← (s.indentTo mark.column none .blockMappingStart mark).dropKey
    .ok ({ s with keyAllowed := !s.inFlow }.pushIndicator .key)

/-- The colon in front of a value; what stands before it may thereby become a key. -/
def mappingValue (s : Scanner) : Except Fault Scanner :=
  match s.key with
  | some k =>
    let s := s.insertAt k.number .key k.mark
    let s := s.indentTo k.mark.column (some k.number) .blockMappingStart k.mark
    .ok ({ s with key := none, keyAllowed := false }.pushIndicator .value)
  | none =>
    let mark := s.cursor.mark
    if !s.inFlow && !s.keyAllowed then faultAt .valueNotAllowed mark
    else
      let s := s.indentTo mark.column none .blockMappingStart mark
      .ok ({ s with keyAllowed := !s.inFlow }.pushIndicator .value)

/-- An anchor or an alias. -/
def anchor (s : Scanner) (construct : Construct) (kind : List Char → TokenKind) :
    Except Fault Scanner := do
  let s ← s.saveKey
  let (name, next) ← readAnchorName construct s.cursor
  .ok ({ s with keyAllowed := false }.pushTo (kind name) next)

/-- A tag. -/
def tag (s : Scanner) : Except Fault Scanner := do
  let s ← s.saveKey
  let (handle, suffix, next) ← readTag s.inFlow s.cursor
  .ok ({ s with keyAllowed := false }.pushTo (.tag handle suffix) next)

/-- A block scalar. -/
def blockScalar (s : Scanner) (folded : Bool) : Except Fault Scanner := do
  let s ← s.dropKey
  let (text, next) ← readBlockScalar folded s.indent s.cursor
  let style : Style := if folded then .folded else .literal
  .ok ({ s with keyAllowed := true }.pushTo (.scalar text style) next)

/-- A quoted scalar. -/
def quotedScalar (s : Scanner) (quote : Char) : Except Fault Scanner := do
  let s ← s.saveKey
  let (text, next) ← readQuoted quote s.cursor
  .ok ({ s with keyAllowed := false }.pushTo (.scalar text .quoted) next)

/-- A plain scalar; a key may start on the line behind it. -/
def plainScalar (s : Scanner) : Except Fault Scanner := do
  let s ← s.saveKey
  let (text, lineEnded, next) ← readPlain s.inFlow (s.indent + 1) s.cursor
  .ok ({ s with keyAllowed := lineEnded }.pushTo (.scalar text .plain) next)

/-- The characters that cannot start a plain scalar. -/
def isIndicator (c : Char) : Bool := "-?:,[]{}#&*!|>'\"%@`".toList.contains c

/-- Whether a plain scalar starts at the cursor. -/
def plainStarts (s : Scanner) (ch : Char) : Bool :=
  !(isBlank ch || isBreak ch || isIndicator ch) ||
    (ch == '-' && !s.cursor.check 1 isBlank) ||
    (!s.inFlow && (ch == '?' || ch == ':') && !s.cursor.gapAt 1)

/-- The token that starts with a given character. -/
def tokenAt (s : Scanner) (ch : Char) : Except Fault Scanner :=
  let c := s.cursor
  if ch == '%' && c.mark.column == 0 then s.directive
  else if c.atDocumentMarker then
    s.documentMarker (if ch == '-' then .documentStart else .documentEnd)
  else if ch == '[' then s.flowStart .flowSequenceStart
  else if ch == '{' then s.flowStart .flowMappingStart
  else if ch == ']' then s.flowEnd .flowSequenceEnd
  else if ch == '}' then s.flowEnd .flowMappingEnd
  else if ch == ',' then s.flowEntry
  else if ch == '-' && c.gapAt 1 then s.blockEntry
  else if ch == '?' && (s.inFlow || c.gapAt 1) then s.explicitKey
  else if ch == ':' && (s.inFlow || c.gapAt 1) then s.mappingValue
  else if ch == '*' then s.anchor .alias .alias
  else if ch == '&' then s.anchor .anchor .anchor
  else if ch == '!' then s.tag
  else if ch == '|' && !s.inFlow then s.blockScalar false
  else if ch == '>' && !s.inFlow then s.blockScalar true
  else if ch == '\'' then s.quotedScalar '\''
  else if ch == '"' then s.quotedScalar '"'
  else if s.plainStarts ch then s.plainScalar
  else faultIn .nextToken c.mark .badTokenStart c.mark

/-- Finds the next token. -/
def step (s : Scanner) : Except Fault Scanner := do
  let s ← (skipToToken (s.cursor.rest.length + 1) s).dropStale
  let s := s.dedentTo s.cursor.mark.column
  match s.cursor.head? with
  | none => s.streamEnd
  | some ch => s.tokenAt ch

/-- Whether the last token is the end of the text. -/
def ended (s : Scanner) : Bool :=
  match s.tokens with
  | token :: _ => token.kind == .streamEnd
  | [] => false

end Scanner

/-- The tokens of a text up to its end, or up to the fault behind them. -/
structure Tokens where
  tokens : List Token
  fault : Option Fault
  deriving Repr, Inhabited

/-- How far a scanner looks ahead. -/
def lookahead : Nat := 4

/-- Finds the next token of a text with a fault behind it, which is met by looking so far. A fault in
front of that comes first. -/
def Scanner.stepBefore (s : Scanner) (behind : Option Fault) : Except Fault Scanner :=
  match behind with
  | none => s.step
  | some last =>
    match s.step with
    | .ok s' => if s'.cursor.rest.length < lookahead then .error last else .ok s'
    | .error fault =>
      if s.cursor.mark.index + Text.byteLength s.cursor.rest < fault.mark.index + lookahead then
        .error last
      else .error fault

/-- Scans on from a state in which the first `settled` tokens are fixed, up to a fault behind the
text. -/
def Scanner.run (behind : Option Fault) : Nat → Nat → Scanner → Tokens
  | 0, settled, s => { tokens := s.tokens.reverse.take settled, fault := none }
  | fuel + 1, settled, s =>
    match s.stepBefore behind with
    | .error fault => { tokens := s.tokens.reverse.take settled, fault := some fault }
    | .ok s' =>
      if s'.ended then { tokens := s'.tokens.reverse, fault := none }
      else
        match s'.dropStale with
        | .error fault => { tokens := s.tokens.reverse.take settled, fault := some fault }
        | .ok s' => run behind fuel s'.settled s'

/-- The tokens of a text. -/
def tokensOf (text : List Char) : Tokens :=
  let intake := Intake.of text
  Scanner.run intake.fault (intake.text.length + 2) 1 (Scanner.start intake.text)

end AgentManifest.Yaml
