import AgentManifest.Yaml.Token.Flow

/-!
# Anchors, tags and directives

Names of nodes, types of nodes, and the lines before a document that give tags their meaning. The
text of a tag is a run of octets, which may be no characters, up to the first one that is zero.
-/

namespace AgentManifest.Yaml

/-- The name behind an anchor or alias indicator, of at least one character. -/
def readAnchorName (construct : Construct) (c : Cursor) : Except Fault (List Char × Cursor) :=
  let start := c.mark
  let c := c.skip
  let name := c.rest.takeWhile isWordChar
  let c := c.skip name.length
  let ends := c.gapAt 0 || c.check 0 fun ch =>
    ch == '?' || ch == ':' || ch == ',' || ch == ']' || ch == '}' || ch == '%' || ch == '@' ||
      ch == '`'
  if name.isEmpty || !ends then faultIn construct start .badAnchorName c.mark
  else .ok (name, c)

/-! ## Tags -/

/-- Where a tag is read: on a node, or in a directive. -/
inductive TagPlace where
  | node
  | directive
  deriving DecidableEq, Repr, Inhabited

/-- The construct named when the text of a tag is wrong. -/
def TagPlace.textConstruct : TagPlace → Construct
  | .node => .tagText
  | .directive => .tagDirectiveText

/-- How many octets a character takes that starts with a given octet. -/
def octetCount? (octet : UInt8) : Option Nat :=
  if octet < 0x80 then some 1
  else if octet &&& 0xE0 = 0xC0 then some 2
  else if octet &&& 0xF0 = 0xE0 then some 3
  else if octet &&& 0xF8 = 0xF0 then some 4
  else none

/-- An escaped octet: a percent sign and two hexadecimal digits. -/
def readOctet (place : TagPlace) (start : Mark) (c : Cursor) : Except Fault (UInt8 × Cursor) :=
  if c.isAt 0 '%' then
    match hexNumber? 2 (c.rest.drop 1) with
    | some octet => .ok (octet.toUInt8, c.skip 3)
    | none => faultIn place.textConstruct start .escapedOctetExpected c.mark
  else faultIn place.textConstruct start .escapedOctetExpected c.mark

/-- The `n` trailing octets of a character. -/
def readTrailingOctets (place : TagPlace) (start : Mark) :
    Nat → Cursor → Except Fault (Text.Bytes × Cursor)
  | 0, c => .ok ([], c)
  | n + 1, c => do
    let (octet, next) ← readOctet place start c
    if octet &&& 0xC0 ≠ 0x80 then faultIn place.textConstruct start .badTrailingOctet c.mark
    else
      let (octets, c) ← readTrailingOctets place start n next
      .ok (octet :: octets, c)

/-- Escaped octets in the number that the first of them asks for. -/
def readEscaped (place : TagPlace) (start : Mark) (c : Cursor) :
    Except Fault (Text.Bytes × Cursor) := do
  let (octet, next) ← readOctet place start c
  match octetCount? octet with
  | none => faultIn place.textConstruct start .badLeadingOctet c.mark
  | some n =>
    let (octets, c) ← readTrailingOctets place start (n - 1) next
    .ok (octet :: octets, c)

/-- The characters that may stand in the text of a tag; flow indicators only in some places. -/
def isTagChar (flowIndicators : Bool) (c : Char) : Bool :=
  isWordChar c || ";/?:@&=+$.%!~*'()".toList.contains c ||
    (flowIndicators && (c == ',' || c == '[' || c == ']'))

/-- The text of a tag, behind the octets read so far (last first). -/
def readTagChars (place : TagPlace) (flowIndicators : Bool) (start : Mark) :
    Nat → Text.Bytes → Cursor → Except Fault (Text.Bytes × Cursor)
  | 0, seen, c => .ok (seen.reverse, c)
  | fuel + 1, seen, c =>
    match c.rest with
    | [] => .ok (seen.reverse, c)
    | ch :: _ =>
      if ch == '%' then
        match readEscaped place start c with
        | .error fault => .error fault
        | .ok (octets, c) =>
          readTagChars place flowIndicators start fuel (octets.reverse ++ seen) c
      else if isTagChar flowIndicators ch then
        readTagChars place flowIndicators start fuel ((Text.encodeChar ch).reverse ++ seen) c.skip
      else .ok (seen.reverse, c)

/-- The text of a tag behind a head that was read as a handle. Without a head there must be some
text; the bang that starts a head is not part of the text. -/
def readTagText (place : TagPlace) (flowIndicators : Bool) (head : List Char) (start : Mark)
    (c : Cursor) : Except Fault (Text.Bytes × Cursor) := do
  let (text, c) ← readTagChars place flowIndicators start (c.rest.length + 1) [] c
  if head.isEmpty && text.isEmpty then faultIn place.textConstruct start .tagTextExpected c.mark
  else .ok ((Text.encode (head.drop 1) ++ text).takeWhile (· != 0), c)

/-- A handle: a bang, word characters, and perhaps a closing bang. In a directive only the lone
bang may stay unclosed. -/
def readTagHandle (place : TagPlace) (start : Mark) (c : Cursor) :
    Except Fault (List Char × Cursor) :=
  if !c.isAt 0 '!' then
    faultIn (if place = .directive then .tagDirectiveHandle else .tag) start .bangExpected c.mark
  else
    let c := c.skip
    let name := c.rest.takeWhile isWordChar
    let c := c.skip name.length
    if c.isAt 0 '!' then .ok ('!' :: (name ++ ['!']), c.skip)
    else if place = .directive && !name.isEmpty then
      faultIn .tagDirectiveHandleEnd start .bangExpected c.mark
    else .ok ('!' :: name, c)

/-- A tag as its handle and the text behind it: verbatim (no handle), with a closed handle, or
with the lone bang for a handle. The tag `!` by itself is verbatim. -/
def readTagParts (start : Mark) (c : Cursor) :
    Except Fault (List Char × Text.Bytes × Cursor) :=
  if c.isAt 1 '<' then do
    let (text, c) ← readTagText .node true [] start (c.skip 2)
    if c.isAt 0 '>' then .ok ([], text, c.skip)
    else faultIn .tag start .tagCloseExpected c.mark
  else do
    let (handle, c) ← readTagHandle .node start c
    if 1 < handle.length && handle.getLast? == some '!' then
      let (text, c) ← readTagText .node false [] start c
      .ok (handle, text, c)
    else
      let (text, c) ← readTagText .node false handle start c
      if text.isEmpty then .ok ([], Text.encode ['!'], c) else .ok (['!'], text, c)

/-- A tag on a node, with the blank that must follow it. -/
def readTag (inFlow : Bool) (c : Cursor) : Except Fault (List Char × Text.Bytes × Cursor) := do
  let start := c.mark
  let (handle, text, c) ← readTagParts start c
  if c.gapAt 0 || (inFlow && c.isAt 0 ',') then .ok (handle, text, c)
  else faultIn .tag start .blankAfterTag c.mark

/-! ## Directives -/

/-- A version number of at most nine digits. -/
def readVersionNumber (start : Mark) (c : Cursor) : Except Fault (Nat × Cursor) :=
  let digits := c.rest.takeWhile Char.isDigit
  if 9 < digits.length then faultIn .versionDirective start .versionTooLong (c.skip 9).mark
  else if digits.isEmpty then faultIn .versionDirective start .versionExpected c.mark
  else
    .ok (digits.foldl (fun n d => 10 * n + (d.toNat - '0'.toNat)) 0, c.skip digits.length)

/-- What stands behind the name of a version directive. -/
def readVersion (start : Mark) (c : Cursor) : Except Fault (TokenKind × Cursor) := do
  let (major, c) ← readVersionNumber start (c.skipWhile isBlank)
  if !c.isAt 0 '.' then faultIn .versionDirective start .versionDotExpected c.mark
  else
    let (minor, c) ← readVersionNumber start c.skip
    .ok (.version major minor, c)

/-- What stands behind the name of a tag directive: a handle and its meaning. -/
def readHandleMeaning (start : Mark) (c : Cursor) : Except Fault (TokenKind × Cursor) := do
  let (handle, c) ← readTagHandle .directive start (c.skipWhile isBlank)
  if !c.check 0 isBlank then faultIn .tagDirective start .blankExpected c.mark
  else
    let (meaning, c) ← readTagText .directive true [] start (c.skipWhile isBlank)
    if c.gapAt 0 then .ok (.tagHandle handle meaning, c)
    else faultIn .tagDirective start .blankOrBreakExpected c.mark

/-- A directive, to the end of its content. -/
def readDirectiveContent (start : Mark) (c : Cursor) : Except Fault (TokenKind × Cursor) :=
  let c := c.skip
  let name := c.rest.takeWhile isWordChar
  let c := c.skip name.length
  if name.isEmpty then faultIn .directive start .directiveNameExpected c.mark
  else if !c.gapAt 0 then faultIn .directive start .badDirectiveName c.mark
  else if name = "YAML".toList then readVersion start c
  else if name = "TAG".toList then readHandleMeaning start c
  else faultIn .directive start .unknownDirective c.mark

/-- A directive with the rest of its line, and the mark at which its content ends. -/
def readDirective (c : Cursor) : Except Fault (TokenKind × Mark × Cursor) := do
  let start := c.mark
  let (kind, c) ← readDirectiveContent start c
  let stop := c.mark
  let c := (c.skipWhile isBlank).skipComment
  if c.lineEnds then .ok (kind, stop, c.skipBreak)
  else faultIn .directive start .commentOrBreakExpected c.mark

end AgentManifest.Yaml
