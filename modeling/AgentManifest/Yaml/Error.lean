import AgentManifest.Decode.Mismatch
import AgentManifest.Yaml.Cursor

/-!
# Failures of reading YAML

A text can be malformed, which is a problem at a mark, often with the construct around it; or it
is well formed and holds a value that is refused, which is known with the path to the value.
-/

namespace AgentManifest.Yaml

/-- What is wrong with a malformed text. -/
inductive Problem where
  /-- A character that may not stand in a text, so many bytes from its start. -/
  | controlCharacter (offset : Nat)
  | missingColon
  | blockEntryNotAllowed
  | keyNotAllowed
  | valueNotAllowed
  | badTokenStart
  | unexpectedColon
  | tabIndentation
  | documentMarkerInScalar
  | unclosedScalar
  | unknownEscape
  | badHexEscape
  | badCodePoint
  | zeroIndentation
  | commentOrBreakExpected
  | tabInBlockScalar
  | badAnchorName
  | tagCloseExpected
  | blankAfterTag
  | bangExpected
  | tagTextExpected
  | escapedOctetExpected
  | badLeadingOctet
  | badTrailingOctet
  | unknownDirective
  | directiveNameExpected
  | badDirectiveName
  | versionDotExpected
  | versionTooLong
  | versionExpected
  | blankExpected
  | blankOrBreakExpected
  | documentStartExpected
  | nodeExpected
  | dashExpected
  | blockKeyExpected
  | sequenceCommaExpected
  | mappingCommaExpected
  | undefinedTagHandle
  | duplicateVersion
  | incompatibleVersion
  | duplicateTagHandle
  | unknownAnchor
  | nestingTooDeep
  deriving DecidableEq, Repr, Inhabited

/-- The wording of a problem. -/
def Problem.text : Problem → String
  | .controlCharacter _ => "control characters are not allowed"
  | .missingColon => "could not find expected ':'"
  | .blockEntryNotAllowed => "block sequence entries are not allowed in this context"
  | .keyNotAllowed => "mapping keys are not allowed in this context"
  | .valueNotAllowed => "mapping values are not allowed in this context"
  | .badTokenStart => "found character that cannot start any token"
  | .unexpectedColon => "found unexpected ':'"
  | .tabIndentation => "found a tab character that violates indentation"
  | .documentMarkerInScalar => "found unexpected document indicator"
  | .unclosedScalar => "found unexpected end of stream"
  | .unknownEscape => "found unknown escape character"
  | .badHexEscape => "did not find expected hexadecimal number"
  | .badCodePoint => "found invalid Unicode character escape code"
  | .zeroIndentation => "found an indentation indicator equal to 0"
  | .commentOrBreakExpected => "did not find expected comment or line break"
  | .tabInBlockScalar => "found a tab character where an indentation space is expected"
  | .badAnchorName => "did not find expected alphabetic or numeric character"
  | .tagCloseExpected => "did not find the expected '>'"
  | .blankAfterTag => "did not find expected whitespace or line break"
  | .bangExpected => "did not find expected '!'"
  | .tagTextExpected => "did not find expected tag URI"
  | .escapedOctetExpected => "did not find URI escaped octet"
  | .badLeadingOctet => "found an incorrect leading UTF-8 octet"
  | .badTrailingOctet => "found an incorrect trailing UTF-8 octet"
  | .unknownDirective => "found unknown directive name"
  | .directiveNameExpected => "could not find expected directive name"
  | .badDirectiveName => "found unexpected non-alphabetical character"
  | .versionDotExpected => "did not find expected digit or '.' character"
  | .versionTooLong => "found extremely long version number"
  | .versionExpected => "did not find expected version number"
  | .blankExpected => "did not find expected whitespace"
  | .blankOrBreakExpected => "did not find expected whitespace or line break"
  | .documentStartExpected => "did not find expected <document start>"
  | .nodeExpected => "did not find expected node content"
  | .dashExpected => "did not find expected '-' indicator"
  | .blockKeyExpected => "did not find expected key"
  | .sequenceCommaExpected => "did not find expected ',' or ']'"
  | .mappingCommaExpected => "did not find expected ',' or '\x7d'"
  | .undefinedTagHandle => "found undefined tag handle"
  | .duplicateVersion => "found duplicate %YAML directive"
  | .incompatibleVersion => "found incompatible YAML document"
  | .duplicateTagHandle => "found duplicate %TAG directive"
  | .unknownAnchor => "unknown anchor"
  | .nestingTooDeep => "recursion limit exceeded"

/-- The construct in which a problem was met. -/
inductive Construct where
  | simpleKey
  | nextToken
  | plainScalar
  | quotedScalar
  | quotedEscape
  | blockScalar
  | anchor
  | alias
  | tag
  | tagText
  | directive
  | versionDirective
  | tagDirective
  | tagDirectiveHandle
  | tagDirectiveHandleEnd
  | tagDirectiveText
  | blockNode
  | flowNode
  | taggedNode
  | blockSequence
  | blockMapping
  | flowSequence
  | flowMapping
  deriving DecidableEq, Repr, Inhabited

/-- The wording of a construct. -/
def Construct.text : Construct → String
  | .simpleKey => "while scanning a simple key"
  | .nextToken => "while scanning for the next token"
  | .plainScalar => "while scanning a plain scalar"
  | .quotedScalar => "while scanning a quoted scalar"
  | .quotedEscape => "while parsing a quoted scalar"
  | .blockScalar => "while scanning a block scalar"
  | .anchor => "while scanning an anchor"
  | .alias => "while scanning an alias"
  | .tag => "while scanning a tag"
  | .tagText => "while parsing a tag"
  | .directive => "while scanning a directive"
  | .versionDirective => "while scanning a %YAML directive"
  | .tagDirective => "while scanning a %TAG directive"
  | .tagDirectiveHandle => "while scanning a tag directive"
  | .tagDirectiveHandleEnd => "while parsing a tag directive"
  | .tagDirectiveText => "while parsing a %TAG directive"
  | .blockNode => "while parsing a block node"
  | .flowNode => "while parsing a flow node"
  | .taggedNode => "while parsing a node"
  | .blockSequence => "while parsing a block collection"
  | .blockMapping => "while parsing a block mapping"
  | .flowSequence => "while parsing a flow sequence"
  | .flowMapping => "while parsing a flow mapping"

/-- A problem at a mark, with the construct around it and the mark at which that starts. -/
structure Fault where
  problem : Problem
  mark : Mark
  context : Option (Construct × Mark)
  deriving DecidableEq, Repr, Inhabited

/-- A step on the way from the root to a value. -/
inductive Step where
  | index (n : Nat)
  | key (name : String)
  | unknown
  deriving DecidableEq, Repr, Inhabited

/-- Why a well-formed value is refused. -/
inductive Refusal where
  | shape (mismatch : Decode.Mismatch)
  /-- A key that occurs twice, with the words that name it. -/
  | duplicateKey (key : String)
  deriving DecidableEq, Repr, Inhabited

/-- The wording of a refusal. -/
def Refusal.text : Refusal → String
  | .shape mismatch => mismatch.describe
  | .duplicateKey key => "duplicate entry " ++ key

/-- Why a text gives no value. -/
inductive Error where
  | malformed (fault : Fault)
  /-- A value is refused; the path runs from the value to the root. -/
  | refused (refusal : Refusal) (mark : Mark) (path : List Step)
  | repetitionLimit
  | severalDocuments
  deriving DecidableEq, Repr, Inhabited

/-- A mark as it is shown: line and column from one. -/
def Mark.text (m : Mark) : String :=
  " at line " ++ String.ofList (Decimal.natText (m.line + 1)) ++
    " column " ++ String.ofList (Decimal.natText (m.column + 1))

/-- The place of a fault as it is shown. -/
def Fault.place (f : Fault) : String :=
  match f.problem with
  | .controlCharacter offset =>
    if offset = 0 then "" else " at position " ++ String.ofList (Decimal.natText offset)
  | _ => if f.mark.isStart then "" else f.mark.text

/-- The message of a fault. The marks are left out where they say nothing new. -/
def Fault.message (f : Fault) : String :=
  f.problem.text ++ f.place ++
    match f.context with
    | none => ""
    | some (construct, mark) =>
      ", " ++ construct.text ++
        (if mark.isStart || mark.samePlace f.mark then "" else mark.text)

/-- A path as it is shown, given from the value to the root. -/
def pathText : List Step → String
  | [] => "."
  | .index n :: outer => pathText outer ++ "[" ++ String.ofList (Decimal.natText n) ++ "]"
  | .key name :: outer => (match outer with | [] => "" | _ => pathText outer ++ ".") ++ name
  | .unknown :: outer => (match outer with | [] => "" | _ => pathText outer ++ ".") ++ "?"

/-- The message of an error; a path that reads as that of the root is left out. -/
def Error.message : Error → String
  | .malformed fault => fault.message
  | .refused refusal mark path =>
    (if pathText path = "." then "" else pathText path ++ ": ") ++ refusal.text ++
      (if mark.isStart then "" else mark.text)
  | .repetitionLimit => "repetition limit exceeded"
  | .severalDocuments =>
    "deserializing from YAML containing more than one document is not supported"

/-- The line and column of an error, from one. -/
def Error.location? : Error → Option (Nat × Nat)
  | .malformed fault => some (fault.mark.line + 1, fault.mark.column + 1)
  | .refused _ mark _ => some (mark.line + 1, mark.column + 1)
  | .repetitionLimit => none
  | .severalDocuments => none

end AgentManifest.Yaml
