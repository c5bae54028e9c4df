import AgentManifest.Decode.Mismatch
import AgentManifest.Text.Character

/-!
# Failures of reading JSON

Why a text is refused, and where. The message of a failure ends in its place.
-/

namespace AgentManifest.Json

/-- Why reading stopped. -/
inductive Cause where
  | eofValue
  | eofString
  | eofArray
  | eofObject
  | expectedColon
  | expectedArrayCommaOrEnd
  | expectedObjectCommaOrEnd
  | expectedIdent
  | expectedValue
  | invalidEscape
  | invalidNumber
  | numberOutOfRange
  | controlCharacter
  | keyMustBeString
  | loneSurrogate
  | unexpectedEndOfHexEscape
  | trailingComma
  | trailingCharacters
  | nestingTooDeep
  /-- The text is JSON, but not of the shape asked for. -/
  | shape (mismatch : Decode.Mismatch)
  deriving DecidableEq, Repr, Inhabited

/-- The wording of a cause. -/
def Cause.text : Cause → String
  | .eofValue => "EOF while parsing a value"
  | .eofString => "EOF while parsing a string"
  | .eofArray => "EOF while parsing a list"
  | .eofObject => "EOF while parsing an object"
  | .expectedColon => "expected `:`"
  | .expectedArrayCommaOrEnd => "expected `,` or `]`"
  | .expectedObjectCommaOrEnd => "expected `,` or `\x7d`"
  | .expectedIdent => "expected ident"
  | .expectedValue => "expected value"
  | .invalidEscape => "invalid escape"
  | .invalidNumber => "invalid number"
  | .numberOutOfRange => "number out of range"
  | .controlCharacter => "control character (\\u0000-\\u001F) found while parsing a string"
  | .keyMustBeString => "key must be a string"
  | .loneSurrogate => "lone leading surrogate in hex escape"
  | .unexpectedEndOfHexEscape => "unexpected end of hex escape"
  | .trailingComma => "trailing comma"
  | .trailingCharacters => "trailing characters"
  | .nestingTooDeep => "recursion limit exceeded"
  | .shape mismatch => mismatch.describe

/-- Where reading stopped: the text that was left, and how many of its bytes were looked at. -/
structure Stop where
  cause : Cause
  rest : List Char
  ahead : Nat
  deriving Repr, Inhabited

/-- A refusal with its place in the text. -/
structure Error where
  cause : Cause
  place : Text.Place
  deriving DecidableEq, Repr, Inhabited

/-- The number of bytes up to the place of a stop. -/
def Stop.offset (text : List Char) (s : Stop) : Nat :=
  Text.byteLength text - Text.byteLength s.rest + s.ahead

/-- The place of a stop in the text that was read. -/
def Stop.locate (text : List Char) (s : Stop) : Error :=
  { cause := s.cause, place := Text.Place.start.advance text (s.offset text) }

/-- The message of a refusal. -/
def Error.message (e : Error) : String :=
  e.cause.text ++ " at line " ++ String.ofList (Decimal.natText e.place.line) ++
    " column " ++ String.ofList (Decimal.natText e.place.column)

end AgentManifest.Json
