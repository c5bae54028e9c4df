import AgentManifest.Host.Name
import AgentManifest.Text.Character
import AgentManifest.Text.Property.Word

/-!
# Mail addresses

A mailbox, an at sign, and a host name or an address in brackets. A mailbox is made of words with
points between them, or is written between quotes.
-/

namespace AgentManifest.Host

open Uri (splitOnChar)

/-- The longest mailbox, in bytes. -/
def maxMailboxLength : Nat := 64

/-- The longest text behind the at sign, in bytes. -/
def maxDomainLength : Nat := 254

/-- Whether a character belongs to the few beyond ASCII that are taken for text of any kind: the two
bytes of its code look like those of a character. -/
def isPairOfBytes (c : Char) : Bool :=
  let first := c.toNat / 0x100
  let second := c.toNat % 0x100
  decide (0xc2 ≤ first ∧ first ≤ 0xdf ∧ 0x80 ≤ second ∧ second ≤ 0xbf)

/-- The characters of a word of a mail address. -/
def isWordChar (c : Char) : Bool :=
  Text.isAlphanumeric c || "!#$%&'*+-/=?^_\x60\x7b|\x7d~".toList.contains c || isPairOfBytes c

/-- Whether a text is made of words with points between them. -/
def isDottedWords (s : List Char) : Bool :=
  (splitOnChar '.' s).all fun word => !word.isEmpty && word.all isWordChar

/-- Whether a character can stand between quotes. -/
def isQuotable (c : Char) : Bool :=
  c == '\t' || (decide (' ' ≤ c ∧ c ≤ '~') && c != '"' && c != '\\') || isPairOfBytes c

/-- Whether a text can stand between quotes: a backslash makes any printed character harmless. -/
def isQuotedText : List Char → Bool
  | '\\' :: c :: rest => decide ('!' ≤ c ∧ c ≤ '~') && isQuotedText rest
  | c :: rest => isQuotable c && isQuotedText rest
  | [] => true

/-- Whether a text can stand before the at sign. -/
def isMailbox (s : List Char) : Bool :=
  !s.isEmpty && decide (Text.byteLength s ≤ maxMailboxLength) &&
    if s.head? = some '"' ∧ s.getLast? = some '"' then
      decide (2 < s.length) && isQuotedText ((s.drop 1).dropLast)
    else isDottedWords s

/-- Whether a text can be a part of the name behind the at sign. -/
def isDomainPart (part : List Char) : Bool :=
  part.head?.any Text.isAlphanumeric && part.getLast?.any Text.isAlphanumeric &&
    decide (Text.byteLength part ≤ maxPartLength) && part.all isWordChar

/-- Whether a text can stand behind the at sign, given what is a host name. -/
def isDomain (isHost : List Char → Bool) (s : List Char) : Bool :=
  decide (Text.byteLength s ≤ maxDomainLength) &&
    if s.head? = some '[' ∧ s.getLast? = some ']' then
      let inner := (s.drop 1).dropLast
      if "IPv6:".toList.isPrefixOf inner then Uri.isIpv6 (inner.drop 5) else Uri.isIpv4 inner
    else (splitOnChar '.' s).all isDomainPart && isHost s

/-- The text behind the last blank in front of an angle bracket, given the one found so far. -/
def behindOpening (found : Option (List Char)) : List Char → Option (List Char)
  | ' ' :: '<' :: rest => behindOpening (some rest) ('<' :: rest)
  | _ :: rest => behindOpening found rest
  | [] => found

/-- The text behind a name in front of angle brackets, if there is such a name. -/
def withoutDisplayName (s : List Char) : Option (List Char) :=
  match behindOpening none s with
  | none => some s
  | some rest =>
    let trimmed := ((rest.dropWhile Text.isBlank).reverse.dropWhile Text.isBlank).reverse
    if trimmed.getLast? = some '>' then some trimmed.dropLast else none

/-- Whether a text is a mail address, given what is a host name. -/
def isMailAddress (isHost : List Char → Bool) (s : List Char) : Bool :=
  match withoutDisplayName s with
  | none => false
  | some s =>
    let domain := (s.reverse.takeWhile (· != '@')).reverse
    if domain.length < s.length then
      isMailbox (s.take (s.length - domain.length - 1)) && isDomain isHost domain
    else false

end AgentManifest.Host
