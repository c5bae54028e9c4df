import AgentManifest.Text.Property.Mark

/-!
# Quoted text in messages

A text between double quotes, in which quotes, backslashes and characters that would not show are
written as escapes.
-/

namespace AgentManifest.Text

/-!
## Characters without a face

Characters that have no printed form of their own: control and format characters, unassigned and
private ones, separators other than the space, and marks that extend the character before them.
-/

/-- The categories of characters that are not printed. -/
def unprinted : List Category := [.cc, .cf, .cs, .co, .cn, .zl, .zp, .zs]

/-- Whether a character has no printed form of its own. -/
def isFaceless (c : Char) : Bool :=
  c != ' ' && (unprinted.contains (category c) || extendsGrapheme c)

/-- A natural number in lower-case hexadecimal. -/
def hexText (n : Nat) : List Char := Nat.toDigits 16 n

/-- The form of one character between quotes. -/
def quotedChar (c : Char) : List Char :=
  if c = '\x00' then ['\\', '0']
  else if c = '\t' then ['\\', 't']
  else if c = '\r' then ['\\', 'r']
  else if c = '\n' then ['\\', 'n']
  else if c = '"' then ['\\', '"']
  else if c = '\\' then ['\\', '\\']
  else if isFaceless c then ['\\', 'u', '{'] ++ hexText c.toNat ++ ['}']
  else [c]

/-- A text between quotes. -/
def quoted (s : String) : String :=
  String.ofList ('"' :: (s.toList.flatMap quotedChar ++ ['"']))

end AgentManifest.Text
