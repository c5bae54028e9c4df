/-!
# Bytes

Characters as bytes, and bytes as characters or as letters that stand for their bits.
-/

namespace AgentManifest.Text

/-! ## UTF-8

Bytes that are no character are found piece by piece: a piece ends where no continuation could make
it a character.
-/

/-- A sequence of bytes. -/
abbrev Bytes := List UInt8

/-- The bytes of a character. -/
def encodeChar (c : Char) : Bytes :=
  let n := c.toNat
  if n < 0x80 then [n.toUInt8]
  else if n < 0x800 then [(0xC0 + n / 0x40).toUInt8, (0x80 + n % 0x40).toUInt8]
  else if n < 0x10000 then
    [(0xE0 + n / 0x1000).toUInt8, (0x80 + n / 0x40 % 0x40).toUInt8, (0x80 + n % 0x40).toUInt8]
  else
    [(0xF0 + n / 0x40000).toUInt8, (0x80 + n / 0x1000 % 0x40).toUInt8,
      (0x80 + n / 0x40 % 0x40).toUInt8, (0x80 + n % 0x40).toUInt8]

/-- The bytes of a text. -/
def encode (s : List Char) : Bytes := s.flatMap encodeChar

/-- The value of a continuation byte in a range. -/
def continuation? (low high : Nat) (b : UInt8) : Option Nat :=
  if low ≤ b.toNat ∧ b.toNat ≤ high then some (b.toNat % 0x40) else none

/-- Takes continuation bytes, the first one in a range of its own, into a value; `none` with the
bytes left where one is missing. -/
def continuations : List (Nat × Nat) → Nat → Bytes → Option Nat × Bytes
  | [], value, rest => (some value, rest)
  | _ :: _, _, [] => (none, [])
  | (low, high) :: ranges, value, b :: rest =>
    match continuation? low high b with
    | some digit => continuations ranges (value * 0x40 + digit) rest
    | none => (none, b :: rest)

/-- The value bits of a leading byte, and the ranges of the bytes that may follow it. -/
def leading? (b : UInt8) : Option (Nat × List (Nat × Nat)) :=
  let n := b.toNat
  let any := (0x80, 0xBF)
  if n < 0x80 then some (n, [])
  else if n < 0xC2 then none
  else if n < 0xE0 then some (n % 0x20, [any])
  else if n = 0xE0 then some (0, [(0xA0, 0xBF), any])
  else if n = 0xED then some (0xD, [(0x80, 0x9F), any])
  else if n < 0xF0 then some (n % 0x10, [any, any])
  else if n = 0xF0 then some (0, [(0x90, 0xBF), any, any])
  else if n < 0xF4 then some (n % 0x08, [any, any, any])
  else if n = 0xF4 then some (4, [(0x80, 0x8F), any, any])
  else none

/-- The first character of some bytes, or `none` for a piece that is none, and the bytes behind. -/
def decodeFirst (b : UInt8) (rest : Bytes) : Option Char × Bytes :=
  match leading? b with
  | none => (none, rest)
  | some (value, ranges) =>
    match continuations ranges value rest with
    | (some n, rest) => (some (Char.ofNat n), rest)
    | (none, rest) => (none, rest)

/-- The pieces of some bytes behind those found so far (last first). -/
def decodeOnto : Nat → List (Option Char) → Bytes → List (Option Char)
  | 0, seen, _ => seen
  | _ + 1, seen, [] => seen
  | fuel + 1, seen, b :: rest =>
    let (piece, rest) := decodeFirst b rest
    decodeOnto fuel (piece :: seen) rest

/-- The pieces of some bytes: characters, and `none` for what is no character. -/
def pieces (bytes : Bytes) : List (Option Char) := (decodeOnto bytes.length [] bytes).reverse

/-- The text that some bytes hold, if they are all characters. -/
def decode? (bytes : Bytes) : Option (List Char) :=
  let found := pieces bytes
  if found.all Option.isSome then some (found.filterMap id) else none

/-- The text that some bytes hold, with U+FFFD for what is no character. -/
def decodeLossy (bytes : Bytes) : List Char := (pieces bytes).map fun piece => piece.getD '\uFFFD'

/-- The place and length of the first piece that is no character: how many bytes stand before it,
and how many it has, `none` if the bytes end in it. -/
def firstInvalid? (bytes : Bytes) : Option (Nat × Option Nat) :=
  go bytes.length 0 bytes
where
  go : Nat → Nat → Bytes → Option (Nat × Option Nat)
    | 0, _, _ => none
    | _ + 1, _, [] => none
    | fuel + 1, offset, b :: rest =>
      let (piece, after) := decodeFirst b rest
      let length := (b :: rest).length - after.length
      match piece with
      | some _ => go fuel (offset + length) after
      | none => some (offset, if after.isEmpty && (leading? b).isSome then none else some length)

/-! ## Base 64

Bytes written in groups of four characters, each of which holds six bits. The last group may stand
for one or two bytes and is then filled up with equals signs; no bits may be left over in it.
-/

/-- The six bits that a character holds. -/
def base64Value? (c : Char) : Option Nat :=
  if 'A' ≤ c ∧ c ≤ 'Z' then some (c.toNat - 'A'.toNat)
  else if 'a' ≤ c ∧ c ≤ 'z' then some (c.toNat - 'a'.toNat + 26)
  else if '0' ≤ c ∧ c ≤ '9' then some (c.toNat - '0'.toNat + 52)
  else if c = '+' then some 62
  else if c = '/' then some 63
  else none

/-- The bytes of a text in base 64. -/
def decodeBase64 : List Char → Option Bytes
  | [] => some []
  | [a, b, '=', '='] =>
    match base64Value? a, base64Value? b with
    | some a, some b => if b % 16 = 0 then some [(4 * a + b / 16).toUInt8] else none
    | _, _ => none
  | [a, b, c, '='] =>
    match base64Value? a, base64Value? b, base64Value? c with
    | some a, some b, some c =>
      if c % 4 = 0 then some [(4 * a + b / 16).toUInt8, (16 * (b % 16) + c / 4).toUInt8] else none
    | _, _, _ => none
  | a :: b :: c :: d :: rest =>
    match base64Value? a, base64Value? b, base64Value? c, base64Value? d with
    | some a, some b, some c, some d =>
      (decodeBase64 rest).map fun bytes =>
        (4 * a + b / 16).toUInt8 :: (16 * (b % 16) + c / 4).toUInt8 :: (64 * (c % 4) + d).toUInt8 ::
          bytes
    | _, _, _, _ => none
  | _ => none

end AgentManifest.Text
