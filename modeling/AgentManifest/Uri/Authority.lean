import AgentManifest.Uri.Address

/-!
# Authorities

The part of a reference that says who gives its path a meaning: a host, perhaps with a user in
front and the number of a service behind.
-/

namespace AgentManifest.Uri

/-- Where a resource lies. -/
inductive Host where
  | name (text : List Char)
  /-- An address between brackets, as it is written, and its groups. -/
  | address (written : List Char) (groups : List Nat)
  /-- An address of a later version, between brackets. -/
  | future (written : List Char)
  deriving DecidableEq, Repr, Inhabited

/-- A host with what stands around it. -/
structure Authority where
  user : Option (List Char)
  host : Host
  /-- The digits behind a colon. -/
  service : Option (List Char)
  deriving DecidableEq, Repr, Inhabited

/-! ## Reading -/

/-- A fault in an address. -/
def badAddress {α : Type} (c : Cursor) : Except Fault α :=
  .error { problem := .badAddress, index := c.index }

/-- Steps over a character that has to be next. -/
def expect (ch : Char) (c : Cursor) : Except Fault Cursor :=
  match c.over? [ch] with
  | some c => .ok c
  | none => unexpected c

/-- Reads characters of a class, at least one. -/
def readSome (allowed : Char → Bool) (c : Cursor) : Except Fault (List Char × Cursor) := do
  let taken := c.rest.takeWhile allowed
  if taken.isEmpty then unexpected c else .ok (taken, c.behind taken)

/-- Reads an address of a later version: its version, and then its text. -/
def readFuture (c : Cursor) : Except Fault (List Char × Cursor) :=
  match c.rest with
  | v :: _ =>
    if v == 'v' || v == 'V' then do
      let (version, c) ← readSome Text.isHex (c.behind [v])
      let c ← expect '.' c
      let (text, c) ← readSome (fun ch => isNameChar false ch || ch == ':') c
      .ok (v :: (version ++ '.' :: text), c)
    else unexpected c
  | [] => unexpected c

/-- Reads what stands between brackets, behind the first of them. -/
def readBracketed (c : Cursor) : Except Fault (Host × Cursor) := do
  let (groups?, rest) := readAddress c.rest
  let taken := c.rest.take (c.rest.length - rest.length)
  let (host, c) ←
    match groups? with
    | some groups => .ok (.address taken groups, c.behind taken)
    | none =>
      if taken.isEmpty then do
        let (text, c) ← readFuture c
        .ok (.future text, c)
      else badAddress c
  .ok (host, ← expect ']' c)

/-- Reads a host: an address between brackets, or a name. -/
def readHost (wide : Bool) (c : Cursor) : Except Fault (Host × Cursor) :=
  match c.over? ['['] with
  | some c => readBracketed c
  | none => do
    let (name, c) ← readPart (isNameChar wide) c
    .ok (.name name, c)

/-- Reads the number of a service behind a host, if there is one. -/
def readService (c : Cursor) : Option (List Char) × Cursor :=
  match c.over? [':'] with
  | some c =>
    let digits := c.rest.takeWhile Char.isDigit
    (some digits, c.behind digits)
  | none => (none, c)

/-- The host and the service that a part without user and brackets is made of. Of several colons
the last one is at fault, and behind a single one only digits may stand. -/
def splitService (start : Cursor) (part : List Char) : Except Fault (Host × Option (List Char)) :=
  let service := (part.reverse.takeWhile (· != ':')).reverse
  let name := part.take (part.length - service.length - 1)
  if service.length = part.length then .ok (.name part, none)
  else if name.contains ':' then unexpected (start.behind name)
  else
    let digits := service.takeWhile Char.isDigit
    if digits.length = service.length then .ok (.name name, some service)
    else unexpected (start.behind (name ++ ':' :: digits))

/-- Reads an authority. -/
def readAuthority (wide : Bool) (start : Cursor) : Except Fault (Authority × Cursor) := do
  let (part, c) ← readPart (fun ch => isNameChar wide ch || ch == ':') start
  match c.over? ['@'] with
  | some c =>
    let (host, c) ← readHost wide c
    let (service, c) := readService c
    .ok ({ user := some part, host, service }, c)
  | none =>
    if part.isEmpty then
      let (host, c) ← readHost wide c
      let (service, c) := readService c
      .ok ({ user := none, host, service }, c)
    else
      let (host, service) ← splitService start part
      .ok ({ user := none, host, service }, c)

/-! ## Writing -/

/-- The text of a host. -/
def Host.text : Host → List Char
  | .name text => text
  | .address written _ => '[' :: (written ++ [']'])
  | .future written => '[' :: (written ++ [']'])

/-- The text of an authority. -/
def Authority.text (a : Authority) : List Char :=
  (match a.user with
    | some user => user ++ ['@']
    | none => []) ++ a.host.text ++
  match a.service with
  | some digits => ':' :: digits
  | none => []

/-! ## Normal form -/

/-- A part in which no character is escaped that need not be, and hexadecimal digits are large. -/
def normalEscapes : List Char → List Char
  | '%' :: a :: b :: rest =>
    let c := Char.ofNat (Text.hexNumber [a, b])
    if isUnreserved c then c :: normalEscapes rest
    else '%' :: a.toUpper :: b.toUpper :: normalEscapes rest
  | c :: rest => c :: normalEscapes rest
  | [] => []

/-- A part with letters in lower case, except in escapes. -/
def lowerPart : List Char → List Char
  | '%' :: a :: b :: rest => '%' :: a :: b :: lowerPart rest
  | c :: rest => c.toLower :: lowerPart rest
  | [] => []

/-- A host in normal form. -/
def Host.normalize : Host → Host
  | .name text => .name (lowerPart (normalEscapes text))
  | .address _ groups => .address (addressText groups) groups
  | .future written => .future (written.map Char.toLower)

/-- An authority in normal form: the host in its own, and no service without digits. -/
def Authority.normalize (a : Authority) : Authority :=
  { user := a.user.map normalEscapes, host := a.host.normalize,
    service := a.service.filter fun digits => !digits.isEmpty }

end AgentManifest.Uri
