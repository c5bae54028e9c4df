import AgentManifest.Uri.Authority

/-!
# References

A reference is a resource identifier, whole or relative to another. It is read into its five
parts, of which all but the path may be missing, and resolved against a base.
-/

namespace AgentManifest.Uri

/-- The parts of a reference. -/
structure Reference where
  scheme : Option (List Char)
  authority : Option Authority
  path : List Char
  query : Option (List Char)
  fragment : Option (List Char)
  deriving DecidableEq, Repr, Inhabited

/-- Reads what may follow a path: a query and a fragment, and then nothing. -/
def readTail (wide : Bool) (r : Reference) (c : Cursor) : Except Fault Reference := do
  let (r, c) ←
    match c.over? ['?'] with
    | none => .ok (r, c)
    | some c => do
      let (query, c) ← readPart (isQueryChar wide) c
      .ok ({ r with query := some query }, c)
  let (r, c) ←
    match c.over? ['#'] with
    | none => .ok (r, c)
    | some c => do
      let (fragment, c) ← readPart (isFragmentChar wide) c
      .ok ({ r with fragment := some fragment }, c)
  if c.rest.isEmpty then .ok r else unexpected c

/-- Reads a path and what follows it. Behind an authority it is empty or starts with a slash. -/
def readPath (wide : Bool) (r : Reference) (c : Cursor) : Except Fault Reference := do
  let (path, after) ← readPart (isPathChar wide) c
  if r.authority.isSome && !path.isEmpty && path.head? != some '/' then unexpected c
  else readTail wide { r with path } after

/-- Reads an authority, if two slashes announce one, and what follows. -/
def readFromSlashes (wide : Bool) (r : Reference) (c : Cursor) : Except Fault Reference :=
  match c.over? ['/', '/'] with
  | none => readPath wide r c
  | some c => do
    let (authority, c) ← readAuthority wide c
    readPath wide { r with authority := some authority } c

/-- Reads a reference without a scheme. No colon may stand in its first segment. -/
def readRelative (wide : Bool) (r : Reference) (c : Cursor) : Except Fault Reference := do
  match c.over? ['/', '/'] with
  | some _ => readFromSlashes wide r c
  | none =>
    let (_, after) ← readPart (fun ch => isNameChar wide ch || ch == '@') c
    match after.rest with
    | ':' :: _ => unexpected after
    | _ => readPath wide r c

/-- The reference that a text is; `wide` admits characters beyond ASCII. -/
def parse (wide : Bool) (text : List Char) : Except Fault Reference :=
  let none : Reference :=
    { scheme := none, authority := none, path := [], query := none, fragment := none }
  let start : Cursor := { rest := text, index := 0 }
  let scheme := text.takeWhile isSchemeChar
  let c := start.behind scheme
  match c.over? [':'] with
  | some c =>
    if scheme.head?.any Char.isAlpha then readFromSlashes wide { none with scheme } c
    else unexpected start
  | _ => readRelative wide none start

/-- Whether a text is a reference. -/
def isReference (wide : Bool) (text : String) : Bool :=
  match parse wide text.toList with
  | .ok _ => true
  | .error _ => false

/-- Whether a text is a whole identifier, which has a scheme. -/
def isIdentifier (wide : Bool) (text : String) : Bool :=
  match parse wide text.toList with
  | .ok r => r.scheme.isSome
  | .error _ => false

namespace Reference

/-- The text of a reference. -/
def text (r : Reference) : List Char :=
  (match r.scheme with
    | some s => s ++ [':']
    | none => []) ++
  (match r.authority with
    | some a => '/' :: '/' :: a.text
    | none => []) ++ r.path ++
  (match r.query with
    | some q => '?' :: q
    | none => []) ++
  match r.fragment with
  | some f => '#' :: f
  | none => []

end Reference

/-! ## Resolution

A relative reference is laid over a base, and the result brought to a normal form: letters of
scheme and host in lower case, no needless escapes, and no dot segments.
-/

/-! ## Dot segments -/

/-- The segments that are left of a path, given the segments kept so far (last first). -/
def dropDots : List (List Char) → List (List Char) → List (List Char)
  | kept, [] => kept.reverse
  | kept, segment :: segments =>
    let last := segments.isEmpty
    if segment = ['.'] then dropDots (if last then [] :: kept else kept) segments
    else if segment = ['.', '.'] then
      let kept := kept.drop 1
      dropDots (if last then [] :: kept else kept) segments
    else dropDots (segment :: kept) segments

/-- A path without dot segments; only a path that starts with a slash has any. -/
def removeDotSegments : List Char → List Char
  | '/' :: rest => '/' :: ['/'].intercalate (dropDots [] (splitOnChar '/' rest))
  | path => path

/-! ## References -/

namespace Reference

/-- A path that does not read as an authority, by a dot segment in front of one that would. -/
def guarded : List Char → List Char
  | '/' :: '/' :: rest => '/' :: '.' :: '/' :: '/' :: rest
  | path => path

/-- The normal form of a reference. -/
def normalize (r : Reference) : Reference :=
  let path := normalEscapes r.path
  let path := if r.scheme.isSome then removeDotSegments path else path
  { scheme := r.scheme.map fun s => s.map Char.toLower,
    authority := r.authority.map Authority.normalize,
    path := if r.scheme.isSome && r.authority.isNone then guarded path else path,
    query := r.query.map normalEscapes, fragment := r.fragment.map normalEscapes }

/-- A relative path laid over the path of a base: it takes the place of the last segment. -/
def mergePath (base r : Reference) : List Char :=
  if base.authority.isSome && base.path.isEmpty then '/' :: r.path
  else (base.path.reverse.dropWhile (· != '/')).reverse ++ r.path

/-- A reference laid over a base. -/
def resolve (base r : Reference) : Reference :=
  if r.scheme.isSome then { r with path := removeDotSegments r.path }
  else if r.authority.isSome then
    { r with scheme := base.scheme, path := removeDotSegments r.path }
  else
    let r' := { r with scheme := base.scheme, authority := base.authority }
    if r.path.isEmpty then
      { r' with path := base.path, query := r.query <|> base.query }
    else if r.path.head? = some '/' then { r' with path := removeDotSegments r.path }
    else { r' with path := removeDotSegments (mergePath base r) }

/-- Whether a reference can be laid over a base: over one without authority whose path does not
start with a slash, only a whole one can, or one that has at most a fragment. -/
def resolvable (base r : Reference) : Bool :=
  r.scheme.isSome || base.authority.isSome || base.path.head? == some '/' ||
    (r.authority.isNone && r.path.isEmpty && r.query.isNone)

end Reference

end AgentManifest.Uri
