import AgentManifest.Yaml.Node
import AgentManifest.Yaml.Token.Scan

/-!
# From tokens to nodes

Recursive descent over the tokens of a text. Every reader gives what it has read; where it meets a
fault it puts a broken node and no source to read on from.
-/

namespace AgentManifest.Yaml

/-- The tokens that are left, and what the document has defined so far. -/
structure Source where
  tokens : List Token
  /-- The fault behind the last token. -/
  fault : Option Fault
  /-- The meanings of tag handles, the first one for a handle counts. -/
  handles : List (List Char × Text.Bytes)
  /-- The numbers of anchors by name, the first one for a name counts. -/
  anchors : List (List Char × Nat)
  deriving Repr, Inhabited

namespace Source

/-- The handles that every document has. -/
def defaultHandles : List (List Char × Text.Bytes) :=
  [(['!'], Text.encode ['!']), (['!', '!'], Text.encode "tag:yaml.org,2002:".toList)]

/-- The tokens of a text, before its first document. -/
def ofText (text : List Char) : Source :=
  let scanned := tokensOf text
  { tokens := scanned.tokens, fault := scanned.fault, handles := defaultHandles, anchors := [] }

/-- The next token. -/
def peek (s : Source) : Except Fault Token :=
  match s.tokens with
  | token :: _ => .ok token
  | [] => .error (s.fault.getD { problem := .missingColon, mark := Mark.start, context := none })

/-- The source behind the next token. -/
def next (s : Source) : Source := { s with tokens := s.tokens.tail }

/-- Gives the node that starts here its number, if it has an anchor. A name that is used again
takes a new number, which the next new name will share. -/
def register (s : Source) : Option (List Char) → Option Nat × Source
  | none => (none, s)
  | some name =>
    let id := s.anchors.length
    (some id, { s with anchors := (name, id) :: s.anchors.filter fun a => a.1 != name })

end Source

/-- What stands in front of the content of a node. -/
structure Preamble where
  start : Mark
  anchor : Option (List Char)
  tag : Option (Mark × List Char × Text.Bytes)

/-- Reads an anchor and a tag, in either order, and the token behind them. -/
def Source.preamble (s : Source) (token : Token) : Except Fault (Preamble × Token × Source) :=
  match token.kind with
  | .anchor name => do
    let s := s.next
    let after ← s.peek
    match after.kind with
    | .tag handle suffix =>
      let s := s.next
      .ok ({ start := token.start, anchor := some name, tag := some (after.start, handle, suffix) },
        ← s.peek, s)
    | _ => .ok ({ start := token.start, anchor := some name, tag := none }, after, s)
  | .tag handle suffix => do
    let s := s.next
    let after ← s.peek
    match after.kind with
    | .anchor name =>
      let s := s.next
      .ok ({ start := token.start, anchor := some name, tag := some (token.start, handle, suffix) },
        ← s.peek, s)
    | _ =>
      .ok ({ start := token.start, anchor := none, tag := some (token.start, handle, suffix) },
        after, s)
  | _ => .ok ({ start := token.start, anchor := none, tag := none }, token, s)

/-- The tag that a preamble names, with its handle replaced by what it means. -/
def Source.resolveTag (s : Source) (p : Preamble) : Except Fault (Option Text.Bytes) :=
  match p.tag with
  | none => .ok none
  | some (mark, handle, suffix) =>
    if handle.isEmpty then .ok (some suffix)
    else
      match s.handles.find? fun h => h.1 == handle with
      | some (_, meaning) => .ok (some (meaning ++ suffix))
      | none => faultIn .taggedNode p.start .undefinedTagHandle mark

/-- What a reader gives: its result, and where to read on unless a fault was met. -/
abbrev Read (α : Type) := α × Option Source

/-- A fault in the place of a node. -/
def brokenNode (problem : Problem) (mark : Mark) (context : Option (Construct × Mark)) : Node :=
  .broken { problem, mark, context }

/-- The tokens in front of which a key or value of a block mapping is left out. -/
def endsBlockEntry : TokenKind → Bool
  | .key => true
  | .value => true
  | .blockEnd => true
  | _ => false

/-- The tokens in front of which an item of an unindented sequence is left out. -/
def endsPlainEntry : TokenKind → Bool
  | .blockEntry => true
  | kind => endsBlockEntry kind

/-- The tokens in front of which an item of a block sequence is left out. -/
def endsSequenceEntry : TokenKind → Bool
  | .blockEntry => true
  | .blockEnd => true
  | _ => false

/-- The tokens in front of which a value in a flow collection is left out. -/
def endsFlowValue (close : TokenKind) (kind : TokenKind) : Bool :=
  kind == .flowEntry || kind == close

/-- The tokens in front of which a key in a flow collection is left out. -/
def endsFlowKey (close : TokenKind) (kind : TokenKind) : Bool :=
  kind == .value || endsFlowValue close kind

/-- Which nodes may stand at a place. -/
inductive NodePlace where
  | block
  /-- A key or value of a block mapping; a sequence in it need not be indented. -/
  | blockEntry
  | flow
  deriving DecidableEq, Repr, Inhabited

/-- A node without content: empty if it has an anchor or a tag, else a fault at the token that
stands in its place. -/
def withoutContent (place : NodePlace) (p : Preamble) (properties : Properties) (token : Token)
    (s : Source) : Read Node :=
  if p.anchor.isSome || p.tag.isSome then (.scalar properties [] .plain, some s)
  else
    let construct : Construct := if place = .flow then .flowNode else .blockNode
    (brokenNode .nodeExpected token.start (some (construct, p.start)), none)

/-- The token at which an entry of a flow collection starts, or its closing token; every entry but
the first has a comma in front. -/
def separated (first : Bool) (close : TokenKind) (problem : Problem) (construct : Construct)
    (start : Mark) (s : Source) : Except Fault (Token × Source) := do
  let token ← s.peek
  if first || token.kind == close then .ok (token, s)
  else if token.kind == .flowEntry then
    let s := s.next
    .ok (← s.peek, s)
  else faultIn construct start problem token.start

mutual

/-- A node. -/
def node (place : NodePlace) : Nat → Source → Read Node
  | 0, _ => (.broken default, none)
  | fuel + 1, s =>
    match s.peek with
    | .error fault => (.broken fault, none)
    | .ok token =>
      match token.kind with
      | .alias name =>
        match s.anchors.find? fun a => a.1 == name with
        | some (_, id) => (.alias id, some s.next)
        | none => (brokenNode .unknownAnchor token.start none, none)
      | _ =>
        match (do
            let (p, token, s) ← s.preamble token
            .ok (p, token, s, ← s.resolveTag p) : Except Fault _) with
        | .error fault => (.broken fault, none)
        | .ok (p, token, s, tag) =>
          let (id, s') := s.register p.anchor
          let properties : Properties := { mark := p.start, tag, anchor := id }
          let sequenceOf (r : Read (List Node)) : Read Node := (.sequence properties r.1, r.2)
          let mappingOf (r : Read (List (Node × Node))) : Read Node :=
            (.mapping properties r.1, r.2)
          match token.kind with
          | .blockEntry =>
            if place = .blockEntry then sequenceOf (plainSequence fuel s')
            else withoutContent place p properties token s'
          | .scalar text style =>
            (.scalar properties text style, some s'.next)
          | .flowSequenceStart => sequenceOf (flowSequence fuel true token.start s'.next)
          | .flowMappingStart => mappingOf (flowMapping fuel true token.start s'.next)
          | .blockSequenceStart =>
            if place = .flow then withoutContent place p properties token s'
            else sequenceOf (blockSequence fuel token.start s'.next)
          | .blockMappingStart =>
            if place = .flow then withoutContent place p properties token s'
            else mappingOf (blockMapping fuel token.start s'.next)
          | _ => withoutContent place p properties token s'

/-- The items of an indented sequence. -/
def blockSequence : Nat → Mark → Source → Read (List Node)
  | 0, _, _ => ([.broken default], none)
  | fuel + 1, start, s =>
    match s.peek with
    | .error fault => ([.broken fault], none)
    | .ok token =>
      match token.kind with
      | .blockEnd => ([], some s.next)
      | .blockEntry =>
        match itemAfter .block endsSequenceEntry fuel token.stop s.next with
        | (item, none) => ([item], none)
        | (item, some s) =>
          let (items, s) := blockSequence fuel start s
          (item :: items, s)
      | _ => ([brokenNode .dashExpected token.start (some (.blockSequence, start))], none)

/-- The items of a sequence that stands at the column of the mapping around it. -/
def plainSequence : Nat → Source → Read (List Node)
  | 0, _ => ([.broken default], none)
  | fuel + 1, s =>
    match s.peek with
    | .error fault => ([.broken fault], none)
    | .ok token =>
      match token.kind with
      | .blockEntry =>
        match itemAfter .block endsPlainEntry fuel token.stop s.next with
        | (item, none) => ([item], none)
        | (item, some s) =>
          let (items, s) := plainSequence fuel s
          (item :: items, s)
      | _ => ([], some s)

/-- The node behind an indicator, or an empty one at `mark` where it is left out. -/
def itemAfter (place : NodePlace) (left : TokenKind → Bool) : Nat → Mark → Source → Read Node
  | 0, _, _ => (.broken default, none)
  | fuel + 1, mark, s =>
    match s.peek with
    | .error fault => (.broken fault, none)
    | .ok token => if left token.kind then (.empty mark, some s) else node place fuel s

/-- The entries of a block mapping. -/
def blockMapping : Nat → Mark → Source → Read (List (Node × Node))
  | 0, _, _ => ([(.broken default, .broken default)], none)
  | fuel + 1, start, s =>
    match s.peek with
    | .error fault => ([(.broken fault, .broken fault)], none)
    | .ok token =>
      match token.kind with
      | .blockEnd => ([], some s.next)
      | .key =>
        match itemAfter .blockEntry endsBlockEntry fuel token.stop s.next with
        | (key, none) => ([(key, .broken default)], none)
        | (key, some s) =>
          match blockValue fuel s with
          | (value, none) => ([(key, value)], none)
          | (value, some s) =>
            let (entries, s) := blockMapping fuel start s
            ((key, value) :: entries, s)
      | _ =>
        let fault := brokenNode .blockKeyExpected token.start (some (.blockMapping, start))
        ([(fault, fault)], none)

/-- The value of an entry of a block mapping. -/
def blockValue : Nat → Source → Read Node
  | 0, _ => (.broken default, none)
  | fuel + 1, s =>
    match s.peek with
    | .error fault => (.broken fault, none)
    | .ok token =>
      match token.kind with
      | .value => itemAfter .blockEntry endsBlockEntry fuel token.stop s.next
      | _ => (.empty token.start, some s)

/-- The items of a flow sequence. An item with a key indicator in front is a mapping of one
entry. -/
def flowSequence : Nat → Bool → Mark → Source → Read (List Node)
  | 0, _, _, _ => ([.broken default], none)
  | fuel + 1, first, start, s =>
    match separated first .flowSequenceEnd .sequenceCommaExpected .flowSequence start s with
    | .error fault => ([.broken fault], none)
    | .ok (token, s) =>
      match token.kind with
      | .flowSequenceEnd => ([], some s.next)
      | .key =>
        match pair fuel token.start s.next with
        | (item, none) => ([item], none)
        | (item, some s) =>
          let (items, s) := flowSequence fuel false start s
          (item :: items, s)
      | _ =>
        match node .flow fuel s with
        | (item, none) => ([item], none)
        | (item, some s) =>
          let (items, s) := flowSequence fuel false start s
          (item :: items, s)

/-- A mapping of one entry as an item of a flow sequence, behind its key indicator. A token that
shows the key to be left out is skipped with it. -/
def pair : Nat → Mark → Source → Read Node
  | 0, _, _ => (.broken default, none)
  | fuel + 1, mark, s =>
    let properties : Properties := { mark, tag := none, anchor := none }
    let mappingOf (key value : Node) : Node := .mapping properties [(key, value)]
    match s.peek with
    | .error fault => (mappingOf (.broken fault) (.broken fault), none)
    | .ok token =>
      let (key, s) : Read Node :=
        if endsFlowKey .flowSequenceEnd token.kind then (.empty token.stop, some s.next)
        else node .flow fuel s
      match s with
      | none => (mappingOf key (.broken default), none)
      | some s =>
        match flowValue .flowSequenceEnd fuel s with
        | (value, none) => (mappingOf key value, none)
        | (value, some s) =>
          match s.peek with
          | .error fault =>
            (.mapping properties [(key, value), (.broken fault, .broken fault)], none)
          | .ok _ => (mappingOf key value, some s)

/-- The value of an entry in a flow collection. -/
def flowValue (close : TokenKind) : Nat → Source → Read Node
  | 0, _ => (.broken default, none)
  | fuel + 1, s =>
    match s.peek with
    | .error fault => (.broken fault, none)
    | .ok token =>
      match token.kind with
      | .value =>
        let s := s.next
        match s.peek with
        | .error fault => (.broken fault, none)
        | .ok after =>
          if endsFlowValue close after.kind then (.empty after.start, some s)
          else node .flow fuel s
      | _ => (.empty token.start, some s)

/-- The entries of a flow mapping. -/
def flowMapping : Nat → Bool → Mark → Source → Read (List (Node × Node))
  | 0, _, _, _ => ([(.broken default, .broken default)], none)
  | fuel + 1, first, start, s =>
    match separated first .flowMappingEnd .mappingCommaExpected .flowMapping start s with
    | .error fault => ([(.broken fault, .broken fault)], none)
    | .ok (token, s) =>
      match token.kind with
      | .flowMappingEnd => ([], some s.next)
      | .key =>
        match flowKey fuel s.next with
        | (key, none) => ([(key, .broken default)], none)
        | (key, some s) =>
          match flowValue .flowMappingEnd fuel s with
          | (value, none) => ([(key, value)], none)
          | (value, some s) =>
            let (entries, s) := flowMapping fuel false start s
            ((key, value) :: entries, s)
      | _ =>
        match node .flow fuel s with
        | (key, none) => ([(key, .broken default)], none)
        | (key, some s) =>
          match s.peek with
          | .error fault => ([(key, .broken fault)], none)
          | .ok token =>
            let (entries, s) := flowMapping fuel false start s
            ((key, .empty token.start) :: entries, s)

/-- The key of an entry of a flow mapping, behind its indicator. -/
def flowKey : Nat → Source → Read Node
  | 0, _ => (.broken default, none)
  | fuel + 1, s =>
    match s.peek with
    | .error fault => (.broken fault, none)
    | .ok token =>
      if endsFlowKey .flowMappingEnd token.kind then (.empty token.start, some s)
      else node .flow fuel s

end

/-! ## Documents -/

/-- What the directives of a document define. -/
structure Directives where
  version : Option (Nat × Nat)
  handles : List (List Char × Text.Bytes)

/-- Reads the directives in front of a document. -/
def readDirectives : Nat → Directives → Source → Except Fault (Directives × Source)
  | 0, d, s => .ok (d, s)
  | fuel + 1, d, s => do
    let token ← s.peek
    match token.kind with
    | .version major minor =>
      if d.version.isSome then faultAt .duplicateVersion token.start
      else if major ≠ 1 ∨ (minor ≠ 1 ∧ minor ≠ 2) then faultAt .incompatibleVersion token.start
      else readDirectives fuel { d with version := some (major, minor) } s.next
    | .tagHandle handle meaning =>
      if d.handles.any fun h => h.1 == handle then faultAt .duplicateTagHandle token.start
      else readDirectives fuel { d with handles := d.handles ++ [(handle, meaning)] } s.next
    | _ => .ok (d, s)

/-- Whether a token can only stand between documents. -/
def betweenDocuments : TokenKind → Bool
  | .version _ _ => true
  | .tagHandle _ _ => true
  | .documentStart => true
  | .documentEnd => true
  | .streamEnd => true
  | _ => false

/-- The root of an explicit document, behind its directives and its start marker. -/
def explicitRoot (fuel : Nat) (s : Source) : Read Node :=
  match (do
      let (d, s) ← readDirectives (s.tokens.length + 1) { version := none, handles := [] } s
      let token ← s.peek
      if token.kind != .documentStart then faultAt .documentStartExpected token.start
      else
        let s := { s.next with handles := d.handles ++ Source.defaultHandles }
        .ok (s, ← s.peek) : Except Fault (Source × Token)) with
  | .error fault => (.broken fault, none)
  | .ok (s, token) =>
    if betweenDocuments token.kind then (.empty token.start, some s) else node .block fuel s

/-- Whether anything but the end of the text follows a document; extra end markers do not
count. -/
def followed (s : Source) : Bool :=
  match s.tokens.dropWhile (·.kind == .documentEnd) with
  | token :: _ => token.kind != .streamEnd
  | [] => true

/-- A document with its root, and what stands behind it. -/
def closeDocument : Read Node → Document
  | (root, none) => { root := some root, fault := none, followed := false }
  | (root, some s) =>
    match s.peek with
    | .error fault => { root := some root, fault := some fault, followed := false }
    | .ok token =>
      { root := some root, fault := none,
        followed := followed (if token.kind == .documentEnd then s.next else s) }

/-- The first document of a text. -/
def Document.ofText (text : List Char) : Document :=
  let s := (Source.ofText text).next
  let fuel := 2 * s.tokens.length + 4
  match s.peek with
  | .error fault => closeDocument (.broken fault, none)
  | .ok token =>
    match token.kind with
    | .streamEnd => { root := none, fault := none, followed := false }
    | .version _ _ => closeDocument (explicitRoot fuel s)
    | .tagHandle _ _ => closeDocument (explicitRoot fuel s)
    | .documentStart => closeDocument (explicitRoot fuel s)
    | _ => closeDocument (node .block fuel s)

end AgentManifest.Yaml
