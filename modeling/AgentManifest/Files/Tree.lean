import AgentManifest.Files.Path

/-!
# File trees

All files as a value: files with their contents, directories, and symbolic links, which may point
anywhere and form cycles. Paths that are not absolute start at the working directory.
-/

namespace AgentManifest.Files

open Text (Bytes)

/-- What a name in a directory stands for. -/
inductive Entry where
  | file (contents : Bytes)
  | directory (entries : List (Bytes × Entry))
  | link (target : Path)
  deriving Inhabited

/-- The entries of a directory. -/
abbrev Entries := List (Bytes × Entry)

/-- A file tree, in which one directory is the working directory. -/
structure Tree where
  root : Entries := []
  /-- The names on the way to the working directory. -/
  here : List Bytes := []
  deriving Inhabited

/-- Why a path cannot be read. -/
inductive IoError where
  | notFound
  | notDirectory
  | isDirectory
  | tooManyLinks
  | nameTooLong
  | nulByte
  | notUtf8
  /-- Any other reason, by its message. -/
  | other (message : String)
  deriving DecidableEq, Repr, Inhabited

/-- The wording of a reason. -/
def IoError.message : IoError → String
  | .notFound => "No such file or directory (os error 2)"
  | .notDirectory => "Not a directory (os error 20)"
  | .isDirectory => "Is a directory (os error 21)"
  | .tooManyLinks => "Too many levels of symbolic links (os error 40)"
  | .nameTooLong => "File name too long (os error 36)"
  | .nulByte => "file name contained an unexpected NUL byte"
  | .notUtf8 => "stream did not contain valid UTF-8"
  | .other message => message

namespace Entries

/-- The entry that names lead to from a directory, without following links. -/
def find? : Entries → List Bytes → Option Entry
  | entries, [] => some (.directory entries)
  | entries, name :: names =>
    match entries.lookup name with
    | some (.directory inner) => find? inner names
    | some entry => if names.isEmpty then some entry else none
    | none => none

/-- A directory in which names lead to an entry. Directories on the way are made where they are
missing, and what is no directory gives way to one; a directory that is put where one is stays as it
is. -/
def put (entries : Entries) (names : List Bytes) (entry : Entry) : Entries :=
  match names with
  | [] => entries
  | [name] =>
    match entry, entries.lookup name with
    | .directory _, some (.directory _) => entries
    | _, _ => (name, entry) :: entries.filter fun e => e.1 != name
  | name :: others =>
    let inner : Entries :=
      match entries.lookup name with
      | some (.directory inner) => inner
      | _ => []
    (name, .directory (put inner others entry)) :: entries.filter fun e => e.1 != name

end Entries

namespace Tree

/-- An empty working directory with a name. -/
def ofName (name : Bytes) : Tree := { root := [(name, .directory [])], here := [name] }

/-- A tree in which names lead from the working directory to an entry. -/
def put (tree : Tree) (names : List Bytes) (entry : Entry) : Tree :=
  { tree with root := tree.root.put (tree.here ++ names) entry }

/-- The most links that are followed on the way to a file. -/
def maxLinks : Nat := 40

/-- The longest name, in bytes. -/
def maxName : Nat := 255

/-- The longest path, in bytes. -/
def maxPath : Nat := 4095

/-- Follows the parts of a path from the directory with the given names (innermost first), and
gives the entry at its end. A part behind which anything follows, be it an empty one, must be a
directory. The root is its own parent. -/
def walk (tree : Tree) : Nat → Nat → List Bytes → List Bytes → Except IoError Entry
  | 0, _, _, _ => .error .tooManyLinks
  | _ + 1, _, at', [] =>
    match tree.root.find? at'.reverse with
    | some entry => .ok entry
    | none => .error .notFound
  | fuel + 1, links, at', part :: parts =>
    if part = [] ∨ part = [dot] then walk tree fuel links at' parts
    else if part = [dot, dot] then
      walk tree fuel links at'.tail parts
    else if maxName < part.length then .error .nameTooLong
    else
      match tree.root.find? (part :: at').reverse with
      | none => .error .notFound
      | some (.directory _) => walk tree fuel links (part :: at') parts
      | some (.file contents) =>
        if parts.isEmpty then .ok (.file contents) else .error .notDirectory
      | some (.link target) =>
        match links with
        | 0 => .error .tooManyLinks
        | links + 1 =>
          if target.bytes.isEmpty then .error .notFound
          else
            walk tree fuel links (if target.isAbsolute then [] else at')
              (splitAt slash target.bytes ++ parts)

/-- The number of parts that may be met while so many links are followed. -/
def budget (tree : Tree) (p : Path) : Nat :=
  p.bytes.length + 2 + (maxLinks + 1) * (linkBytes (.directory tree.root) + 2)
where
  /-- The bytes of all link targets. -/
  linkBytes : Entry → Nat
    | .file _ => 0
    | .link target => target.bytes.length + 1
    | .directory entries => linkBytesIn entries
  /-- The bytes of all link targets among some entries. -/
  linkBytesIn : List (Bytes × Entry) → Nat
    | [] => 0
    | (_, entry) :: entries => linkBytes entry + linkBytesIn entries

/-- The file or directory that a path leads to, through links. -/
def resolve (tree : Tree) (p : Path) : Except IoError Entry :=
  if p.bytes.contains 0 then .error .nulByte
  else if p.bytes.isEmpty then .error .notFound
  else if maxPath < p.bytes.length then .error .nameTooLong
  else
    tree.walk (tree.budget p) maxLinks (if p.isAbsolute then [] else tree.here.reverse)
      (splitAt slash p.bytes)

/-- The contents of a file. -/
def read (tree : Tree) (p : Path) : Except IoError Bytes :=
  match tree.resolve p with
  | .ok (.file contents) => .ok contents
  | .ok (.directory _) => .error .isDirectory
  | .ok (.link _) => .error .notFound
  | .error e => .error e

/-- The text in a file. -/
def readText (tree : Tree) (p : Path) : Except IoError (List Char) :=
  match tree.read p with
  | .error e => .error e
  | .ok contents =>
    match Text.decode? contents with
    | some text => .ok text
    | none => .error .notUtf8

/-- The entries of the directory that a path leads to. -/
def directory? (tree : Tree) (p : Path) : Option Entries :=
  match tree.resolve p with
  | .ok (.directory entries) => some entries
  | _ => none

end Tree
end AgentManifest.Files
