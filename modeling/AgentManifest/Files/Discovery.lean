import AgentManifest.Files.Tree

/-!
# Finding manifests

A manifest is found by its name: `LLM.yml` or a name that ends in `-llm.yml` or `.llm.yml`, with
one of three extensions and in any case. Links are neither followed nor found. Hidden directories
are not entered, nor are those whose paths are too long to be opened.
-/

namespace AgentManifest.Files

open Text (Bytes)

/-- The extensions of manifests. -/
def manifestExtensions : List (List Char) := ["yml".toList, "yaml".toList, "json".toList]

/-- The parts of a text before and behind the last occurrence of a character. -/
def splitLast? (c : Char) (s : List Char) : Option (List Char × List Char) :=
  let reversed := s.reverse
  let suffix := reversed.takeWhile (· != c)
  match reversed.drop suffix.length with
  | [] => none
  | _ :: before => some (before.reverse, suffix.reverse)

/-- A character with the letters of ASCII in lower case. -/
def lowerAscii (c : Char) : Char :=
  if 'A' ≤ c ∧ c ≤ 'Z' then Char.ofNat (c.toNat + 32) else c

/-- Whether a file name is that of a manifest. -/
def isManifestName (name : List Char) : Bool :=
  match splitLast? '.' (name.map lowerAscii) with
  | none => false
  | some (stem, extension) =>
    manifestExtensions.contains extension &&
      (stem == "llm".toList || "-llm".toList.isSuffixOf stem || ".llm".toList.isSuffixOf stem)

/-- Whether a directory is hidden. -/
def isHidden (name : Bytes) : Bool := name.head? == some dot

/-- Whether a path is too long for anything to be opened by it. -/
def Path.isTooLong (p : Path) : Bool := decide (Tree.maxPath < p.bytes.length)

/-- The manifests among the entries of a directory, in any order. Directories in it are entered
down to `levels` of them, or without limit, as far as their paths can be opened. -/
def manifestsIn (levels : Option Nat) (dir : Path) :
    List (Bytes × Entry) → List Path
  | [] => []
  | (name, entry) :: entries =>
    let rest := manifestsIn levels dir entries
    match entry with
    | .file _ =>
      if isManifestName (Text.decodeLossy name) then dir.join name :: rest else rest
    | .link _ => rest
    | .directory inner =>
      if isHidden name || levels == some 0 || (dir.join name).isTooLong then rest
      else manifestsIn (levels.map (· - 1)) (dir.join name) inner ++ rest

/-- The manifests in a directory and the directories in it, or at any depth, in the order of their
paths. A path that leads to no directory has none. -/
def Tree.manifests (tree : Tree) (dir : Path) (recursive : Bool) : List Path :=
  match tree.directory? dir with
  | none => []
  | some entries =>
    (manifestsIn (if recursive then none else some 1) dir entries).mergeSort
      fun p q => p.compare q != .gt

end AgentManifest.Files
