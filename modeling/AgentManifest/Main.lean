import AgentManifest.CommandLine.Invocation

/-!
# Entry point

Reads what a request asks for into a file tree, carries the request out on it, and writes the
result.
-/

namespace AgentManifest.CommandLine

open Files (Path Tree Entry Entries)

/-- The bytes of a name. -/
def nameBytes (name : String) : Text.Bytes := Text.encode name.toList

/-- The directories of the file system below a path, down to a number of levels. -/
partial def readDirectory (levels : Option Nat) (path : String) : IO Entries := do
  let here ← IO.FS.realPath path
  let mut entries : Entries := []
  if levels == some 0 then return entries
  for item in ← here.readDir do
    let inner := item.root / item.fileName
    let entry : Option Entry ←
      try
        match (← inner.symlinkMetadata).type with
        | .dir => pure (some (.directory (← readDirectory (levels.map (· - 1)) inner.toString)))
        | .file =>
          if Files.isManifestName item.fileName.toList then
            pure (some (.file (← IO.FS.readBinFile inner).toList))
          else pure none
        | _ => pure none
      catch _ => pure none
    match entry with
    | some entry => entries := (nameBytes item.fileName, entry) :: entries
    | none => pure ()
  return entries

/-- A tree with what is found where a path leads. -/
def readInto (levels : Option Nat) (tree : Tree) (path : Path) : IO Tree := do
  let parts := (Files.splitAt Files.slash path.bytes).filter fun part =>
    part != [] && part != [Files.dot]
  let cwd ← IO.currentDir
  let start := if path.isAbsolute then [] else tree.here
  let mut tree := tree
  let mut names := start
  let mut text := if path.isAbsolute then "/" else "."
  for part in parts do
    names := if part == [Files.dot, Files.dot] then names.dropLast else names ++ [part]
    text := text ++ "/" ++ String.ofList (Text.decodeLossy part)
    if ← (cwd / text).isDir then
      tree := { tree with root := tree.root.put names (.directory []) }
  if ← (cwd / text).isDir then
    for entry in ← readDirectory levels text do
      tree := { tree with root := tree.root.put (names ++ [entry.1]) entry.2 }
  else
    try
      let bytes ← IO.FS.readBinFile text
      tree := { tree with root := tree.root.put names (.file bytes.toList) }
    catch _ => pure ()
  return tree

/-- The part of the file system that a request asks for. -/
def readTree (r : Request) : IO Tree := do
  let cwd ← IO.currentDir
  let here := (Files.splitAt Files.slash (nameBytes cwd.toString)).filter (· != [])
  let mut tree : Tree := { root := Entries.put [] here (.directory []), here }
  tree ← readInto (if r.recursive then none else some 2) tree r.target
  for path in r.config?.toList ++ r.schema?.toList do
    tree ← readInto (some 0) tree path
  return tree

end AgentManifest.CommandLine

open AgentManifest in
/-- Carries out the request that the words of the command line make. -/
def main (words : List String) : IO UInt32 := do
  let out ← IO.getStdout
  let color := CommandLine.wantsColor (← out.isTty) (← IO.getEnv "CLICOLOR")
    (← IO.getEnv "CLICOLOR_FORCE") (← IO.getEnv "NO_COLOR")
  let tree ←
    match CommandLine.Request.ofArguments words with
    | .ok r => CommandLine.readTree r
    | .error _ => pure {}
  let result := CommandLine.invoke color tree words
  out.putStr result.output
  out.flush
  let errors ← IO.getStderr
  errors.putStr (result.usage?.getD "")
  match result.failure? with
  | some message => errors.putStrLn ("ERROR " ++ message)
  | none => pure ()
  return result.code.toUInt32
