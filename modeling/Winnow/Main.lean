import Winnow.CommandLine.Run

/-!
# `Winnow.Main` — the program

Reads what a command line names from the file system into a tree of files, runs the command on that
tree, and prints what it gives.

## Contents
- **`snapshot`**: the part of the file system at the front of a path.
- **`main`**.
-/

namespace Winnow.Main

/-- The content that bytes stand for. -/
def contentOf (bytes : ByteArray) : Content :=
  match String.fromUTF8? bytes with
  | some text => .text text
  | none => .binary

/-- Reads the node at an entry of a directory, if there is one that can be read. -/
partial def readNode (entry : IO.FS.DirEntry) : IO (Option Node) := do
  if ← entry.path.isDir then
    let mut entries := []
    for child in ← entry.path.readDir do
      if let some node ← readNode child then
        entries := (child.fileName, node) :: entries
    return some (.directory entries.reverse)
  else
    try
      -- reading a pipe would wait for a writer, so that entries of that kind are left unread
      if (← entry.path.metadata).type == .other then return some (.special (.error .notConnected))
      return some (.file (contentOf (← IO.FS.readBinFile entry.path)))
    catch _ => return none

/-- The part of a path before the first component with a wildcard. -/
def literalFront (path : String) : String :=
  let names := (Path.segments path).takeWhile fun name =>
    !(name.any fun c => c = '*' || c = '?' || c = '[')
  match names with
  | [] => "."
  | [""] => "/"
  | names => "/".intercalate names

/-- Adds to a tree what the file system has at the front of a path, and the directories on the way
    to it. -/
def snapshot (files : Files) (path : String) : IO Files := do
  let front := literalFront path
  let mut files := files
  for length in List.range (Path.segments front).length do
    let above := "/".intercalate ((Path.segments front).take length)
    let entry : IO.FS.DirEntry := ⟨".", above⟩
    if ← entry.path.isDir then files := files.makeDirectory above
  match ← readNode ⟨".", front⟩ with
  | some node => return { files with root := Node.put node (files.place front) files.root }
  | none => return files

/-- The paths that an invocation names on the command line. -/
def namedPaths (invocation : Invocation) : List String :=
  let spec := match invocation.command with
    | .filter _ _ (some (.file path)) => [path]
    | .validate (some (.file path)) => [path]
    | _ => []
  invocation.config.toList ++ invocation.load ++ spec

/-- The files that an invocation may read, those that its configuration names included. -/
def filesFor (environment : Config.Environment) (invocation : Invocation) : IO Files := do
  let working := Path.components (← IO.currentDir).toString
  let start : Files := ⟨Node.makeDirectory working (.directory []), working⟩
  let paths := Config.path environment :: namedPaths invocation
  let files ← (paths.filter (· != "")).foldlM snapshot start
  match CommandLine.configOf { files, environment } invocation with
  | .ok config => (config.tables.map (·.path)).foldlM snapshot files
  | .error _ => return files

end Winnow.Main

open Winnow in
/-- Runs the program on its arguments. -/
def main (words : List String) : IO UInt32 := do
  let environment : Config.Environment := {
    configPath := ← IO.getEnv "ROWSIFT_CONFIG"
    configHome := ← IO.getEnv "XDG_CONFIG_HOME"
    home := ← IO.getEnv "HOME" }
  let files ← match CommandLine.parse words with
    | .invoke invocation => Main.filesFor environment invocation
    | _ => pure Files.scratch
  let calledAs := (← IO.appPath).fileName.getD CommandLine.programName
  let log ← IO.getEnv "RUST_LOG"
  let outcome := CommandLine.respond { files, environment, log, calledAs } words
  for line in outcome.output do IO.println line
  for line in outcome.messages do IO.eprintln line
  return outcome.status.toUInt32
