import Winnow.Columnar.Data
import Winnow.Error
import Winnow.Files.Path

/-!
# `Winnow.Files.Tree` — a tree of files

Files are read from a finite tree of directories. What a file holds is what readers can tell apart:
a text, the columns of a columnar file, or any other bytes.

## Contents
- **`Content`**, **`Node`**, **`Files`**: a node is a file, a directory or neither.
- **`Files.node`**: the node at a path, with the fault if there is none.
- **`Files.readText`**, **`Files.readContent`**, **`Files.isFile`**, **`Files.isDirectory`**.
- **`Files.makeDirectory`**, **`Files.write`**, **`Files.remove`**.
-/

namespace Winnow

/-- The content of a file. -/
inductive Content where
  | text (text : String)
  | columnar (file : Columnar.ColumnFile)
  /-- Bytes that are neither a text nor a columnar file. -/
  | binary
  deriving Repr

/-- The text that a content is. -/
def Content.asText : Content → Except FileFault String
  | .text s => .ok s
  | .columnar _ | .binary => .error .notUtf8

/-- A file, a directory with its entries in the order in which they are listed, or an entry that is
    neither. -/
inductive Node where
  | file (content : Content)
  | directory (entries : List (String × Node))
  /-- A pipe, a socket or a device, with what comes of reading it to its end. -/
  | special (reading : Except FileFault Content)
  deriving Repr

/-- A tree of files, and the components of the directory from which relative paths start. -/
structure Files where
  root : Node
  working : List String
  deriving Repr

namespace Node

/-- The entries of a directory, none of anything else. -/
def entries : Node → List (String × Node)
  | directory entries => entries
  | file _ | special _ => []

/-- The entry of a name. -/
def child? (name : String) : List (String × Node) → Option Node
  | [] => none
  | (held, node) :: rest => if held = name then some node else child? name rest

/-- Replaces the entry of a name or adds it at the end. -/
def putEntry (name : String) (node : Node) : List (String × Node) → List (String × Node)
  | [] => [(name, node)]
  | (held, old) :: rest =>
    if held = name then (name, node) :: rest else (held, old) :: putEntry name node rest

/-- Puts a node at a place below a node, making the directories above it. -/
def put (new : Node) : List String → Node → Node
  | [], _ => new
  | name :: rest, node =>
    let entries := node.entries
    let held := (child? name entries).getD (directory [])
    directory (putEntry name (put new rest held) entries)

/-- Makes a directory at a place below a node, unless there is one. -/
def makeDirectory : List String → Node → Node
  | [], node => directory node.entries
  | name :: rest, node =>
    let entries := node.entries
    let held := (child? name entries).getD (directory [])
    directory (putEntry name (makeDirectory rest held) entries)

/-- Drops the entry at a place below a node. -/
def remove : List String → Node → Node
  | [], node => node
  | _, file content => file content
  | _, special reading => special reading
  | [name], directory entries => directory (entries.filter (·.1 != name))
  | name :: rest, directory entries =>
    match child? name entries with
    | some held => directory (putEntry name (remove rest held) entries)
    | none => directory entries

end Node

namespace Files

/-- The longest name that a directory takes, in bytes. -/
def maxNameBytes : Nat := 255

/-- One step along a path, from a node with the nodes above it. Only directories have entries, and
    the root is above itself. -/
def step (name : String) : List Node → Except FileFault (List Node)
  | [] => .error .notFound
  | .file _ :: _ | .special _ :: _ => .error .notDirectory
  | .directory entries :: above =>
    if name = "" ∨ name = "." then .ok (.directory entries :: above)
    else if name = ".." then .ok (if above.isEmpty then [.directory entries] else above)
    else if maxNameBytes < name.utf8ByteSize then .error .nameTooLong
    else
      match Node.child? name entries with
      | some node => .ok (node :: .directory entries :: above)
      | none => .error .notFound

/-- Steps along names, one after the other. -/
def steps : List String → List Node → Except FileFault (List Node)
  | [], here => .ok here
  | name :: rest, here =>
    match step name here with
    | .ok next => steps rest next
    | .error fault => .error fault

/-- The place at which a path starts, from the root on. -/
def start (files : Files) (path : String) : List String :=
  if Path.isAbsolute path then [] else files.working

/-- The node at a path. -/
def node (files : Files) (path : String) : Except FileFault Node :=
  if path.isEmpty then .error .notFound
  else if path.toList.contains '\x00' then .error .nulInPath
  else if !Path.fits path then .error .nameTooLong
  else
    match steps (files.start path ++ Path.segments path) [files.root] with
    | .ok (here :: _) => .ok here
    | .ok [] => .error .notFound
    | .error fault => .error fault

/-- Whether there is anything at a path. -/
def holds (files : Files) (path : String) : Bool :=
  match files.node path with
  | .ok _ => true
  | .error _ => false

/-- Whether there is a file at a path. -/
def isFile (files : Files) (path : String) : Bool :=
  match files.node path with
  | .ok (.file _) => true
  | _ => false

/-- Whether there is a directory at a path. -/
def isDirectory (files : Files) (path : String) : Bool :=
  match files.node path with
  | .ok (.directory _) => true
  | _ => false

/-- The text of the file at a path. -/
def readText (files : Files) (path : String) : Except FileFault String :=
  match files.node path with
  | .error fault => .error fault
  | .ok (.directory _) => .error .isDirectory
  | .ok (.file content) => content.asText
  | .ok (.special reading) => reading.bind Content.asText

/-- The content of the file at a path. -/
def readContent (files : Files) (path : String) : Except FileFault Content :=
  match files.node path with
  | .error fault => .error fault
  | .ok (.directory _) => .error .noDevice
  | .ok (.file content) => .ok content
  | .ok (.special reading) => reading

/-- The place where a name leads from a place; two dots take back the last name. -/
def placeBelow (place : List String) (name : String) : List String :=
  if name = ".." then place.dropLast else place ++ [name]

/-- The places along components, from a place on. -/
def trail (place : List String) : List String → List (List String)
  | [] => [place]
  | name :: rest => place :: trail (placeBelow place name) rest

/-- The place of a path from the root on. -/
def place (files : Files) (path : String) : List String :=
  (Path.components path).foldl placeBelow (files.start path)

/-- The tree with directories at all places along components: those that two dots take back are
    made as well. -/
def makeTrail (files : Files) (place components : List String) : Files :=
  { files with
    root := (trail place components).foldl (fun root place => Node.makeDirectory place root)
      files.root }

/-- The tree with a directory at a path, and at all places on the way to it. -/
def makeDirectory (files : Files) (path : String) : Files :=
  files.makeTrail (files.start path) (Path.components path)

/-- The tree with a file at a path, and directories on the way to it. -/
def write (files : Files) (path : String) (content : Content) : Files :=
  let made := files.makeTrail (files.start path) (Path.components path).dropLast
  { made with root := Node.put (.file content) (files.place path) made.root }

/-- The tree without what stands at a path. -/
def remove (files : Files) (path : String) : Files :=
  { files with root := Node.remove (files.place path) files.root }

/-- The tree with nothing but an empty working directory. -/
def scratch : Files := ⟨.directory [("work", .directory [])], ["work"]⟩

end Files

end Winnow
