import Winnow.Files.Glob

/-!
# `Winnow.Files.Discovery` — finding table files

Table files are told by their extension. A path names a single file, a directory that is searched
at any depth, or a pattern.

## Contents
- **`isTableName`**: the names of table files.
- **`scanDirectory`**: the table files below a directory, in the order of their components.
- **`resolve`**: the table files that a path means.
-/

namespace Winnow.Discovery

/-- The extensions of table files. -/
def tableExtensions : List String := ["json", "parquet"]

/-- Whether a file name is that of a table file. -/
def isTableName (path : String) : Bool :=
  match Path.extension? path with
  | some extension => tableExtensions.contains extension
  | none => false

mutual

/-- The table files at the node of a name below a path, each by the names that lead to it. All that
    is asked of a node is whether it is a directory: an entry that is neither file nor directory is
    taken for a file, and so is a directory whose path is too long to be looked up. -/
def tableFiles (path name : String) : Node → List (List String)
  | .file _ | .special _ => if isTableName name then [[name]] else []
  | .directory entries =>
    if Path.fits (Path.join path name) then
      (tableFilesAll (Path.join path name) entries).map (name :: ·)
    else if isTableName name then [[name]]
    else []

/-- The table files among the entries below a path. -/
def tableFilesAll (path : String) : List (String × Node) → List (List String)
  | [] => []
  | (name, node) :: rest => tableFiles path name node ++ tableFilesAll path rest

end

/-- The table files below a directory, in ascending order of their components. -/
def scanDirectory (files : Files) (path : String) : Except Error (List String) :=
  match files.node path with
  | .error fault => .error (.io fault)
  | .ok (.file _) | .ok (.special _) => .error (.io .notDirectory)
  | .ok (.directory entries) =>
    let found := (tableFilesAll path entries).mergeSort fun a b => !b.lex a fun x y => x < y
    .ok (found.map fun names => names.foldl Path.join path)

/-- The table files that a path means: the file itself whatever its name, all below a directory, or
    the table files that match a pattern. -/
def resolve (files : Files) (path : String) : Except Error (List String) :=
  if files.isFile path then .ok [path]
  else if files.isDirectory path then scanDirectory files path
  else match Glob.glob files path with
    | .ok found => .ok (found.filter fun p => files.isFile p && isTableName p)
    | .error fault => .error (.config (.badPattern path fault))

end Winnow.Discovery
