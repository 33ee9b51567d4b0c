import Winnow.Files.Discovery
import Winnow.Registry

/-!
# `Winnow.Loading` — tables from files

A table file is opened by its extension. Document files carry the name of their table, columnar
files are named after the file.

## Contents
- **`LoadedTable`**, **`openTable`**.
-/

namespace Winnow

/-- A table file opened, ready to be registered. -/
structure LoadedTable where
  name : String
  path : String
  source : Source

/-- Opens a table file. -/
def openTable (id : Nat) (files : Files) (path : String) : Except Error LoadedTable :=
  match Path.extension? path with
  | some "json" => do
    let table ← readDocument files path
    return ⟨table.name, path, ⟨id, table.schema, .documentFile path table.name⟩⟩
  | some "parquet" => do
    let source ← Source.openColumns id files path
    return ⟨(Path.stem? path).getD "", path, source⟩
  | _ => .error (.config (.notTable path))

end Winnow
