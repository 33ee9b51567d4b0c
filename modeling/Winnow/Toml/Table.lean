import Winnow.Toml.Scalar

/-!
# `Winnow.Toml.Table` — values and tables under construction

A configuration text builds one table out of headers and keys. A table remembers how it came about,
because a table may be opened by a header once only, and keys may add to no table but their own.

## Contents
- **`Value`**: finished values.
- **`Table`**, **`Item`**: tables under construction.
- **`Table.change?`**: a change of the table at a path.
- **`Table.addKey?`**: a key with its value, below a path of dotted keys.
- **`Building`**: the text read so far, with **`open?`**, **`openNext?`** and **`close?`**.
- **`Table.finish`**: the finished value of a table.
-/

namespace Winnow.Toml

/-- A finished value. -/
inductive Value where
  | string (text : String)
  | scalar (value : Scalar)
  | array (items : List Value)
  | table (entries : List (String × Value))
  deriving Repr

/-- How a table came about. -/
inductive Origin where
  /-- By a header, or as the table of the whole text. -/
  | header
  /-- On the way to the table of a header. -/
  | passed
  /-- By dotted keys. -/
  | dotted
  deriving DecidableEq, Repr

mutual

/-- A table under construction. -/
inductive Table where
  | mk (origin : Origin) (entries : List (String × Item))

/-- What stands under a key: a value, a table, or the tables of an array with the latest first. -/
inductive Item where
  | value (v : Value)
  | table (t : Table)
  | tables (latest : Table) (before : List Table)

end

namespace Table

/-- How a table came about. -/
def origin : Table → Origin
  | mk origin _ => origin

/-- What stands under the keys of a table. -/
def entries : Table → List (String × Item)
  | mk _ entries => entries

/-- A table without keys. -/
def blank (origin : Origin) : Table := mk origin []

/-- What stands under a key. -/
def item? (key : String) (t : Table) : Option Item :=
  (t.entries.find? fun entry => entry.1 = key).map (·.2)

/-- Replaces what stands under a key, or adds it. -/
def putItem (key : String) (item : Item) : List (String × Item) → List (String × Item)
  | [] => [(key, item)]
  | (held, old) :: rest =>
    if held = key then (key, item) :: rest else (held, old) :: putItem key item rest

/-- The table with an item under a key. -/
def put (key : String) (item : Item) (t : Table) : Table := mk t.origin (putItem key item t.entries)

/-- The table without a key. -/
def drop (key : String) (t : Table) : Table :=
  mk t.origin (t.entries.filter fun entry => entry.1 != key)

/-- Changes the table at a path below a table. Tables on the way are made as `made`; of an array of
    tables the latest is meant. Dotted keys do not enter a table that a header opened, and nothing
    enters a value. -/
def change? (made : Origin) (change : Table → Option Table) : List String → Table → Option Table
  | [], t => change t
  | key :: path, t =>
    match t.item? key with
    | none => do
      let inner ← change? made change path (blank made)
      return t.put key (.table inner)
    | some (.value _) => none
    | some (.tables latest before) => do
      let inner ← change? made change path latest
      return t.put key (.tables inner before)
    | some (.table held) =>
      if made = .dotted ∧ held.origin = .header then none
      else do
        let inner ← change? made change path held
        return t.put key (.table inner)

/-- Adds a key with its value below a path of dotted keys. The key must be new, and the table at the
    path must be one that dotted keys made, unless there is no path. -/
def addKey? (path : List String) (key : String) (v : Value) : Table → Option Table :=
  change? .dotted (fun t =>
    if (t.origin == .dotted) == path.isEmpty then none
    else
      match t.item? key with
      | some _ => none
      | none => some (t.put key (.value v))) path

mutual

/-- The finished value of a table. -/
def finish : Table → Value
  | mk _ entries => .table (finishAll entries)

/-- The finished values under keys. -/
def finishAll : List (String × Item) → List (String × Value)
  | [] => []
  | (key, item) :: rest => (key, finishItem item) :: finishAll rest

/-- The finished value of an item; the tables of an array stand in the order of their headers. -/
def finishItem : Item → Value
  | .value v => v
  | .table t => finish t
  | .tables latest before => .array (finish latest :: finishTables before).reverse

/-- The finished values of tables. -/
def finishTables : List Table → List Value
  | [] => []
  | t :: rest => finish t :: finishTables rest

end

end Table

/-! ## The text as a whole -/

/-- The text read so far: the finished tables, the table of the latest header, its path, and whether
    it belongs to an array of tables. -/
structure Building where
  root : Table
  current : Table
  path : List String
  inArray : Bool

namespace Building

/-- Before the first line: keys go into the table of the whole text. -/
def start : Building := ⟨.blank .header, .blank .header, [], false⟩

/-- Puts the current table in its place. -/
def close? (b : Building) : Option Table :=
  match b.path.getLast? with
  | none => some b.current
  | some key =>
    Table.change? .passed (fun parent =>
      if b.inArray then
        match parent.item? key with
        | none => some (parent.put key (.tables b.current []))
        | some (.tables latest before) =>
          some (parent.put key (.tables b.current (latest :: before)))
        | some _ => none
      else
        match parent.item? key with
        | none => some (parent.put key (.table b.current))
        | some _ => none) b.path.dropLast b.root

/-- A header opens a table. A table that was only passed before is opened with what it holds; any
    other thing under its key is a fault. -/
def openTable? (b : Building) (path : List String) : Option Building := do
  let root ← b.close?
  let key ← path.getLast?
  let held ← findParent? root path.dropLast key
  match held with
  | (root, none) => return ⟨root, .blank .header, path, false⟩
  | (root, some (.table t)) =>
    if t.origin = .passed then
      return ⟨root, .mk .header t.entries, path, false⟩
    else none
  | (_, some _) => none
where
  /-- What stands under a key of the table at a path, and all tables without it. -/
  findParent? (root : Table) (path : List String) (key : String) :
      Option (Table × Option Item) := do
    let kept ← Table.change? .passed some path root
    let without ← Table.change? .passed (fun t => some (t.drop key)) path kept
    return (without, itemAt? path key kept)
  /-- What stands under a key of the table at a path. -/
  itemAt? : List String → String → Table → Option Item
    | [], key, t => t.item? key
    | name :: path, key, t =>
      match t.item? name with
      | some (.table inner) => itemAt? path key inner
      | some (.tables latest _) => itemAt? path key latest
      | _ => none

/-- A double header opens the next table of an array of tables. -/
def openNext? (b : Building) (path : List String) : Option Building := do
  let root ← b.close?
  let key ← path.getLast?
  let root ← Table.change? .passed (fun parent =>
    match parent.item? key with
    | none => some parent
    | some (.tables ..) => some parent
    | some _ => none) path.dropLast root
  return ⟨root, .blank .header, path, true⟩

/-- A key with its value in the current table. -/
def addKey? (b : Building) (path : List String) (key : String) (v : Value) : Option Building := do
  let current ← b.current.addKey? path key v
  return { b with current }

end Building

end Winnow.Toml
