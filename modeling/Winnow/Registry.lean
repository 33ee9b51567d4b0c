import Winnow.Source
import Winnow.Spec.Reader

/-!
# `Winnow.Registry` — registered tables

Sources are registered under keys. A request names a table, or asks all tables of a dashboard, or
all tables; it is answered from the sources found, in the order of their keys.

## Contents
- **`Registry`**, **`register`**, **`server`**, **`servers`**, **`tables`**.
- **`filteredRows`**, **`allValues`**, **`numericSpec`**: the requests.
-/

namespace Winnow

/-- The key of a table name and a dashboard. The name must not be empty. -/
def TableKey.make (table : String) (dashboard : Option String) : Except Error TableKey :=
  if table = "" then .error (.badRequest .tableNameMissing) else .ok ⟨dashboard, table⟩

/-- Registered sources, in the order of their keys. -/
structure Registry where
  entries : List (TableKey × Source)
  ascending : entries.Pairwise fun a b => a.1.order b.1 = .lt

namespace Registry

/-- The registry without tables. -/
def empty : Registry := ⟨[], List.Pairwise.nil⟩

/-- The number of tables. -/
def size (registry : Registry) : Nat := registry.entries.length

/-- Whether there is no table. -/
def isEmpty (registry : Registry) : Bool := registry.entries.isEmpty

/-- Puts a source in the place of its key; the source that a key had before is replaced. -/
def insertEntry (key : TableKey) (source : Source) :
    List (TableKey × Source) → List (TableKey × Source)
  | [] => [(key, source)]
  | (held, old) :: rest =>
    match key.order held with
    | .lt => (key, source) :: (held, old) :: rest
    | .eq => (key, source) :: rest
    | .gt => (held, old) :: insertEntry key source rest

/-- Every entry is the one put in or was there before. -/
theorem mem_insertEntry {key : TableKey} {source : Source} {entry : TableKey × Source}
    {entries : List (TableKey × Source)} (h : entry ∈ insertEntry key source entries) :
    entry = (key, source) ∨ entry ∈ entries := by
  induction entries with
  | nil => exact Or.inl (List.mem_singleton.mp h)
  | cons first rest ih =>
    unfold insertEntry at h
    split at h
    · exact List.mem_cons.mp h
    · exact (List.mem_cons.mp h).imp id (List.mem_cons_of_mem _)
    · rcases List.mem_cons.mp h with rfl | h
      · exact Or.inr List.mem_cons_self
      · exact (ih h).imp id (List.mem_cons_of_mem _)

theorem insertEntry_ascending (key : TableKey) (source : Source)
    {entries : List (TableKey × Source)}
    (h : entries.Pairwise fun a b => a.1.order b.1 = .lt) :
    (insertEntry key source entries).Pairwise fun a b => a.1.order b.1 = .lt := by
  induction entries with
  | nil => exact List.pairwise_singleton _ _
  | cons first rest ih =>
    obtain ⟨hfirst, hrest⟩ := List.pairwise_cons.mp h
    unfold insertEntry
    split
    · rename_i hlt
      refine List.pairwise_cons.mpr ⟨fun entry hmem => ?_, h⟩
      rcases List.mem_cons.mp hmem with rfl | hmem
      · exact hlt
      · exact Std.TransCmp.lt_trans hlt (hfirst entry hmem)
    · rename_i heq
      obtain rfl := Std.LawfulEqCmp.eq_of_compare heq
      exact List.pairwise_cons.mpr ⟨hfirst, hrest⟩
    · rename_i hgt
      refine List.pairwise_cons.mpr ⟨fun entry hmem => ?_, ih hrest⟩
      rcases mem_insertEntry hmem with rfl | hmem
      · exact Std.OrientedCmp.gt_iff_lt.mp hgt
      · exact hfirst entry hmem

/-- The registry with a source under a key, in place of the one that the key had. -/
def insert (registry : Registry) (key : TableKey) (source : Source) : Registry :=
  ⟨insertEntry key source registry.entries, insertEntry_ascending key source registry.ascending⟩

/-- The source of a key. -/
def lookup? (registry : Registry) (key : TableKey) : Option Source :=
  (registry.entries.find? fun entry => entry.1 = key).map (·.2)

/-- Registers a source under a table name and a dashboard. -/
def register (registry : Registry) (table : String) (dashboard : Option String) (source : Source) :
    Action Registry := do
  let key ← Action.ofExcept (TableKey.make table dashboard)
  Action.report (.tableRegistered key source.schema.length)
  return registry.insert key source

/-- The source of a table. -/
def server (registry : Registry) (table : String) (dashboard : Option String) :
    Except Error Source := do
  let key ← TableKey.make table dashboard
  match registry.lookup? key with
  | some source => return source
  | none => throw (.unknownTable key)

/-- The sources that a request on a column consults: the named table only, or every table of a
    dashboard, or every table. -/
def servers (registry : Registry) (table dashboard : Option String) :
    Except Error (List (TableKey × Source)) :=
  match table with
  | some table => do
    let source ← registry.server table dashboard
    let key ← TableKey.make table dashboard
    return [(key, source)]
  | none =>
    match registry.entries.filter fun entry =>
        dashboard.isNone || entry.1.dashboard = dashboard with
    | [] => .error (.noTables dashboard)
    | found => .ok found

/-- Every key with the schema of its source. -/
def tables (registry : Registry) : List (TableKey × Schema) :=
  registry.entries.map fun (key, source) => (key, source.schema)

/-! ## Requests -/

/-- The filter of a text for the columns of a source. -/
def filterOf (source : Source) (text : String) : Except Error Filter :=
  match Json.parse text with
  | .error e => .error (.badRequest (.badSpec text e))
  | .ok tree => do
    let spec ← Spec.ofJson tree
    Filter.compile source.schema.names spec

/-- The rows of a table that a specification selects, all rows without one. -/
def filteredRows (registry : Registry) (table : String) (dashboard : Option String)
    (text : Option String) : Action (List Row) :=
  Action.logged .filteredRows do
    let source ← Action.ofExcept (registry.server table dashboard)
    match text with
    | none => source.rows
    | some text =>
      let filter ← Action.ofExcept (filterOf source text)
      source.retained filter

/-- The distinct values of a column in sources, one sorted list for each. -/
def valueListsBy {ε : Type} (sorting : Sorting ε) (column : String) :
    List (TableKey × Source) → Steps ε (List (List Cell))
  | [] => return []
  | (_, source) :: rest => do
    let values ← source.allValuesBy sorting column
    let others ← valueListsBy sorting column rest
    return values :: others

/-- The distinct values of a column in sources, one ascending list for each. -/
def valueLists (column : String) : List (TableKey × Source) → Action (List (List Cell)) :=
  valueListsBy .stable column

theorem valueLists_cons (column : String) (entry : TableKey × Source)
    (rest : List (TableKey × Source)) :
    valueLists column (entry :: rest) = (do
      let values ← entry.2.allValues column
      let others ← valueLists column rest
      return values :: others) := rfl

/-- The union of the distinct values of a column over the tables that have it, sorted. -/
def allValuesBy {ε : Type} (sorting : Sorting ε) (registry : Registry) (column : String)
    (table dashboard : Option String) : Steps ε (List Cell) :=
  sorting.logged .allValues do
    let found ← sorting.lift (Action.ofExcept (registry.servers table dashboard))
    match found.filter fun entry => (entry.2.schema.typeOf? column).isSome with
    | [] => throw (sorting.ofError (.badRequest (.noSuchColumn column)))
    | having =>
      let lists ← valueListsBy sorting column having
      Sorting.give (Summary.mergeValuesBy sorting lists)

/-- The union of the distinct values of a column over the tables that have it, ascending. -/
def allValues (registry : Registry) (column : String) (table dashboard : Option String) :
    Action (List Cell) :=
  registry.allValuesBy .stable column table dashboard

theorem allValues_eq (registry : Registry) (column : String) (table dashboard : Option String) :
    registry.allValues column table dashboard = Action.logged .allValues (do
      let found ← Action.ofExcept (registry.servers table dashboard)
      match found.filter fun entry => (entry.2.schema.typeOf? column).isSome with
      | [] => throw (.badRequest (.noSuchColumn column))
      | having =>
        let lists ← valueLists column having
        Action.ofExcept (Summary.mergeValues lists)) := by
  unfold allValues allValuesBy
  simp only [Sorting.lift_stable, Sorting.give_eq_ofExcept, Sorting.logged_stable]
  rfl

/-- The numeric specs of a column in sources, merged from the left. -/
def mergedSpecsBy {ε : Type} (sorting : Sorting ε) (column : String) (held : Option NumericSpec) :
    List (TableKey × Source) → Steps ε (Option NumericSpec)
  | [] => return held
  | (_, source) :: rest => do
    let spec ← source.numericSpecBy sorting column
    mergedSpecsBy sorting column (some ((held.map (·.merge spec)).getD spec)) rest

/-- The numeric specs of a column in sources, from values in ascending order. -/
def mergedSpecs (column : String) (held : Option NumericSpec) :
    List (TableKey × Source) → Action (Option NumericSpec) :=
  mergedSpecsBy .stable column held

theorem mergedSpecs_cons (column : String) (held : Option NumericSpec) (entry : TableKey × Source)
    (rest : List (TableKey × Source)) :
    mergedSpecs column held (entry :: rest) = (do
      let spec ← entry.2.numericSpec column
      mergedSpecs column (some ((held.map (·.merge spec)).getD spec)) rest) := rfl

/-- The numeric spec of a column, merged over the tables that declare it a number, from their
    distinct values as they are sorted. -/
def numericSpecBy {ε : Type} (sorting : Sorting ε) (registry : Registry) (column : String)
    (table dashboard : Option String) : Steps ε NumericSpec :=
  sorting.logged .numericSpec do
    let found ← sorting.lift (Action.ofExcept (registry.servers table dashboard))
    let declaring := found.filter fun entry => entry.2.schema.typeOf? column = some .number
    match ← mergedSpecsBy sorting column none declaring with
    | some spec => return spec
    | none => throw (sorting.ofError (.badRequest (.noNumericColumn column)))

/-- The numeric spec of a column, merged over the tables that declare it a number. -/
def numericSpec (registry : Registry) (column : String) (table dashboard : Option String) :
    Action NumericSpec :=
  registry.numericSpecBy .stable column table dashboard

theorem numericSpec_eq (registry : Registry) (column : String) (table dashboard : Option String) :
    registry.numericSpec column table dashboard = Action.logged .numericSpec (do
      let found ← Action.ofExcept (registry.servers table dashboard)
      let declaring := found.filter fun entry => entry.2.schema.typeOf? column = some .number
      match ← mergedSpecs column none declaring with
      | some spec => return spec
      | none => throw (.badRequest (.noNumericColumn column))) := by
  unfold numericSpec numericSpecBy
  simp only [Sorting.lift_stable, Sorting.logged_stable]
  rfl

end Registry

end Winnow
