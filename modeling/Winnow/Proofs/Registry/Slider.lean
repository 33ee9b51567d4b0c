import Winnow.Proofs.Source.Steady
import Winnow.Proofs.Summary.Range
import Winnow.Registry

/-!
# `Winnow.Proofs.Registry.Slider` — the range of a column over tables

The range of a column of numbers is collected table by table and then used as the bounds of a filter
on each of them. What carries the collection is that the spec held so far spans the cells of all
tables behind it. A filter on a range that spans its cells fails on no row and drops none.

## Contents
- **`Source.gives_ranged`**: a filter whose bounds enclose the cells of a column.
- **`Source.spans_of_gives`**: the spec of one table.
- **`Registry.declaring`**, **`columnCells`**: the tables that take part, and their cells.
- **`mergedSpecs_spans`**: the spec of several tables.
- **`numericSpec_slider`**: the range covers every row and is tight.
-/

namespace Winnow

open Winnow.Action Cell

/-! ## One table -/

namespace Source

variable {source : Source} {files : Files} {rows : List Row} {column : String}

/-- A filter keeps every row if its bounds enclose the cells of the column. -/
theorem gives_ranged (h : source.Steady files rows) (hfew : rows.length ≤ maxRowId)
    {position : Nat} {declared : Column}
    (hfind : source.schema.find? column = some (position, declared)) {min max : Cell}
    (henclosed : ∀ row ∈ rows, ∃ cell, source.schema.cell? column row = some cell ∧
      min.AtMost cell ∧ cell.AtMost max) :
    (source.filteredRows (.inRange (.name column) min max)).Gives files (.ok rows) := by
  have hfirst := (Schema.find?_eq_some_iff.mp hfind).2
  simp only [Schema.cell?_eq hfind] at henclosed
  have hclear : ∀ leaf ∈ (Filter.inRange position min max).leaves, ∀ row ∈ rows,
      ¬ leaf.Fails row := by
    intro leaf hleaf row hrow
    obtain ⟨cell, hcell, hmin, hmax⟩ := henclosed row hrow
    obtain ⟨low, hlow, _⟩ := hmin.swap
    obtain ⟨high, hhigh, _⟩ := hmax
    have hfits : cell.compare? min ≠ none ∧ cell.compare? max ≠ none := by
      rw [hlow, hhigh]
      exact ⟨nofun, nofun⟩
    exact Filter.not_fails_inRange hcell hfits.1 hfits.2 leaf hleaf
  have hall : (rows.filter fun row => (Filter.inRange position min max).Holds row) = rows := by
    refine List.filter_eq_self.mpr fun row hrow => decide_eq_true ?_
    obtain ⟨cell, hcell, hmin, hmax⟩ := henclosed row hrow
    exact ⟨cell, hcell, hmin.swap, hmax⟩
  have hgives := gives_filteredRows_of_clear h hfew (Filter.compile_inRange hfirst min max) hclear
  rwa [hall] at hgives

/-- The spec of a column spans its cells, of which every row has one. -/
theorem spans_of_gives (h : source.Steady files rows)
    (hmix : Unmixed (rows.filterMap (source.schema.cell? column)))
    (hnumber : source.schema.typeOf? column = some .number) {spec : NumericSpec}
    {session after : Session} (hfiles : session.files = files)
    (hrun : (source.numericSpec column).runOn session = (.ok spec, after)) :
    after.files = files ∧ spec.Spans (rows.filterMap (source.schema.cell? column)) ∧
      ∀ row ∈ rows, ∃ cell, source.schema.cell? column row = some cell := by
  obtain ⟨⟨position, declared⟩, hfind, hdeclared⟩ := Option.map_eq_some_iff.mp hnumber
  obtain ⟨hresult, hkept⟩ := gives_numericSpec h hfind hdeclared session hfiles
  rw [hrun] at hresult hkept
  obtain ⟨values, hvalues, hspec⟩ := bind_eq_ok_iff.mp hresult.symm
  obtain ⟨hcells, hsorted⟩ := distinctValues_eq_ok hfind (mapError_eq_ok_iff.mp hvalues)
  refine ⟨hkept, ?_, fun row hrow => ?_⟩
  · exact NumericSpec.spans_of_numericSpec hmix (Summary.isDistinct_of_sortedDistinct hmix hsorted)
      hspec
  · rw [Schema.cell?_eq hfind]
    exact hcells row hrow

end Source

/-! ## Several tables -/

namespace Registry

/-- The tables that take part in a request for the range of a column: those asked for that declare
    it a number. -/
def declaring (registry : Registry) (column : String) (table dashboard : Option String) :
    List (TableKey × Source) :=
  match registry.servers table dashboard with
  | .ok found => found.filter fun entry => entry.2.schema.typeOf? column = some .number
  | .error _ => []

/-- The cells of a column in the rows of tables. -/
def columnCells (column : String) (rowsOf : TableKey × Source → List Row)
    (entries : List (TableKey × Source)) : List Cell :=
  entries.flatMap fun entry => (rowsOf entry).filterMap (entry.2.schema.cell? column)

/-- **Collecting the range.** If the spec held spans the cells behind it, the one that is given at
    the end spans these and the cells of all tables that follow. -/
theorem mergedSpecs_spans {column : String} {files : Files}
    {rowsOf : TableKey × Source → List Row} {spec : NumericSpec}
    {entries : List (TableKey × Source)} :
    ∀ {held : Option NumericSpec} {cells : List Cell} {session : Session},
      session.files = files →
      (∀ entry ∈ entries, entry.2.schema.typeOf? column = some .number) →
      (∀ entry ∈ entries, entry.2.Steady files (rowsOf entry)) →
      Unmixed (cells ++ columnCells column rowsOf entries) →
      (held = none ∧ cells = [] ∨ ∃ before, held = some before ∧ before.Spans cells) →
      ((mergedSpecs column held entries).runOn session).1 = .ok (some spec) →
      spec.Spans (cells ++ columnCells column rowsOf entries) ∧
        ∀ entry ∈ entries, ∀ row ∈ rowsOf entry,
          ∃ cell, entry.2.schema.cell? column row = some cell := by
  induction entries with
  | nil =>
    intro held cells session _ _ _ _ hheld hrun
    obtain rfl : held = some spec := Except.ok.inj hrun
    rcases hheld with ⟨hnone, _⟩ | ⟨before, hbefore, hspans⟩
    · cases hnone
    · obtain rfl := Option.some.inj hbefore
      refine ⟨?_, fun entry h => absurd h List.not_mem_nil⟩
      rwa [columnCells, List.flatMap_nil, List.append_nil]
  | cons first rest ih =>
    intro held cells session hfiles hnumber hsteady hmix hheld hrun
    obtain ⟨hfirstnumber, hrestnumber⟩ := List.forall_mem_cons.mp hnumber
    obtain ⟨hfirststeady, hreststeady⟩ := List.forall_mem_cons.mp hsteady
    have hcells : cells ++ columnCells column rowsOf (first :: rest) =
        cells ++ (rowsOf first).filterMap (first.2.schema.cell? column) ++
          columnCells column rowsOf rest := by
      rw [columnCells, List.flatMap_cons, List.append_assoc]
      rfl
    rw [hcells] at hmix ⊢
    -- the cells up to this table, and those of the table alone, are unmixed as well
    have hmixto := hmix.of_subset fun cell hcell => List.mem_append_left _ hcell
    have hmixthis := hmixto.of_subset fun cell hcell => List.mem_append_right cells hcell
    obtain ⟨found, after, hfound, hrun⟩ := runOn_bind_eq_ok_iff.mp hrun
    obtain ⟨hkept, hspans, hrows⟩ :=
      Source.spans_of_gives hfirststeady hmixthis hfirstnumber hfiles hfound
    have hnext : ((held.map (·.merge found)).getD found).Spans
        (cells ++ (rowsOf first).filterMap (first.2.schema.cell? column)) := by
      rcases hheld with ⟨rfl, rfl⟩ | ⟨before, rfl, hbefore⟩
      · exact hspans
      · exact hbefore.merge hmixto hspans
    obtain ⟨hall, hrestrows⟩ :=
      ih hkept hrestnumber hreststeady hmix (Or.inr ⟨_, rfl, hnext⟩) hrun
    exact ⟨hall, List.forall_mem_cons.mpr ⟨hrows, hrestrows⟩⟩

theorem typeOf?_of_mem_declaring {registry : Registry} {column : String}
    {table dashboard : Option String} {entry : TableKey × Source}
    (h : entry ∈ registry.declaring column table dashboard) :
    entry.2.schema.typeOf? column = some .number := by
  unfold declaring at h
  split at h
  · exact of_decide_eq_true (List.mem_filter.mp h).2
  · cases h

/-- A range that is given spans the cells of all tables that take part, and none of their rows is
    without a cell. -/
theorem spans_of_numericSpec {registry : Registry} {column : String}
    {table dashboard : Option String} {session : Session} {rowsOf : TableKey × Source → List Row}
    {spec : NumericSpec}
    (hsteady : ∀ entry ∈ registry.declaring column table dashboard,
      entry.2.Steady session.files (rowsOf entry))
    (hmix : Unmixed (columnCells column rowsOf (registry.declaring column table dashboard)))
    (hspec : ((registry.numericSpec column table dashboard).runOn session).1 = .ok spec) :
    spec.Spans (columnCells column rowsOf (registry.declaring column table dashboard)) ∧
      ∀ entry ∈ registry.declaring column table dashboard, ∀ row ∈ rowsOf entry,
        ∃ cell, entry.2.schema.cell? column row = some cell := by
  rw [numericSpec_eq, runOn_logged_fst] at hspec
  obtain ⟨found, _, hfound, hspec⟩ := runOn_bind_eq_ok_iff.mp hspec
  rw [runOn_ofExcept] at hfound
  obtain ⟨hservers, rfl⟩ := Prod.mk.inj hfound
  obtain ⟨merged, _, hmerged, hspec⟩ := runOn_bind_eq_ok_iff.mp hspec
  cases merged with
  | none => cases hspec
  | some merged =>
    obtain rfl : merged = spec := Except.ok.inj hspec
    have hdeclaring : registry.declaring column table dashboard =
        found.filter fun entry => entry.2.schema.typeOf? column = some .number := by
      rw [declaring, hservers]
    have hnumber : ∀ entry ∈ registry.declaring column table dashboard,
        entry.2.schema.typeOf? column = some .number := fun _ => typeOf?_of_mem_declaring
    rw [hdeclaring] at hsteady hmix hnumber ⊢
    exact mergedSpecs_spans rfl hnumber hsteady hmix (Or.inl ⟨rfl, rfl⟩) (by rw [hmerged])

/-- **The range of a column.** Where the tables that take part are steady and no float blurs two
    integers of the column over all of them, the range given covers every row of each of them: a
    filter by it succeeds and drops none. Both its ends are cells of some row, and its step is above
    zero. -/
theorem numericSpec_slider {registry : Registry} {column : String} {table dashboard : Option String}
    {session : Session} {rowsOf : TableKey × Source → List Row} {spec : NumericSpec}
    (hsteady : ∀ entry ∈ registry.declaring column table dashboard,
      entry.2.Steady session.files (rowsOf entry) ∧ (rowsOf entry).length ≤ maxRowId)
    (hmix : Unmixed (columnCells column rowsOf (registry.declaring column table dashboard)))
    (hspec : ((registry.numericSpec column table dashboard).runOn session).1 = .ok spec) :
    (∀ entry ∈ registry.declaring column table dashboard,
      (entry.2.filteredRows (.inRange (.name column) spec.min spec.max)).Gives session.files
        (.ok (rowsOf entry))) ∧
    (∃ entry ∈ registry.declaring column table dashboard, ∃ row ∈ rowsOf entry, ∃ cell,
      entry.2.schema.cell? column row = some cell ∧ cell.sameAs spec.min = true) ∧
    (∃ entry ∈ registry.declaring column table dashboard, ∃ row ∈ rowsOf entry, ∃ cell,
      entry.2.schema.cell? column row = some cell ∧ cell.sameAs spec.max = true) ∧
    spec.increment.compare? (.integer 0) = some .gt := by
  obtain ⟨hspans, hrows⟩ := spans_of_numericSpec (fun entry h => (hsteady entry h).1) hmix hspec
  have hcell : ∀ cell ∈ columnCells column rowsOf (registry.declaring column table dashboard),
      ∃ entry ∈ registry.declaring column table dashboard, ∃ row ∈ rowsOf entry,
        entry.2.schema.cell? column row = some cell := by
    intro cell hcell
    obtain ⟨entry, hentry, hcell⟩ := List.mem_flatMap.mp hcell
    obtain ⟨row, hrow, hcell⟩ := List.mem_filterMap.mp hcell
    exact ⟨entry, hentry, row, hrow, hcell⟩
  have hend : ∀ cell ∈ columnCells column rowsOf (registry.declaring column table dashboard),
      cell.sameAs cell = true :=
    fun cell hcell => sameAs_self_iff.mpr (isOrdered_iff.mp (hspans.numbers cell hcell)).2
  refine ⟨fun entry hentry => ?_, ?_, ?_, ?_⟩
  · obtain ⟨hread, hfew⟩ := hsteady entry hentry
    obtain ⟨⟨position, declared⟩, hfind, _⟩ :=
      Option.map_eq_some_iff.mp (typeOf?_of_mem_declaring hentry)
    refine Source.gives_ranged hread hfew hfind fun row hrow => ?_
    obtain ⟨cell, hcell⟩ := hrows entry hentry row hrow
    have hmem : cell ∈ columnCells column rowsOf (registry.declaring column table dashboard) :=
      List.mem_flatMap.mpr ⟨entry, hentry, List.mem_filterMap.mpr ⟨row, hrow, hcell⟩⟩
    exact ⟨cell, hcell, hspans.above cell hmem, hspans.below cell hmem⟩
  · obtain ⟨entry, hentry, row, hrow, hleast⟩ := hcell _ hspans.least
    exact ⟨entry, hentry, row, hrow, _, hleast, hend _ hspans.least⟩
  · obtain ⟨entry, hentry, row, hrow, hgreatest⟩ := hcell _ hspans.greatest
    exact ⟨entry, hentry, row, hrow, _, hgreatest, hend _ hspans.greatest⟩
  · rw [compare?_swap, of_decide_eq_true hspans.step]
    rfl

/-- Zero and two forms of one, as the cells of rows. -/
def eastRows : List Row := [[.integer 0], [.integer 1], [.float (Double.ofInt 1)]]

/-- Negative zero and seven, as the cells of rows. -/
def westRows : List Row := [[.float Double.zero.neg], [.integer 7]]

/-- A table with a column of numbers. -/
def sizeSource (rows : List Row) : Source := ⟨0, [⟨"size", .number⟩], .memory rows⟩

/-- Three tables, of which two have a column of numbers with one name. -/
def regions : Registry :=
  ((empty.insert ⟨none, "west"⟩ (sizeSource westRows)).insert
    ⟨none, "notes"⟩ ⟨1, [⟨"size", .string⟩], .memory [[.string "large"]]⟩).insert
    ⟨none, "east"⟩ (sizeSource eastRows)

/-- The rows of the tables with numbers. -/
def regionRows (entry : TableKey × Source) : List Row :=
  if entry.1.table = "east" then eastRows else westRows

theorem gives_sizeSource {rows : List Row} {values : List Cell} {spec : NumericSpec}
    (hvalues : Summary.distinctValues rows 0 = .ok values)
    (hspec : (Summary.numericSpec "size" values).toOption = some spec) :
    ((sizeSource rows).numericSpec "size").Gives Session.fresh.files (.ok spec) := by
  have hsteady : (sizeSource rows).Steady Session.fresh.files rows := fun _ => rfl
  have hfind : (sizeSource rows).schema.find? "size" = some (0, ⟨"size", .number⟩) := rfl
  have hgives := Source.gives_numericSpec hsteady hfind rfl
  rw [hvalues] at hgives
  exact toOption_eq_some_iff.mp hspec ▸ hgives

theorem gives_regions :
    (regions.numericSpec "size" none none).Gives Session.fresh.files
      (.ok ⟨.integer 0, .integer 7, .integer 1⟩) := by
  have heast : Summary.distinctValues eastRows 0 = .ok [.integer 0, .integer 1] := by
    show Summary.sortedDistinct [.integer 0, .integer 1, .float (Double.ofInt 1)] = _
    rw [Summary.sortedDistinct_of_sorted (by unfold Summary.OneDomain; decide) (by decide +kernel)]
    exact congrArg Except.ok (by decide +kernel)
  have hwest : Summary.distinctValues westRows 0 = .ok [.float Double.zero.neg, .integer 7] := by
    show Summary.sortedDistinct [.float Double.zero.neg, .integer 7] = _
    rw [Summary.sortedDistinct_of_sorted (by unfold Summary.OneDomain; decide) (by decide +kernel)]
    exact congrArg Except.ok (by decide +kernel)
  have heast : ((sizeSource eastRows).numericSpec "size").Gives Session.fresh.files
      (.ok ⟨.integer 0, .integer 1, .integer 1⟩) := gives_sizeSource heast (by decide +kernel)
  have hwest : ((sizeSource westRows).numericSpec "size").Gives Session.fresh.files
      (.ok ⟨.float Double.zero.neg, .integer 7, .float (Double.ofInt 7)⟩) :=
    gives_sizeSource hwest (by decide +kernel)
  have hmerged : (⟨.integer 0, .integer 1, .integer 1⟩ : NumericSpec).merge
      ⟨.float Double.zero.neg, .integer 7, .float (Double.ofInt 7)⟩ =
        ⟨.integer 0, .integer 7, .integer 1⟩ := by decide +kernel
  have hservers : (Action.ofExcept (regions.servers none none)).Gives Session.fresh.files
      (.ok regions.entries) := gives_ofExcept _
  have hcollect : (mergedSpecs "size" none (regions.declaring "size" none none)).Gives
      Session.fresh.files (.ok (some ⟨.integer 0, .integer 7, .integer 1⟩)) := by
    refine heast.bind_ok (hwest.bind_ok ?_)
    rw [← hmerged]
    exact gives_pure _
  refine Gives.logged (hservers.bind_ok ?_) .numericSpec
  exact Gives.bind_ok hcollect (gives_pure _)

/-- Negative zero lies in a range that starts with zero. -/
theorem numericSpec_slider_regions :
    (∀ entry ∈ regions.declaring "size" none none,
      (entry.2.filteredRows (.inRange (.name "size") (.integer 0) (.integer 7))).Gives
        Session.fresh.files (.ok (regionRows entry))) ∧
    (∃ entry ∈ regions.declaring "size" none none, ∃ row ∈ regionRows entry, ∃ cell,
      entry.2.schema.cell? "size" row = some cell ∧ cell.sameAs (.integer 0) = true) ∧
    (∃ entry ∈ regions.declaring "size" none none, ∃ row ∈ regionRows entry, ∃ cell,
      entry.2.schema.cell? "size" row = some cell ∧ cell.sameAs (.integer 7) = true) ∧
    (integer 1).compare? (.integer 0) = some .gt := by
  have hsteady : ∀ entry ∈ regions.declaring "size" none none,
      entry.2.Steady Session.fresh.files (regionRows entry) ∧
        (regionRows entry).length ≤ maxRowId := by
    refine List.forall_mem_cons.mpr ⟨⟨fun _ => rfl, by decide⟩, ?_⟩
    exact List.forall_mem_singleton.mpr ⟨fun _ => rfl, by decide⟩
  exact numericSpec_slider hsteady (by decide +kernel) (gives_regions Session.fresh rfl).1

end Registry

end Winnow
