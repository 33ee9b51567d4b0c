import Winnow.Proofs.Filter.Evaluation

/-!
# `Winnow.Proofs.Filter.Failure` — when and how a filter fails

Evaluation fails on data, never on the shape of a filter: some leaf meets a row without a cell in
its column, or with a cell that does not compare with a bound. No leaf and no row is passed over, so
the fault reported is the first one in the order of the leaves, and for a leaf in that of the rows.

## Contents
- **`Leaf`**, **`leaves`**: what the leaves of a filter read, from left to right.
- **`Leaf.Fails`**, **`Leaf.fault?`**: a leaf on one row; **`Leaf.firstFault?`**: on all rows.
- **`fault?_testFrom`**, **`fault?_indexWithin`**: evaluation ends with the first of these faults.
- **`not_fails_inList`**, **`not_fails_inRange`**: rows on which a single leaf does not fail.
- **`FirstFault`**, **`index_failure`**: which fault that is, and when there is one.
-/

namespace Winnow.Filter

open RowSet

/-! ## Leaves -/

/-- What a leaf reads of a row: the cell in a column, which it compares with some bounds, one after
    the other. A list of values has none, since cells that do not compare are just not listed. -/
structure Leaf where
  column : Nat
  bounds : List Cell
  deriving DecidableEq

mutual

/-- The leaves of a filter, depth first and from left to right. -/
def leaves : Filter → List Leaf
  | combine _ arguments => leavesAll arguments
  | inList column _ => [⟨column, []⟩]
  | inRange column min max => [⟨column, [min, max]⟩]

/-- The leaves of filters, one filter after the other. -/
def leavesAll : List Filter → List Leaf
  | [] => []
  | filter :: rest => leaves filter ++ leavesAll rest

end

namespace Leaf

/-- A leaf fails on a row that has no cell in its column, or whose cell does not compare with some
    bound. -/
def Fails (leaf : Leaf) (row : Row) : Prop :=
  row[leaf.column]? = none ∨
    ∃ cell, row[leaf.column]? = some cell ∧ ∃ bound ∈ leaf.bounds, cell.compare? bound = none

/-- The fault of a leaf on the row at a position: a missing cell comes before the bounds, and these
    come in their order. -/
def fault? (leaf : Leaf) (position : Nat) (row : Row) : Option Error :=
  match row[leaf.column]? with
  | none => some (.rowShape position row.length leaf.column)
  | some cell =>
    (leaf.bounds.find? fun bound => (cell.compare? bound).isNone).map (.incomparable cell)

/-- The first fault of a leaf on rows, of which the first is at a position. -/
def firstFault? (leaf : Leaf) (position : Nat) : List Row → Option Error
  | [] => none
  | row :: rest => (leaf.fault? position row).or (firstFault? leaf (position + 1) rest)

theorem fault?_eq_none_iff {leaf : Leaf} {position : Nat} {row : Row} :
    leaf.fault? position row = none ↔ ¬ leaf.Fails row := by
  unfold fault? Fails
  cases row[leaf.column]? with
  | none => simp
  | some cell => simp [Option.ne_none_iff_isSome]

/-- A fault is a missing cell or a pair that does not compare. -/
theorem fault?_cases {leaf : Leaf} {position : Nat} {row : Row} {e : Error}
    (h : leaf.fault? position row = some e) :
    (row[leaf.column]? = none ∧ e = .rowShape position row.length leaf.column) ∨
      ∃ cell bound, row[leaf.column]? = some cell ∧ bound ∈ leaf.bounds ∧
        cell.compare? bound = none ∧ e = .incomparable cell bound := by
  unfold fault? at h
  cases hcell : row[leaf.column]? with
  | none =>
    rw [hcell] at h
    exact Or.inl ⟨rfl, (Option.some.inj h).symm⟩
  | some cell =>
    rw [hcell] at h
    obtain ⟨bound, hfind, rfl⟩ := Option.map_eq_some_iff.mp h
    have hnone := List.find?_some hfind
    exact Or.inr ⟨cell, bound, rfl, List.mem_of_find?_eq_some hfind,
      Option.isNone_iff_eq_none.mp hnone, rfl⟩

theorem firstFault?_eq_none_iff {leaf : Leaf} {rows : List Row} :
    ∀ {position : Nat}, leaf.firstFault? position rows = none ↔ ∀ row ∈ rows, ¬ leaf.Fails row := by
  induction rows with
  | nil => simp [firstFault?]
  | cons row rest ih =>
    intro position
    rw [firstFault?, Option.or_eq_none_iff, fault?_eq_none_iff, ih, List.forall_mem_cons]

/-- The first fault is that of the first row on which the leaf fails. -/
theorem firstFault?_eq_some_iff {leaf : Leaf} {rows : List Row} {e : Error} :
    ∀ {position : Nat}, leaf.firstFault? position rows = some e ↔
      ∃ early row late, rows = early ++ row :: late ∧ (∀ other ∈ early, ¬ leaf.Fails other) ∧
        leaf.fault? (position + early.length) row = some e := by
  induction rows with
  | nil => simp [firstFault?]
  | cons row rest ih =>
    intro position
    rw [firstFault?, Option.or_eq_some_iff, ih]
    constructor
    · rintro (h | ⟨hnone, early, found, late, rfl, hclear, h⟩)
      · exact ⟨[], row, rest, rfl, fun _ hmem => absurd hmem List.not_mem_nil, h⟩
      · refine ⟨row :: early, found, late, rfl, ?_, ?_⟩
        · exact List.forall_mem_cons.mpr ⟨fault?_eq_none_iff.mp hnone, hclear⟩
        · rw [List.length_cons, Nat.add_comm early.length 1, ← Nat.add_assoc]
          exact h
    · rintro ⟨early, found, late, hrows, hclear, h⟩
      cases early with
      | nil =>
        obtain ⟨rfl, rfl⟩ := List.cons.inj hrows
        exact Or.inl h
      | cons first early =>
        obtain ⟨rfl, rfl⟩ := List.cons.inj hrows
        obtain ⟨hfirst, hclear⟩ := List.forall_mem_cons.mp hclear
        -- the row found lies one further on from the first row than from the rest
        refine Or.inr ⟨fault?_eq_none_iff.mpr hfirst, early, found, late, rfl, hclear, ?_⟩
        rw [List.length_cons, Nat.add_comm early.length 1, ← Nat.add_assoc] at h
        exact h

end Leaf

/-! ## Evaluation of leaves -/

/-- A row is tested up to its fault; its position is in bounds, so that selecting it adds none. -/
theorem fault?_testRow {column position : Nat} {test : Cell → Except Error Bool} {row : Row}
    (h : position ≤ maxRowId) :
    fault? (testRow column test position row) =
      match row[column]? with
      | none => some (.rowShape position row.length column)
      | some cell => fault? (test cell) := by
  unfold testRow cellAt
  cases row[column]? with
  | none => rfl
  | some cell =>
    show fault? (test cell >>= _) = fault? (test cell)
    refine (fault?_bind fun passes _ => ?_).trans Option.or_none
    cases passes with
    | false => rfl
    | true => rw [if_pos rfl, fault?_map, rowId_of_le h]; rfl

theorem fault?_orderOf (cell bound : Cell) :
    fault? (orderOf cell bound) =
      if (cell.compare? bound).isNone then some (.incomparable cell bound) else none := by
  unfold orderOf
  cases cell.compare? bound <;> rfl

/-- A range compares a cell with its lower bound first. -/
theorem fault?_ranged (min max cell : Cell) :
    fault? (ranged min max cell) =
      ([min, max].find? fun bound => (cell.compare? bound).isNone).map (.incomparable cell) := by
  unfold ranged
  have hmax : ∀ low, fault? (orderOf cell max >>= fun high =>
      (pure (low != Ordering.lt && high != Ordering.gt) : Except Error Bool)) =
      fault? (orderOf cell max) := fun low => fault?_bind_pure _ _
  rw [fault?_bind fun low _ => hmax low, fault?_orderOf, fault?_orderOf]
  cases hlow : cell.compare? min <;> cases hhigh : cell.compare? max <;> simp [hlow, hhigh]

theorem fault?_testRow_listed {column position : Nat} {values : List Cell} {row : Row}
    (h : position ≤ maxRowId) :
    fault? (testRow column (fun cell => .ok (listed values cell)) position row) =
      Leaf.fault? ⟨column, []⟩ position row := by
  rw [fault?_testRow h, Leaf.fault?]
  cases row[column]? <;> rfl

theorem fault?_testRow_ranged {column position : Nat} {min max : Cell} {row : Row}
    (h : position ≤ maxRowId) :
    fault? (testRow column (ranged min max) position row) =
      Leaf.fault? ⟨column, [min, max]⟩ position row := by
  rw [fault?_testRow h, Leaf.fault?]
  cases row[column]? with
  | none => rfl
  | some cell => exact fault?_ranged min max cell

/-- Testing rows one after the other ends with the first fault of the leaf. -/
theorem fault?_testFrom {leaf : Leaf} {test : Cell → Except Error Bool}
    (htest : ∀ position row, position ≤ maxRowId →
      fault? (testRow leaf.column test position row) = leaf.fault? position row)
    {rows : List Row} :
    ∀ {position : Nat} {found : List Bool}, position + rows.length ≤ maxRowId →
      fault? (testFrom leaf.column test position found rows) = leaf.firstFault? position rows := by
  induction rows with
  | nil =>
    intro position found _
    rfl
  | cons row rest ih =>
    intro position found hbound
    rw [List.length_cons] at hbound
    -- the rest begins one position further on and has one row less, so it stays within the bound
    have hrest : ∀ flag, fault? (testFrom leaf.column test (position + 1) (flag :: found) rest) =
        leaf.firstFault? (position + 1) rest := fun flag => ih (by omega)
    rw [testFrom_cons, fault?_bind fun flag _ => hrest flag, htest position row (by omega)]
    rfl

theorem fault?_leafSet {leaf : Leaf} {test : Cell → Except Error Bool}
    (htest : ∀ position row, position ≤ maxRowId →
      fault? (testRow leaf.column test position row) = leaf.fault? position row)
    {rows : List Row} (h : rows.length ≤ maxRowId) :
    fault? (leafSet leaf.column test rows) = leaf.firstFault? 0 rows := by
  rw [leafSet, fault?_map]
  exact fault?_testFrom htest (by omega)

/-! ## Rows on which a leaf does not fail -/

/-- A list of values could only miss the cell. -/
theorem not_fails_inList {column : Nat} {values : List Cell} {row : Row}
    (hcell : ∃ cell, row[column]? = some cell) :
    ∀ leaf ∈ (inList column values).leaves, ¬ leaf.Fails row := by
  intro leaf hleaf hfails
  obtain rfl := List.mem_singleton.mp hleaf
  obtain ⟨cell, hcell⟩ := hcell
  rcases hfails with hnone | ⟨_, _, bound, hbound, _⟩
  · cases hcell.symm.trans hnone
  · cases hbound

/-- A range compares the cell with the lower bound, and with the upper one. -/
theorem not_fails_inRange {column : Nat} {min max cell : Cell} {row : Row}
    (hcell : row[column]? = some cell) (hmin : cell.compare? min ≠ none)
    (hmax : cell.compare? max ≠ none) :
    ∀ leaf ∈ (inRange column min max).leaves, ¬ leaf.Fails row := by
  intro leaf hleaf hfails
  obtain rfl := List.mem_singleton.mp hleaf
  rcases hfails with hnone | ⟨other, hother, bound, hbound, hincomparable⟩
  · cases hcell.symm.trans hnone
  · obtain rfl := Option.some.inj (hcell.symm.trans hother)
    rcases List.mem_pair.mp hbound with rfl | rfl
    · exact hmin hincomparable
    · exact hmax hincomparable

/-! ## Evaluation of filters -/

theorem findSome?_leavesAll {β : Type} (f : Leaf → Option β) (filters : List Filter) :
    (leavesAll filters).findSome? f =
      filters.findSome? fun filter => filter.leaves.findSome? f := by
  induction filters with
  | nil => rfl
  | cons first rest ih => rw [leavesAll, List.findSome?_append, ih, findSome?_cons_or]

/-- **No leaf is passed over.** Evaluation ends with the first fault of the leaves, whatever the
    sets found before it. -/
theorem fault?_indexWithin {rows : List Row} (h : rows.length ≤ maxRowId) (everyRow : RowSet)
    (filter : Filter) :
    fault? (filter.indexWithin rows everyRow) =
      filter.leaves.findSome? fun leaf => leaf.firstFault? 0 rows := by
  induction filter with
  | combine combinator arguments ih =>
    rw [indexWithin, indexAll_eq_mapM, fault?_bind_pure, fault?_mapM, leaves, findSome?_leavesAll]
    exact findSome?_congr ih
  | inList column values =>
    rw [indexWithin, leaves, List.findSome?_singleton]
    exact @fault?_leafSet ⟨column, []⟩ _ (fun _ _ => fault?_testRow_listed) rows h
  | inRange column min max =>
    rw [indexWithin, leaves, List.findSome?_singleton]
    exact @fault?_leafSet ⟨column, [min, max]⟩ _ (fun _ _ => fault?_testRow_ranged) rows h

theorem fault?_index {rows : List Row} (h : rows.length ≤ maxRowId) (filter : Filter) :
    fault? (filter.index rows) = filter.leaves.findSome? fun leaf => leaf.firstFault? 0 rows := by
  rw [index_of_le h, fault?_indexWithin h]

/-- **The first fault** of a filter on rows is that of a leaf on a row, if no leaf before it fails
    on any row, and the leaf itself fails on no row before that one. -/
inductive FirstFault (filter : Filter) (rows : List Row) (e : Error) : Prop where
  | intro {before after : List Leaf} {leaf : Leaf} {early late : List Row} {row : Row}
      (inLeaves : filter.leaves = before ++ leaf :: after)
      (inRows : rows = early ++ row :: late)
      (clearLeaves : ∀ other ∈ before, ∀ any ∈ rows, ¬ other.Fails any)
      (clearRows : ∀ other ∈ early, ¬ leaf.Fails other)
      (fault : leaf.fault? early.length row = some e)

theorem index_eq_error_iff {rows : List Row} (h : rows.length ≤ maxRowId) {filter : Filter}
    {e : Error} : filter.index rows = .error e ↔ filter.FirstFault rows e := by
  rw [← fault?_eq_some_iff, fault?_index h, List.findSome?_eq_some_iff]
  constructor
  · rintro ⟨before, leaf, after, hleaves, hfault, hbefore⟩
    obtain ⟨early, row, late, hrows, hclear, hrow⟩ := Leaf.firstFault?_eq_some_iff.mp hfault
    rw [Nat.zero_add] at hrow
    exact .intro hleaves hrows
      (fun other hother => Leaf.firstFault?_eq_none_iff.mp (hbefore other hother)) hclear hrow
  · rintro ⟨hleaves, hrows, hbefore, hclear, hrow⟩
    refine ⟨_, _, _, hleaves, Leaf.firstFault?_eq_some_iff.mpr ⟨_, _, _, hrows, hclear, ?_⟩,
      fun other hother => Leaf.firstFault?_eq_none_iff.mpr (hbefore other hother)⟩
    rw [Nat.zero_add]
    exact hrow

/-- A filter has a result exactly when no leaf fails on a row. -/
theorem exists_error_index_iff {rows : List Row} (h : rows.length ≤ maxRowId) {filter : Filter} :
    (∃ e, filter.index rows = .error e) ↔ ∃ leaf ∈ filter.leaves, ∃ row ∈ rows, leaf.Fails row := by
  rw [exists_error_iff, fault?_index h, List.findSome?_isSome_iff]
  refine exists_congr fun leaf => and_congr_right fun _ => ?_
  rw [Option.isSome_iff_ne_none, Ne, Leaf.firstFault?_eq_none_iff]
  simp

/-- A fault of evaluation lies in some row, at some leaf. -/
theorem FirstFault.cases {filter : Filter} {rows : List Row} {e : Error}
    (h : filter.FirstFault rows e) :
    (∃ leaf ∈ filter.leaves, ∃ position, ∃ row ∈ rows, row[leaf.column]? = none ∧
        e = .rowShape position row.length leaf.column) ∨
      ∃ cell bound, cell.compare? bound = none ∧ e = .incomparable cell bound := by
  obtain ⟨hleaves, hrows, _, _, hfault⟩ := h
  rcases Leaf.fault?_cases hfault with ⟨hnone, he⟩ | ⟨cell, bound, _, _, hcompare, he⟩
  · refine Or.inl ⟨_, ?_, _, _, ?_, hnone, he⟩
    · rw [hleaves]
      exact List.mem_append_right _ List.mem_cons_self
    · rw [hrows]
      exact List.mem_append_right _ List.mem_cons_self
  · exact Or.inr ⟨cell, bound, hcompare, he⟩

/-- **When and how a filter fails.** Too many rows are refused as such. Otherwise a filter fails
    exactly when some leaf anywhere in it fails on some row, always with the first fault in the
    order of leaves, rows and bounds, and so only for a missing cell or for cells that do not
    compare. -/
theorem index_failure (filter : Filter) (rows : List Row) :
    (maxRowId < rows.length → filter.index rows = .error (.badRequest .tooManyRows)) ∧
    (rows.length ≤ maxRowId →
      ((∃ e, filter.index rows = .error e) ↔
        ∃ leaf ∈ filter.leaves, ∃ row ∈ rows, leaf.Fails row) ∧
      (∀ e, filter.index rows = .error e ↔ filter.FirstFault rows e) ∧
      ∀ e, filter.index rows = .error e →
        (∃ position length column, e = .rowShape position length column) ∨
          ∃ cell bound, e = .incomparable cell bound) := by
  refine ⟨fun h => index_of_lt h filter, fun h => ⟨exists_error_index_iff h, ?_, ?_⟩⟩
  · intro e
    exact index_eq_error_iff h
  · intro e he
    rcases (index_eq_error_iff h |>.mp he).cases with
      ⟨leaf, _, position, row, _, _, rfl⟩ | ⟨cell, bound, _, rfl⟩
    · exact Or.inl ⟨position, row.length, leaf.column, rfl⟩
    · exact Or.inr ⟨cell, bound, rfl⟩

/-- A list that looks at the first column, and then a range over the second one. -/
def listThenRange : Filter :=
  .combine .any [.inList 0 [.integer 1], .inRange 1 (.integer 3) (.integer 6)]

/-- The second row has a string where the range asks for a number, the third has no cell there. -/
def unevenRows : List Row :=
  [[.integer 1, .integer 4], [.integer 2, .string "x"], [.integer 3]]

theorem index_failure_uneven :
    (∃ rows, listThenRange.index rows = .error (.badRequest .tooManyRows)) ∧
      listThenRange.index unevenRows = .error (.incomparable (.string "x") (.integer 3)) := by
  constructor
  · refine ⟨List.replicate (maxRowId + 1) [], (index_failure listThenRange _).1 ?_⟩
    rw [List.length_replicate]
    exact Nat.lt_succ_self maxRowId
  · have hle : unevenRows.length ≤ maxRowId := by decide
    refine (((index_failure listThenRange unevenRows).2 hle).2.1 _).mpr ?_
    -- the list comes first and fails nowhere; the range fails on the second row
    refine @FirstFault.intro _ _ _ [⟨0, []⟩] [] ⟨1, [.integer 3, .integer 6]⟩
      [[.integer 1, .integer 4]] [[.integer 3]] [.integer 2, .string "x"] rfl rfl ?_ ?_ rfl
    · simp [unevenRows, Leaf.Fails]
    · simp [Leaf.Fails, Cell.compare?]

end Winnow.Filter
