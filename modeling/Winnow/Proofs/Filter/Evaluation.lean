import Winnow.Filter
import Winnow.Proofs.Faults
import Winnow.RowSet.Lemmas

/-!
# `Winnow.Proofs.Filter.Evaluation` — a filter selects the rows on which it holds

A filter is evaluated leaf by leaf over all rows, and the sets of its leaves are folded within the
universe of all positions. Its plain reading looks at one row and no sets. Here the two are shown to
agree: `Selects` relates a set to the filter whose rows it holds, every leaf makes such a set, and
the fold of a combinator keeps the relation.

## Contents
- **`Filter.induction`**: induction over filters, with the claim at hand for every argument.
- **`allHold_iff`**, **`someHolds_iff`**: the plain reading of a list of arguments.
- **`testFrom_spec`**, **`contains_leafSet`**: the leaves.
- **`selects_fold`**: one combinator; **`selects_indexWithin`**: whole filters.
- **`contains_index_iff`**: a position is selected when its row satisfies the filter.
-/

namespace Winnow

open RowSet

/-! ## Induction over filters -/

/-- To show something of every filter, a combinator may rely on it for each of its arguments. -/
@[elab_as_elim, induction_eliminator]
theorem Filter.induction {motive : Filter → Prop}
    (combine : ∀ combinator arguments, (∀ argument ∈ arguments, motive argument) →
      motive (.combine combinator arguments))
    (inList : ∀ column values, motive (.inList column values))
    (inRange : ∀ column min max, motive (.inRange column min max))
    (filter : Filter) : motive filter :=
  @Filter.rec motive (fun arguments => ∀ argument ∈ arguments, motive argument)
    combine inList inRange
    (fun _ h => absurd h List.not_mem_nil)
    (fun _ _ first rest => List.forall_mem_cons.mpr ⟨first, rest⟩)
    filter

namespace Filter

/-! ## The plain reading over lists -/

theorem allHold_iff {row : Row} {filters : List Filter} :
    AllHold row filters ↔ ∀ filter ∈ filters, filter.Holds row := by
  induction filters with
  | nil => simp [AllHold]
  | cons first rest ih => simp [AllHold, ih]

theorem someHolds_iff {row : Row} {filters : List Filter} :
    SomeHolds row filters ↔ ∃ filter ∈ filters, filter.Holds row := by
  induction filters with
  | nil => simp [SomeHolds]
  | cons first rest ih => simp [SomeHolds, ih]

/-- Arguments are evaluated one after the other. -/
theorem indexAll_eq_mapM (rows : List Row) (everyRow : RowSet) (filters : List Filter) :
    indexAll rows everyRow filters = filters.mapM (indexWithin rows everyRow) := by
  induction filters with
  | nil => rfl
  | cons first rest ih =>
    rw [List.mapM_cons, ← ih]
    rfl

/-! ## Leaves -/

/-- A row passes the test of a leaf: it has a cell in the column, and the test lets it through. -/
def Passes (column : Nat) (test : Cell → Except Error Bool) (row : Row) : Prop :=
  ∃ cell, row[column]? = some cell ∧ test cell = .ok true

theorem cellAt_eq_ok_iff {row : Row} {position column : Nat} {cell : Cell} :
    cellAt row position column = .ok cell ↔ row[column]? = some cell := by
  unfold cellAt
  cases row[column]? with
  | none => simp
  | some held => simp

theorem orderOf_eq_ok_iff {cell bound : Cell} {o : Ordering} :
    orderOf cell bound = .ok o ↔ cell.compare? bound = some o := by
  unfold orderOf
  cases cell.compare? bound with
  | none => simp
  | some found => simp

/-- The flag that a leaf gives to a row tells whether the row passes. -/
theorem testRow_spec {column position : Nat} {test : Cell → Except Error Bool} {row : Row}
    {flag : Bool} (h : testRow column test position row = .ok flag) :
    flag = true ↔ Passes column test row := by
  obtain ⟨cell, hcell, h⟩ := bind_eq_ok_iff.mp h
  obtain ⟨passes, htest, h⟩ := bind_eq_ok_iff.mp h
  -- a row that passes is given its position, which leaves the flag as it is
  have hflag : flag = passes := by
    cases passes with
    | false => exact (Except.ok.inj h).symm
    | true =>
      rw [if_pos rfl] at h
      cases hid : rowId position with
      | error e => rw [hid] at h; cases h
      | ok id => rw [hid] at h; exact (Except.ok.inj h).symm
  have hheld := cellAt_eq_ok_iff.mp hcell
  rw [hflag]
  constructor
  · rintro rfl
    exact ⟨cell, hheld, htest⟩
  · rintro ⟨cell', hheld', htest'⟩
    obtain rfl : cell = cell' := Option.some.inj (hheld.symm.trans hheld')
    exact Except.ok.inj (htest.symm.trans htest')

/-- Rows are tested one after the other. -/
theorem testFrom_cons (column : Nat) (test : Cell → Except Error Bool) (position : Nat)
    (found : List Bool) (row : Row) (rest : List Row) :
    testFrom column test position found (row :: rest) =
      testRow column test position row >>= fun flag =>
        testFrom column test (position + 1) (flag :: found) rest := by
  rw [testFrom]
  cases testRow column test position row <;> rfl

/-- The flags of the rows follow those found before, and each tells whether its row passes. -/
theorem testFrom_spec {column : Nat} {test : Cell → Except Error Bool} {rows : List Row} :
    ∀ {position : Nat} {found flags : List Bool},
      testFrom column test position found rows = .ok flags →
      ∃ new, flags = found.reverse ++ new ∧
        List.Forall₂ (fun row flag => flag = true ↔ Passes column test row) rows new := by
  induction rows with
  | nil =>
    intro position found flags h
    exact ⟨[], by rw [List.append_nil]; exact (Except.ok.inj h).symm, .nil⟩
  | cons row rest ih =>
    intro position found flags h
    rw [testFrom_cons] at h
    obtain ⟨flag, hrow, h⟩ := bind_eq_ok_iff.mp h
    -- the flag of this row is the last one found when the rest begins
    obtain ⟨new, hflags, hnew⟩ := ih h
    refine ⟨flag :: new, ?_, .cons (testRow_spec hrow) hnew⟩
    rw [hflags, List.reverse_cons, List.append_assoc]
    rfl

/-- The set of a leaf holds the positions of the rows that pass. -/
theorem contains_leafSet {column : Nat} {test : Cell → Except Error Bool} {rows : List Row}
    {set : RowSet} (h : leafSet column test rows = .ok set) (i : Nat) :
    set.contains i = true ↔ ∃ row, rows[i]? = some row ∧ Passes column test row := by
  unfold leafSet at h
  cases hflags : testFrom column test 0 [] rows with
  | error e => rw [hflags] at h; cases h
  | ok flags =>
    rw [hflags] at h
    obtain rfl : ofFlags flags = set := Except.ok.inj h
    obtain ⟨_, rfl, hspec⟩ := testFrom_spec hflags
    rw [contains_ofFlags]
    cases hrow : rows[i]? with
    | none =>
      -- there are as many flags as rows, so none stands at this position
      have hlen : flags.length ≤ i := by
        rw [← hspec.length_eq]
        exact List.getElem?_eq_none_iff.mp hrow
      rw [List.getElem?_eq_none hlen]
      simp
    | some row =>
      obtain ⟨hi, hget⟩ := List.getElem?_eq_some_iff.mp hrow
      have hi' : i < flags.length := hspec.length_eq ▸ hi
      have hflag := hspec.get hi hi'
      rw [List.get_eq_getElem, List.get_eq_getElem, hget] at hflag
      rw [List.getElem?_eq_getElem hi', Option.getD_some]
      constructor
      · intro hpass
        exact ⟨row, rfl, hflag.mp hpass⟩
      · rintro ⟨row', hrow', hpass⟩
        cases hrow'
        exact hflag.mpr hpass

theorem passes_listed {column : Nat} {values : List Cell} {row : Row} :
    Passes column (fun cell => .ok (listed values cell)) row ↔
      Holds row (.inList column values) := by
  unfold Holds Passes listed
  simp only [Except.ok.injEq, List.any_eq_true]

theorem passes_ranged {column : Nat} {min max : Cell} {row : Row} :
    Passes column (ranged min max) row ↔ Holds row (.inRange column min max) := by
  unfold Holds Passes
  refine exists_congr fun cell => and_congr_right fun _ => ?_
  constructor
  · intro h
    obtain ⟨low, hlow, h⟩ := bind_eq_ok_iff.mp h
    obtain ⟨high, hhigh, h⟩ := bind_eq_ok_iff.mp h
    have hboth := Except.ok.inj h
    rw [Bool.and_eq_true, bne_iff_ne, bne_iff_ne] at hboth
    exact ⟨⟨low, orderOf_eq_ok_iff.mp hlow, hboth.1⟩, ⟨high, orderOf_eq_ok_iff.mp hhigh, hboth.2⟩⟩
  · rintro ⟨⟨low, hlow, hmin⟩, ⟨high, hhigh, hmax⟩⟩
    refine bind_eq_ok_iff.mpr ⟨low, orderOf_eq_ok_iff.mpr hlow,
      bind_eq_ok_iff.mpr ⟨high, orderOf_eq_ok_iff.mpr hhigh, ?_⟩⟩
    show Except.ok _ = _
    rw [bne_iff_ne.mpr hmin, bne_iff_ne.mpr hmax]
    rfl

/-! ## Combinators -/

/-- **The invariant of evaluation.** A set selects by a filter when it holds the positions of
    exactly those rows that satisfy the filter, and so none beyond the rows. -/
def Selects (rows : List Row) (filter : Filter) (set : RowSet) : Prop :=
  ∀ i, set.contains i = true ↔ ∃ row, rows[i]? = some row ∧ filter.Holds row

/-- The universe holds the positions that have a row. -/
theorem contains_universe (rows : List Row) (i : Nat) :
    (interval 0 rows.length).contains i = true ↔ ∃ row, rows[i]? = some row := by
  rw [contains_interval]
  constructor
  · intro h
    have hi : i < rows.length := by simpa using h
    exact ⟨rows[i], List.getElem?_eq_getElem hi⟩
  · rintro ⟨row, hrow⟩
    simpa using (List.getElem?_eq_some_iff.mp hrow).1

/-- Intersecting keeps the positions at which every argument selects. -/
theorem contains_foldl_intersect {rows : List Row} {arguments : List Filter} {sets : List RowSet}
    (h : List.Forall₂ (Selects rows) arguments sets) (start : RowSet) (i : Nat) :
    (sets.foldl intersect start).contains i = true ↔
      start.contains i = true ∧
        ∀ argument ∈ arguments, ∃ row, rows[i]? = some row ∧ argument.Holds row := by
  induction h generalizing start with
  | nil => simp
  | cons hfirst _ ih =>
    rw [List.foldl_cons, ih, contains_intersect, Bool.and_eq_true, hfirst i, List.forall_mem_cons,
      and_assoc]

/-- Uniting adds the positions at which some argument selects. -/
theorem contains_foldl_union {rows : List Row} {arguments : List Filter} {sets : List RowSet}
    (h : List.Forall₂ (Selects rows) arguments sets) (start : RowSet) (i : Nat) :
    (sets.foldl union start).contains i = true ↔
      start.contains i = true ∨
        ∃ argument ∈ arguments, ∃ row, rows[i]? = some row ∧ argument.Holds row := by
  induction h generalizing start with
  | nil => simp
  | cons hfirst _ ih =>
    rw [List.foldl_cons, ih, contains_union, Bool.or_eq_true, hfirst i, List.exists_mem_cons_iff,
      or_assoc]

/-- **One combinator.** If every argument has a set that selects by it, the fold of these sets
    selects by the combinator. -/
theorem selects_fold {rows : List Row} {arguments : List Filter} {sets : List RowSet}
    (h : List.Forall₂ (Selects rows) arguments sets) (combinator : Combinator) :
    Selects rows (.combine combinator arguments)
      (fold (interval 0 rows.length) combinator sets) := by
  intro i
  have huniverse := contains_universe rows i
  cases hrow : rows[i]? with
  | none =>
    -- no row: the universe excludes the position, and no argument can bring it in
    have houtside : (interval 0 rows.length).contains i = false := by
      rw [hrow] at huniverse
      exact Bool.eq_false_iff.mpr fun hin => by simpa using huniverse.mp hin
    cases combinator with
    | all => simp [fold, contains_foldl_intersect h, houtside]
    | any => simp [fold, contains_foldl_union h, contains_empty, hrow]
    | none => simp [fold, contains_difference, houtside]
  | some row =>
    -- a row: the universe has the position, and what is left is the plain reading on the row
    have hinside : (interval 0 rows.length).contains i = true := huniverse.mpr ⟨row, hrow⟩
    have hany : (sets.foldl union RowSet.empty).contains i = true ↔ SomeHolds row arguments := by
      rw [contains_foldl_union h, contains_empty, someHolds_iff]
      simp [hrow]
    cases combinator with
    | all =>
      show (sets.foldl intersect _).contains i = true ↔ _
      rw [contains_foldl_intersect h]
      simp [hinside, hrow, Holds, allHold_iff]
    | any =>
      show (sets.foldl union _).contains i = true ↔ _
      rw [hany]
      simp [Holds]
    | none =>
      show ((interval 0 rows.length).difference _).contains i = true ↔ _
      rw [contains_difference, hinside, Bool.true_and, Bool.not_eq_true', ← Bool.not_eq_true, hany]
      simp [Holds]

/-- **Whole filters.** What evaluation within the universe gives selects by the filter, at every
    node of the tree. -/
theorem selects_indexWithin {rows : List Row} {filter : Filter} :
    ∀ {set : RowSet}, filter.indexWithin rows (interval 0 rows.length) = .ok set →
      Selects rows filter set := by
  induction filter with
  | combine combinator arguments ih =>
    intro set h
    rw [indexWithin, indexAll_eq_mapM] at h
    obtain ⟨sets, hsets, h⟩ := bind_eq_ok_iff.mp h
    obtain rfl : fold _ combinator sets = set := Except.ok.inj h
    -- the set of each argument selects by the induction hypothesis for it
    have hselects : List.Forall₂ (Selects rows) arguments sets :=
      ((List.forall₂_and_left _ _).mpr ⟨ih, mapM_eq_ok_iff.mp hsets⟩).imp fun _ _ h => h.1 h.2
    exact selects_fold hselects combinator
  | inList column values =>
    intro set h i
    rw [contains_leafSet h]
    simp only [passes_listed]
  | inRange column min max =>
    intro set h i
    rw [contains_leafSet h]
    simp only [passes_ranged]

/-! ## Filters on rows -/

theorem index_of_le {rows : List Row} (h : rows.length ≤ maxRowId) (filter : Filter) :
    filter.index rows = filter.indexWithin rows (interval 0 rows.length) := by
  rw [index, full?_of_le h]
  rfl

/-- Too many rows are refused before the filter is looked at. -/
theorem index_of_lt {rows : List Row} (h : maxRowId < rows.length) (filter : Filter) :
    filter.index rows = .error (.badRequest .tooManyRows) := by
  rw [index, full?_of_lt h]
  rfl

/-- A filter with a result was given no more rows than there are positions. -/
theorem length_le_of_index {filter : Filter} {rows : List Row} {set : RowSet}
    (h : filter.index rows = .ok set) : rows.length ≤ maxRowId := by
  by_cases hle : rows.length ≤ maxRowId
  · exact hle
  · rw [index_of_lt (Nat.lt_of_not_le hle)] at h
    cases h

theorem selects_index {filter : Filter} {rows : List Row} {set : RowSet}
    (h : filter.index rows = .ok set) : Selects rows filter set := by
  rw [index_of_le (length_le_of_index h)] at h
  exact selects_indexWithin h

/-- **Filters mean what they say.** The positions that a filter selects are those of the rows that
    satisfy it one by one, under the plain reading of its operators. -/
theorem contains_index_iff {filter : Filter} {rows : List Row} {set : RowSet}
    (h : filter.index rows = .ok set) (i : Nat) :
    set.contains i = true ↔ ∃ hi : i < rows.length, filter.Holds rows[i] := by
  rw [selects_index h i]
  constructor
  · rintro ⟨row, hrow, hholds⟩
    obtain ⟨hi, rfl⟩ := List.getElem?_eq_some_iff.mp hrow
    exact ⟨hi, hholds⟩
  · rintro ⟨hi, hholds⟩
    exact ⟨rows[i], List.getElem?_eq_getElem hi, hholds⟩

/-- Two levels of negation over a list, a range with bounds of both kinds, and a list again. -/
def negations : Filter :=
  .combine .none [
    .combine .all [
      .inList 0 [.string "a"],
      .combine .none [.inRange 1 (.integer 3) (.float (Double.ofInt 6))]],
    .inList 1 [.float (Double.ofInt 7)]]

/-- Four rows, of which the second and the third are the ones that `negations` leaves out. -/
def negationRows : List Row :=
  [[.string "a", .integer 6], [.string "b", .integer 7],
    [.string "a", .float (Double.ofInt 9)], [.string "c", .integer 3]]

theorem contains_index_negations :
    ∃ set, negations.index negationRows = .ok set ∧
      ∀ i, set.contains i = true ↔
        ∃ hi : i < negationRows.length, negations.Holds negationRows[i] := by
  have hnone : (fault? (negations.index negationRows)).isNone = true := by decide +kernel
  obtain ⟨set, hset⟩ := fault?_eq_none_iff.mp (Option.isNone_iff_eq_none.mp hnone)
  exact ⟨set, hset, contains_index_iff hset⟩

end Filter

end Winnow
