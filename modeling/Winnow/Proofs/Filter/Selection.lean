import Mathlib.Data.List.Sort
import Winnow.Proofs.Filter.Failure

/-!
# `Winnow.Proofs.Filter.Selection` — the rows that a filter leaves

The rows that pass are taken out in two ways: looked up at the positions of a set, or picked in one
pass that asks the set at every position. Both are the plain filter of the list by its reading on
single rows, so they agree, keep the order and keep repeated rows.

## Contents
- **`keepFrom_eq_filter`**, **`lookup_eq_filter`**: both ways of taking elements out of a list.
- **`decideHolds`**: the plain reading can be decided.
- **`apply_eq_map`**, **`retain_eq_map`**: what is left of the rows.
- **`exists_index_iff`** with **`exists_index_of_sublist`**: fewer rows do not fail anew.
- **`apply_partition`**: both ways agree, a second run changes nothing, and a negation takes the
  rest.
-/

namespace Winnow

/-! ## Elements at the positions of a set -/

namespace RowSet

open Bounds

variable {α : Type}

/-- In one pass, with `inside` telling the membership that the boundaries passed leave, the elements
    picked are those whose position is in the set. -/
theorem keepFrom_eq_filter {p : α → Bool} {xs : List α} :
    ∀ {position : Nat} {inside : Bool} {bounds : List Nat} {kept : List α}, Ascending bounds →
      (∀ y ∈ bounds, position ≤ y) →
      (∀ i x, xs[i]? = some x → (inside ^^ member bounds (position + i)) = p x) →
      keepFrom position inside bounds kept xs = kept.reverse ++ xs.filter p := by
  induction xs with
  | nil =>
    intro position inside bounds kept _ _ _
    rw [keepFrom, List.filter_nil, List.append_nil]
  | cons x rest ih =>
    intro position inside bounds kept sorted ahead h
    obtain ⟨sorted', beyond⟩ := cross_beyond inside sorted ahead
    -- behind the crossing no boundary is at this position, so the flag alone tells the membership
    have hflag : (cross position inside bounds).1 = p x := by
      have hx := h 0 x rfl
      rw [Nat.add_zero, ← member_cross inside bounds (Nat.le_refl position),
        member_before beyond, Bool.xor_false] at hx
      exact hx
    have hrest : ∀ i y, rest[i]? = some y →
        ((cross position inside bounds).1 ^^
          member (cross position inside bounds).2 (position + 1 + i)) = p y := by
      intro i y hy
      rw [member_cross inside bounds (by omega), Nat.add_assoc, Nat.add_comm 1 i]
      exact h (i + 1) y hy
    rw [keepFrom]
    dsimp only
    rw [ih sorted' beyond hrest, hflag]
    cases hp : p x with
    | false =>
      rw [List.filter_cons_of_neg (by simp [hp])]
      rfl
    | true =>
      rw [List.filter_cons_of_pos hp, if_pos rfl, List.reverse_cons, List.append_assoc]
      rfl

theorem keep_eq_filter {s : RowSet} {xs : List α} {p : α → Bool}
    (h : ∀ i x, xs[i]? = some x → s.contains i = p x) : s.keep xs = xs.filter p := by
  refine keepFrom_eq_filter s.ascending (fun _ _ => Nat.zero_le _) fun i x hx => ?_
  rw [Bool.false_xor, Nat.zero_add]
  exact h i x hx

/-- Looking up every position of a list gives the list. -/
theorem filterMap_getElem?_range (xs : List α) :
    (List.range xs.length).filterMap (xs[·]?) = xs := by
  induction xs with
  | nil => rfl
  | cons x rest ih =>
    rw [List.length_cons, List.range_succ_eq_map, List.filterMap_cons, List.filterMap_map]
    exact congrArg (x :: ·) ih

/-- A set whose members are the positions of the elements that pass lists these positions. -/
theorem positions_eq_filter_range {s : RowSet} {xs : List α} {p : α → Bool}
    (h : ∀ i, s.contains i = true ↔ ∃ x, xs[i]? = some x ∧ p x = true) :
    s.positions = (List.range xs.length).filter fun i => (xs[i]?).any p := by
  -- both lists ascend, so it is enough that they have the same members
  refine s.positions_ascending.eq_of_mem_iff (List.pairwise_lt_range.filter _) fun i => ?_
  rw [mem_positions, h, List.mem_filter, List.mem_range, Option.any_eq_true]
  constructor
  · rintro ⟨x, hx, hp⟩
    exact ⟨(List.getElem?_eq_some_iff.mp hx).1, x, hx, hp⟩
  · rintro ⟨_, hx⟩
    exact hx

theorem lookup_eq_filter {s : RowSet} {xs : List α} {p : α → Bool}
    (h : ∀ i, s.contains i = true ↔ ∃ x, xs[i]? = some x ∧ p x = true) :
    s.positions.filterMap (xs[·]?) = xs.filter p := by
  have hpick : ∀ o : Option α, (if o.any p = true then o else none) = o.filter p := by
    intro o
    cases o with
    | none => rfl
    | some x => cases hp : p x <;> simp [Option.filter, hp]
  calc s.positions.filterMap (xs[·]?)
      = (List.range xs.length).filterMap fun i => (xs[i]?).filter p := by
        rw [positions_eq_filter_range h, List.filterMap_filter]
        simp only [hpick]
    _ = ((List.range xs.length).filterMap (xs[·]?)).filter p := (List.filter_filterMap ..).symm
    _ = xs.filter p := by rw [filterMap_getElem?_range]

end RowSet

namespace Filter

open RowSet

/-! ## Deciding the plain reading -/

mutual

/-- The plain reading of a filter can be decided. -/
def decideHolds (row : Row) : (filter : Filter) → Decidable (filter.Holds row)
  | combine .all arguments => decideAllHold row arguments
  | combine .any arguments => decideSomeHolds row arguments
  | combine .none arguments => @instDecidableNot _ (decideSomeHolds row arguments)
  | inList column values =>
    inferInstanceAs (Decidable (∃ cell ∈ row[column]?, ∃ v ∈ values, cell.sameAs v = true))
  | inRange column min max =>
    inferInstanceAs (Decidable (∃ cell ∈ row[column]?,
      (∃ o ∈ cell.compare? min, o ≠ .lt) ∧ (∃ o ∈ cell.compare? max, o ≠ .gt)))

/-- That every filter of a list holds can be decided. -/
def decideAllHold (row : Row) : (filters : List Filter) → Decidable (AllHold row filters)
  | [] => inferInstanceAs (Decidable True)
  | filter :: rest => @instDecidableAnd _ _ (decideHolds row filter) (decideAllHold row rest)

/-- That some filter of a list holds can be decided. -/
def decideSomeHolds (row : Row) : (filters : List Filter) → Decidable (SomeHolds row filters)
  | [] => inferInstanceAs (Decidable False)
  | filter :: rest => @instDecidableOr _ _ (decideHolds row filter) (decideSomeHolds row rest)

end

instance (row : Row) (filter : Filter) : Decidable (filter.Holds row) := decideHolds row filter

/-! ## What is left of the rows -/

theorem index_eq_ok_contains {filter : Filter} {rows : List Row} {set : RowSet}
    (h : filter.index rows = .ok set) (i : Nat) :
    set.contains i = true ↔ ∃ row, rows[i]? = some row ∧ decide (filter.Holds row) = true := by
  simp only [decide_eq_true_eq]
  exact selects_index h i

/-- No position that is looked up lies outside the rows. -/
theorem position_lt_length {filter : Filter} {rows : List Row} {set : RowSet}
    (h : filter.index rows = .ok set) : ∀ i ∈ set.positions, i < rows.length := by
  intro i hi
  obtain ⟨row, hrow, _⟩ := (selects_index h i).mp (mem_positions.mp hi)
  exact (List.getElem?_eq_some_iff.mp hrow).1

/-- Looking up the positions leaves the rows that satisfy the filter. -/
theorem apply_eq_map (filter : Filter) (rows : List Row) :
    filter.apply rows =
      (filter.index rows).map fun _ => rows.filter fun row => filter.Holds row := by
  unfold apply
  cases hindex : filter.index rows with
  | error e => rfl
  | ok set =>
    show Except.ok (set.positions.filterMap (rows.toArray[·]?)) = Except.ok _
    simp only [List.getElem?_toArray]
    rw [lookup_eq_filter (index_eq_ok_contains hindex)]

/-- Picking in one pass leaves the rows that satisfy the filter. -/
theorem retain_eq_map (filter : Filter) (rows : List Row) :
    filter.retain rows =
      (filter.index rows).map fun _ => rows.filter fun row => filter.Holds row := by
  unfold retain
  cases hindex : filter.index rows with
  | error e => rfl
  | ok set =>
    show Except.ok (set.keep rows) = Except.ok _
    refine congrArg Except.ok (keep_eq_filter fun i row hrow => ?_)
    rw [Bool.eq_iff_iff, index_eq_ok_contains hindex, hrow]
    simp

/-- Both ways of taking rows out agree. -/
theorem apply_eq_retain (filter : Filter) (rows : List Row) :
    filter.apply rows = filter.retain rows := by
  rw [apply_eq_map, retain_eq_map]

theorem apply_eq_ok_iff {filter : Filter} {rows kept : List Row} :
    filter.apply rows = .ok kept ↔
      (∃ set, filter.index rows = .ok set) ∧ kept = rows.filter fun row => filter.Holds row := by
  rw [apply_eq_map]
  cases filter.index rows with
  | error e => simp [Except.map]
  | ok set => simp [Except.map, eq_comm]

/-! ## Fewer rows -/

/-- A filter has a result on rows when there are not too many and no leaf fails on one. -/
theorem exists_index_iff {filter : Filter} {rows : List Row} :
    (∃ set, filter.index rows = .ok set) ↔
      rows.length ≤ maxRowId ∧ ∀ leaf ∈ filter.leaves, ∀ row ∈ rows, ¬ leaf.Fails row := by
  by_cases hle : rows.length ≤ maxRowId
  · rw [← fault?_eq_none_iff, fault?_index hle, List.findSome?_eq_none_iff]
    simp only [Leaf.firstFault?_eq_none_iff, hle, true_and]
  · have hlt := index_of_lt (Nat.lt_of_not_le hle) filter
    simp [hlt, hle]

theorem exists_index_of_sublist {filter : Filter} {rows fewer : List Row}
    (hsub : fewer.Sublist rows) (h : ∃ set, filter.index rows = .ok set) :
    ∃ set, filter.index fewer = .ok set := by
  obtain ⟨hle, hclear⟩ := exists_index_iff.mp h
  refine exists_index_iff.mpr ⟨Nat.le_trans hsub.length_le hle, fun leaf hleaf row hrow => ?_⟩
  exact hclear leaf hleaf row (hsub.subset hrow)

/-- A negation reads the leaves of its argument and no others. -/
theorem exists_index_negation_iff {filter : Filter} {rows : List Row} :
    (∃ set, (combine .none [filter]).index rows = .ok set) ↔
      ∃ set, filter.index rows = .ok set := by
  rw [exists_index_iff, exists_index_iff, leaves, leavesAll, leavesAll, List.append_nil]

theorem holds_negation_iff {filter : Filter} {row : Row} :
    (combine .none [filter]).Holds row ↔ ¬ filter.Holds row := by
  rw [Holds, SomeHolds, SomeHolds, or_false]

/-- **The rows that pass.** Both ways of taking them out give the same result: the fault of
    evaluation, or the rows that satisfy the filter one by one, in their order and as often as they
    occur. Every row then has a position that fits its word, and no look-up goes beyond the rows. A
    second run leaves these rows as they are, and the negation of the filter leaves exactly the
    other rows. -/
theorem apply_partition (filter : Filter) (rows : List Row) :
    filter.apply rows = filter.retain rows ∧
    (filter.apply rows =
      (filter.index rows).map fun _ => rows.filter fun row => filter.Holds row) ∧
    (∀ set, filter.index rows = .ok set →
      rows.length ≤ maxRowId ∧ ∀ i ∈ set.positions, i < rows.length) ∧
    ∀ kept, filter.apply rows = .ok kept →
      filter.apply kept = .ok kept ∧
      ∃ dropped, (combine .none [filter]).apply rows = .ok dropped ∧
        (dropped = rows.filter fun row => ¬ filter.Holds row) ∧ (kept ++ dropped).Perm rows := by
  refine ⟨apply_eq_retain filter rows, apply_eq_map filter rows, fun set h => ?_, fun kept h => ?_⟩
  · exact ⟨length_le_of_index h, position_lt_length h⟩
  obtain ⟨hindex, rfl⟩ := apply_eq_ok_iff.mp h
  have hagain : ∃ set, filter.index (rows.filter fun row => filter.Holds row) = .ok set :=
    exists_index_of_sublist List.filter_sublist hindex
  have hrest : (rows.filter fun row => (combine .none [filter]).Holds row) =
      rows.filter fun row => ¬ filter.Holds row := by
    simp only [holds_negation_iff]
  refine ⟨apply_eq_ok_iff.mpr ⟨hagain, ?_⟩, _, apply_eq_ok_iff.mpr ⟨?_, rfl⟩, hrest, ?_⟩
  · rw [List.filter_filter]
    simp only [Bool.and_self]
  · exact exists_index_negation_iff.mpr hindex
  · rw [hrest]
    have hperm := List.filter_append_perm (fun row => decide (filter.Holds row)) rows
    simpa only [decide_not] using hperm

/-- Two lists of values, one of them written as a float. -/
def threeOrOne : Filter :=
  .combine .any [.inList 0 [.float (Double.ofInt 3)], .inList 0 [.integer 1]]

/-- Four rows, of which the last repeats the first. -/
def repeatedRows : List Row := [[.integer 1], [.integer 2], [.integer 3], [.integer 1]]

/-- The rows that `threeOrOne` leaves of them. -/
def threesAndOnes : List Row := [[.integer 1], [.integer 3], [.integer 1]]

theorem apply_partition_repeated :
    threeOrOne.retain repeatedRows = .ok threesAndOnes ∧
      threeOrOne.apply threesAndOnes = .ok threesAndOnes ∧
      ∃ dropped, (combine .none [threeOrOne]).apply repeatedRows = .ok dropped ∧
        (dropped = repeatedRows.filter fun row => ¬ threeOrOne.Holds row) ∧
        (threesAndOnes ++ dropped).Perm repeatedRows := by
  have hnone : (fault? (threeOrOne.index repeatedRows)).isNone = true := by decide +kernel
  have hindex := fault?_eq_none_iff.mp (Option.isNone_iff_eq_none.mp hnone)
  have hkept : threeOrOne.apply repeatedRows = .ok threesAndOnes :=
    apply_eq_ok_iff.mpr ⟨hindex, by decide +kernel⟩
  obtain ⟨hsame, _, _, hparts⟩ := apply_partition threeOrOne repeatedRows
  exact ⟨hsame ▸ hkept, hparts _ hkept⟩

end Filter

end Winnow
