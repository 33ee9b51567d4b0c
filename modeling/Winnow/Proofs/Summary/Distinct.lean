import Winnow.Proofs.Cell.Preorder
import Winnow.Proofs.Faults

/-!
# `Winnow.Proofs.Summary.Distinct` — the distinct values of a column

Distinct values are found by sorting and dropping each cell that repeats its neighbour. On unmixed
cells of one domain the neighbours of a cell in sorted order are those of its value, so what is left
represents every cell that compares, and represents it once.

## Contents
- **`OneDomain`**, **`requireOneDomain_eq_ok_iff`**: the check before sorting.
- **`FirstOdd`**, **`sortedDistinct_eq_error_iff`**: the cell that is not of the domain of the first.
- **`sortOrder_eq_le`**, **`sorted_mergeSort`**: sorting by the places of cells.
- **`keptFrom`** with **`keptFrom_sublist`**, **`keptFrom_covers`**, **`keptFrom_ascending`**:
  dropping repeats.
- **`IsDistinct`**, **`isDistinct_of_sortedDistinct`**: what distinct values are.
- **`distinctValues_of_cells`**, **`distinctValues_eq_ok_iff`**: the cells of a column of rows.
-/

namespace Winnow.Summary

open Cell

/-! ## One domain -/

/-- All cells are of one domain. -/
def OneDomain (cells : List Cell) : Prop :=
  ∀ a ∈ cells, ∀ b ∈ cells, a.domain = b.domain

theorem requireOneDomain_eq_ok_iff {cells : List Cell} :
    requireOneDomain cells = .ok () ↔ OneDomain cells := by
  cases cells with
  | nil => exact iff_of_true rfl fun a ha => absurd ha List.not_mem_nil
  | cons first rest =>
    have hfirst : OneDomain (first :: rest) ↔ ∀ cell ∈ rest, cell.domain = first.domain := by
      constructor
      · intro h cell hcell
        exact h cell (List.mem_cons_of_mem _ hcell) first List.mem_cons_self
      · intro h
        have hall : ∀ cell ∈ first :: rest, cell.domain = first.domain :=
          List.forall_mem_cons.mpr ⟨rfl, h⟩
        exact fun a ha b hb => (hall a ha).trans (hall b hb).symm
    rw [hfirst, requireOneDomain]
    cases hfind : rest.find? fun cell => cell.domain != first.domain with
    | none =>
      refine iff_of_true rfl fun cell hcell => ?_
      simpa using List.find?_eq_none.mp hfind cell hcell
    | some odd =>
      refine iff_of_false (fun h => by cases h) fun h => ?_
      have hodd := List.find?_some hfind
      simp [h odd (List.mem_of_find?_eq_some hfind)] at hodd

theorem sortedDistinct_of_oneDomain {cells : List Cell} (h : OneDomain cells) :
    ∃ values, sortedDistinct cells = .ok values := by
  rw [sortedDistinct_eq, requireOneDomain_eq_ok_iff.mpr h]
  exact ⟨_, rfl⟩

/-- A cell is the first one that is not of the domain of the first cell. -/
def FirstOdd (cells : List Cell) (first odd : Cell) : Prop :=
  ∃ before after, cells = first :: (before ++ odd :: after) ∧
    (∀ cell ∈ before, cell.domain = first.domain) ∧ odd.domain ≠ first.domain

/-- **Cells that do not compare.** The first cell is reported with the first one of another
    domain. -/
theorem sortedDistinct_eq_error_iff {cells : List Cell} {e : Error} :
    sortedDistinct cells = .error e ↔
      ∃ first odd, FirstOdd cells first odd ∧ e = .incomparable first odd := by
  cases cells with
  | nil =>
    refine iff_of_false (fun h => by cases h) ?_
    rintro ⟨first, odd, ⟨before, after, hcells, _⟩, _⟩
    cases hcells
  | cons head rest =>
    rw [sortedDistinct_eq, requireOneDomain]
    cases hfind : rest.find? fun cell => cell.domain != head.domain with
    | none =>
      refine iff_of_false (fun h => by cases h) ?_
      rintro ⟨first, odd, ⟨before, after, hcells, _, hodd⟩, _⟩
      obtain ⟨rfl, rfl⟩ := List.cons.inj hcells
      have hsame := List.find?_eq_none.mp hfind odd
        (List.mem_append_right _ List.mem_cons_self)
      simp [hodd] at hsame
    | some odd =>
      constructor
      · intro h
        obtain ⟨hodd, before, after, rfl, hbefore⟩ := List.find?_eq_some_iff_append.mp hfind
        refine ⟨head, odd, ⟨before, after, rfl, fun cell hcell => ?_, ?_⟩,
          (Except.error.inj h).symm⟩
        · simpa using hbefore cell hcell
        · simpa using hodd
      · rintro ⟨first, other, ⟨before, after, hcells, hbefore, hother⟩, rfl⟩
        obtain ⟨rfl, rfl⟩ := List.cons.inj hcells
        have hfound : (before ++ other :: after).find? (fun cell => cell.domain != head.domain) =
            some other := by
          refine List.find?_eq_some_iff_append.mpr ⟨by simpa using hother, before, after, rfl, ?_⟩
          intro cell hcell
          simp [hbefore cell hcell]
        obtain rfl := Option.some.inj (hfind.symm.trans hfound)
        rfl

/-! ## Sorting -/

/-- Cells are in sorted order by their places among some cells. -/
def InOrder (cells : List Cell) (a b : Cell) : Prop :=
  (place Double.rank cells a).le (place Double.rank cells b) = true

/-- The cells are sorted by their places. -/
theorem sortOrder_eq_le {cells : List Cell} (hmix : Unmixed cells) (hone : OneDomain cells)
    {a b : Cell} (ha : a ∈ cells) (hb : b ∈ cells) :
    (sortOrder a b != .gt) = (place Double.rank cells a).le (place Double.rank cells b) := by
  rw [sortOrder_eq_order hmix ha hb (hone a ha b hb), Place.le]
  cases Place.order (place Double.rank cells a) (place Double.rank cells b) <;> rfl

/-- The order of places does not depend on the cells to be sorted, so that sorting unmixed cells
    gives them in order. -/
theorem sorted_mergeSort {cells : List Cell} (hmix : Unmixed cells) (hone : OneDomain cells) :
    (cells.mergeSort fun a b => sortOrder a b != .gt).Pairwise (InOrder cells) := by
  have hmap : (cells.mergeSort fun a b => sortOrder a b != .gt).map (place Double.rank cells) =
      (cells.map (place Double.rank cells)).mergeSort Place.le :=
    List.map_mergeSort fun a ha b hb => sortOrder_eq_le hmix hone ha hb
  have hsorted := List.pairwise_mergeSort Place.le_trans Place.le_total
    (cells.map (place Double.rank cells))
  rw [← hmap, List.pairwise_map] at hsorted
  exact hsorted

/-! ## Dropping repeats -/

/-- The cells kept from a held one on. -/
def keptFrom (held : Cell) : List Cell → List Cell
  | [] => [held]
  | next :: rest =>
    if isDuplicate next held then keptFrom held rest else held :: keptFrom next rest

theorem go_eq_keptFrom (rest : List Cell) :
    ∀ held kept, dropRepeats.go held kept rest = kept.reverse ++ keptFrom held rest := by
  induction rest with
  | nil =>
    intro held kept
    rw [dropRepeats.go, keptFrom, List.reverse_cons]
  | cons next rest ih =>
    intro held kept
    rw [dropRepeats.go, keptFrom]
    split
    · exact ih held kept
    · rw [ih, List.reverse_cons, List.append_assoc]
      rfl

theorem dropRepeats_cons (first : Cell) (rest : List Cell) :
    dropRepeats (first :: rest) = keptFrom first rest := by
  rw [dropRepeats, go_eq_keptFrom, List.reverse_nil, List.nil_append]

theorem keptFrom_sublist (rest : List Cell) :
    ∀ held, (keptFrom held rest).Sublist (held :: rest) := by
  induction rest with
  | nil =>
    intro held
    exact List.Sublist.refl _
  | cons next rest ih =>
    intro held
    rw [keptFrom]
    split
    · exact (ih held).trans ((List.sublist_cons_self next rest).cons_cons held)
    · exact (ih next).cons_cons held

theorem mem_keptFrom_self (rest : List Cell) : ∀ held, held ∈ keptFrom held rest := by
  induction rest with
  | nil =>
    intro held
    exact List.mem_singleton_self held
  | cons next rest ih =>
    intro held
    rw [keptFrom]
    split
    · exact ih held
    · exact List.mem_cons_self

theorem isDuplicate_iff {a b : Cell} :
    isDuplicate a b = true ↔ a.sameAs b = true ∨ a = .null ∧ b = .null := by
  rw [isDuplicate, Bool.or_eq_true, Bool.and_eq_true, beq_iff_eq, beq_iff_eq]

/-- Every cell is kept, or counts once with one that is. -/
theorem keptFrom_covers (rest : List Cell) :
    ∀ held, ∀ cell ∈ held :: rest,
      ∃ kept ∈ keptFrom held rest, cell = kept ∨ isDuplicate cell kept = true := by
  induction rest with
  | nil =>
    intro held cell hcell
    exact ⟨cell, hcell, Or.inl rfl⟩
  | cons next rest ih =>
    intro held cell hcell
    rw [keptFrom]
    rcases List.mem_cons.mp hcell with rfl | hcell
    · refine ⟨cell, ?_, Or.inl rfl⟩
      split
      · exact mem_keptFrom_self rest cell
      · exact List.mem_cons_self
    · split
      · rename_i hrepeat
        rcases List.mem_cons.mp hcell with rfl | hrest
        · exact ⟨held, mem_keptFrom_self rest held, Or.inr hrepeat⟩
        · exact ih held cell (List.mem_cons_of_mem _ hrest)
      · obtain ⟨kept, hkept, h⟩ := ih next cell hcell
        exact ⟨kept, List.mem_cons_of_mem _ hkept, h⟩

/-- Strictly below, for cells that compare. A null or NaN is below and above everything. -/
def Ascends (a b : Cell) : Prop :=
  a.isComparable = true → b.isComparable = true → a.compare? b = some .lt

/-- A cell that does not repeat the held one is above it, and so are all cells that follow. -/
theorem ascends_of_not_duplicate {cells : List Cell} (hmix : Unmixed cells) (hone : OneDomain cells)
    {held next last : Cell} (hheld : held ∈ cells) (hnext : next ∈ cells) (hlast : last ∈ cells)
    (hlow : InOrder cells held next) (hhigh : InOrder cells next last)
    (hnew : isDuplicate next held = false) : Ascends held last := by
  intro hcheld hclast
  have hlow' := value_le_of_sort_le hmix hheld hnext (hone _ hheld _ hnext) hlow
  have hhigh' := value_le_of_sort_le hmix hnext hlast (hone _ hnext _ hlast) hhigh
  -- between cells that compare the next one compares, and it is not the same as the held one
  have hcnext := isComparable_of_between (hone _ hheld _ hnext) (hone _ hnext _ hlast)
    hlow' hhigh' hcheld hclast
  have hdiffer : Place.order (place Double.ordinal cells held) (place Double.ordinal cells next) ≠
      .eq := by
    intro heq
    have hplace := Std.LawfulEqCmp.eq_of_compare heq
    have hsame := (sameAs_iff_place_eq hmix hnext hheld (hone _ hnext _ hheld) hcnext hcheld).mpr
      hplace.symm
    simp [isDuplicate, hsame] at hnew
  have hlt : Place.order (place Double.ordinal cells held) (place Double.ordinal cells next) =
      .lt := by
    cases horder : Place.order (place Double.ordinal cells held)
        (place Double.ordinal cells next) with
    | lt => rfl
    | eq => exact absurd horder hdiffer
    | gt => rw [Place.le, horder] at hlow'; cases hlow'
  rw [compare?_eq_order hmix hheld hlast (hone _ hheld _ hlast) hcheld hclast,
    Std.TransCmp.lt_of_lt_of_isLE hlt hhigh']

theorem inOrder_refl (cells : List Cell) (a : Cell) : InOrder cells a a := by
  rw [InOrder, Place.le, Place.order_self]
  rfl

/-- **The kept cells ascend.** -/
theorem keptFrom_ascending {cells : List Cell} (hmix : Unmixed cells) (hone : OneDomain cells)
    (rest : List Cell) :
    ∀ held, (∀ cell ∈ held :: rest, cell ∈ cells) → (held :: rest).Pairwise (InOrder cells) →
      (keptFrom held rest).Pairwise Ascends := by
  induction rest with
  | nil =>
    intro held _ _
    exact List.pairwise_singleton _ _
  | cons next rest ih =>
    intro held hmem hsorted
    obtain ⟨hbehind, htail⟩ := List.pairwise_cons.mp hsorted
    obtain ⟨hheld, htailmem⟩ := List.forall_mem_cons.mp hmem
    rw [keptFrom]
    split
    · refine ih held (List.forall_mem_cons.mpr ⟨hheld, fun cell hcell => ?_⟩) ?_
      · exact htailmem cell (List.mem_cons_of_mem _ hcell)
      · exact hsorted.sublist ((List.sublist_cons_self next rest).cons_cons held)
    · rename_i hnew
      refine List.pairwise_cons.mpr ⟨fun last hlast => ?_, ih next htailmem htail⟩
      have hlast := (keptFrom_sublist rest next).subset hlast
      have hhigh : InOrder cells next last := by
        rcases List.mem_cons.mp hlast with rfl | hlast
        · exact inOrder_refl cells last
        · exact (List.pairwise_cons.mp htail).1 last hlast
      exact ascends_of_not_duplicate hmix hone hheld (htailmem next List.mem_cons_self)
        (htailmem last hlast) (hbehind next List.mem_cons_self) hhigh (Bool.eq_false_iff.mpr hnew)

/-! ## Distinct values -/

/-- **The distinct values of cells**: some of the cells, in ascending order, such that every cell
    counts once with one of them. -/
structure IsDistinct (cells values : List Cell) : Prop where
  oneDomain : OneDomain cells
  subset : ∀ value ∈ values, value ∈ cells
  covers : ∀ cell ∈ cells, ∃ value ∈ values, cell = value ∨ isDuplicate cell value = true
  ascending : values.Pairwise Ascends

theorem isDistinct_of_sortedDistinct {cells values : List Cell} (hmix : Unmixed cells)
    (h : sortedDistinct cells = .ok values) : IsDistinct cells values := by
  rw [sortedDistinct_eq] at h
  obtain ⟨_, hone, h⟩ := bind_eq_ok_iff.mp h
  have hone := requireOneDomain_eq_ok_iff.mp hone
  obtain rfl := Except.ok.inj h
  have hsorted := sorted_mergeSort hmix hone
  have hmem : ∀ cell, cell ∈ cells.mergeSort (fun a b => sortOrder a b != .gt) ↔ cell ∈ cells :=
    fun cell => (List.mergeSort_perm cells _).mem_iff
  cases hsort : cells.mergeSort fun a b => sortOrder a b != .gt with
  | nil =>
    refine ⟨hone, ?_, fun cell hcell => ?_, List.Pairwise.nil⟩
    · intro value hvalue
      cases hvalue
    · rw [← hmem, hsort] at hcell
      cases hcell
  | cons first rest =>
    rw [hsort] at hsorted hmem
    rw [dropRepeats_cons]
    refine ⟨hone, fun value hvalue => ?_, fun cell hcell => ?_, ?_⟩
    · exact (hmem value).mp ((keptFrom_sublist rest first).subset hvalue)
    · exact keptFrom_covers rest first cell ((hmem cell).mpr hcell)
    · exact keptFrom_ascending hmix hone rest first (fun cell => (hmem cell).mp) hsorted

/-- Cells of one domain in sorted order only have their repeats dropped. -/
theorem sortedDistinct_of_sorted {cells : List Cell} (hone : OneDomain cells)
    (hsorted : cells.Pairwise fun a b => (sortOrder a b != .gt) = true) :
    sortedDistinct cells = .ok (dropRepeats cells) := by
  rw [sortedDistinct_eq, requireOneDomain_eq_ok_iff.mpr hone, List.mergeSort_of_pairwise hsorted]
  rfl

/-- A cell that compares is the same as one of the distinct values. -/
theorem IsDistinct.exists_sameAs {cells values : List Cell} (h : IsDistinct cells values)
    {cell : Cell} (hcell : cell ∈ cells) (hcomparable : cell.isComparable = true) :
    ∃ value ∈ values, cell.sameAs value = true := by
  obtain ⟨value, hvalue, rfl | hrepeat⟩ := h.covers cell hcell
  · exact ⟨cell, hvalue, sameAs_self_iff.mpr hcomparable⟩
  · rcases isDuplicate_iff.mp hrepeat with hsame | ⟨rfl, _⟩
    · exact ⟨value, hvalue, hsame⟩
    · cases hcomparable

/-- No cell is the same as two of the distinct values. -/
theorem IsDistinct.not_sameAs_both {cells values : List Cell} (hmix : Unmixed cells)
    (h : IsDistinct cells values) :
    values.Pairwise fun v w => ∀ cell ∈ cells,
      ¬ (cell.sameAs v = true ∧ cell.sameAs w = true) := by
  refine h.ascending.imp_of_mem ?_
  rintro v w hv hw hascends cell hcell ⟨hsv, hsw⟩
  -- both values would be the same by way of the cell, but one is below the other
  have hsame := sameAs_trans hmix (h.subset v hv) hcell (h.subset w hw) (sameAs_comm.mp hsv) hsw
  have hlt := hascends (comparable_of_sameAs hsv).2.2 (comparable_of_sameAs hsw).2.2
  rw [sameAs_iff_compare?_eq.mp hsame] at hlt
  cases hlt

/-! ## Columns of rows -/

theorem project_eq_ok_iff {column : Nat} {rows : List Row} :
    ∀ {position : Nat} {found cells : List Cell},
      project column position found rows = .ok cells ↔
        ∃ new, cells = found.reverse ++ new ∧
          List.Forall₂ (fun row cell => row[column]? = some cell) rows new := by
  induction rows with
  | nil =>
    intro position found cells
    rw [project]
    constructor
    · intro h
      exact ⟨[], by rw [List.append_nil]; exact (Except.ok.inj h).symm, .nil⟩
    · rintro ⟨new, rfl, hnew⟩
      cases hnew
      rw [List.append_nil]
  | cons row rest ih =>
    intro position found cells
    rw [project]
    cases hcell : row[column]? with
    | none =>
      constructor
      · intro h
        cases h
      · rintro ⟨new, _, hnew⟩
        cases hnew with
        | cons hrow _ => rw [hcell] at hrow; cases hrow
    | some cell =>
      show project column (position + 1) (cell :: found) rest = .ok cells ↔ _
      rw [ih]
      constructor
      · rintro ⟨new, rfl, hnew⟩
        refine ⟨cell :: new, ?_, .cons hcell hnew⟩
        rw [List.reverse_cons, List.append_assoc]
        rfl
      · rintro ⟨new, rfl, hnew⟩
        cases hnew with
        | @cons _ head _ tail hrow hrest =>
          obtain rfl : cell = head := Option.some.inj (hcell.symm.trans hrow)
          refine ⟨tail, ?_, hrest⟩
          rw [List.reverse_cons, List.append_assoc]
          rfl

/-- If every row has a cell in a column, the distinct values of the column are those of these
    cells. -/
theorem distinctValues_of_cells {rows : List Row} {column : Nat} {cells : List Cell}
    (h : List.Forall₂ (fun row cell => row[column]? = some cell) rows cells) :
    distinctValues rows column = sortedDistinct cells := by
  have hproject : project column 0 [] rows = .ok cells :=
    project_eq_ok_iff.mpr ⟨cells, rfl, h⟩
  rw [distinctValues_eq, hproject]
  rfl

/-- The distinct values of a column are those of its cells, of which every row must have one. -/
theorem distinctValues_eq_ok_iff {rows : List Row} {column : Nat} {values : List Cell} :
    distinctValues rows column = .ok values ↔
      ∃ cells, List.Forall₂ (fun row cell => row[column]? = some cell) rows cells ∧
        sortedDistinct cells = .ok values := by
  rw [distinctValues_eq, bind_eq_ok_iff]
  simp only [project_eq_ok_iff, List.reverse_nil, List.nil_append, exists_eq_left']

end Winnow.Summary
