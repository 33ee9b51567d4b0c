import Winnow.Proofs.Cell.Exact
import Winnow.Proofs.Filter.Selection

/-!
# `Winnow.Proofs.Filter.Exact` — ranges of exact values

A range of numbers has a result on all rows that have a number in its column. It selects the rows
whose numbers lie in the closed interval of the values of its bounds, and beyond these only integers
that are rounded to a bound.

## Contents
- **`exists_index_inRange`**, **`holds_inRange_iff`**: ranges on rows with numbers.
- **`index_exact`**: numbers and ranges compared by value; **`index_exact_sparse`**: around a float
  that an integer is rounded to, and **`compare_rounded`**: what is lost there.
-/

namespace Winnow.Filter

open Cell

variable {column : Nat} {low high cell : Cell} {u v w : WithBotTop ℚ} {rows : List Row}

/-- A range of numbers fails on no row that has a number in its column. -/
theorem exists_index_inRange (hlow : low.isOrdered = true) (hhigh : high.isOrdered = true)
    (hfew : rows.length ≤ maxRowId)
    (hrows : ∀ row ∈ rows, ∃ cell, row[column]? = some cell ∧ cell.isOrdered = true) :
    ∃ set, (inRange column low high).index rows = .ok set := by
  refine exists_index_iff.mpr ⟨hfew, fun leaf hleaf row hrow => ?_⟩
  obtain ⟨cell, hcell, hnumber⟩ := hrows row hrow
  exact not_fails_inRange hcell ((compare?_ne_none_iff hlow).mpr hnumber)
    ((compare?_ne_none_iff hhigh).mpr hnumber) leaf hleaf

/-- A row lies in a range by its value, or because it and a bound are rounded. -/
theorem holds_inRange_iff {row : Row} (hlow : low.value? = some v) (hhigh : high.value? = some w)
    (hcell : row[column]? = some cell) (hvalue : cell.value? = some u) :
    (inRange column low high).Holds row ↔
      (v ≤ u ∨ low.Rounded cell) ∧ (u ≤ w ∨ cell.Rounded high) := by
  rw [← atMost_iff hlow hvalue, ← atMost_iff hvalue hhigh, Holds]
  constructor
  · rintro ⟨other, hother, ⟨o, ho, hne⟩, hmax⟩
    obtain rfl := Option.some.inj (hcell.symm.trans hother)
    exact ⟨⟨o.swap, compare?_swapped ho, fun hgt => hne (Ordering.swap_inj.mp hgt)⟩, hmax⟩
  · rintro ⟨hmin, hmax⟩
    exact ⟨cell, hcell, hmin.swap, hmax⟩

/-- **Numbers are compared by value** unless an integer is rounded. Numbers other than NaN have
    values and compare as these do, so that they are the same if their values are equal. The only
    exceptions are an integer of more than 53 bits and the finite float that is the double nearest
    to it: these are the same although their values differ. So a range selects every row whose
    number lies in the closed interval, and no other row than those whose number and a bound are
    such a pair. -/
theorem index_exact {a b : Cell} (ha : a.isOrdered = true) (hb : b.isOrdered = true) :
    ∃ v w, a.value? = some v ∧ b.value? = some w ∧
      (¬ a.Rounded b → a.compare? b = some (compare v w)) ∧
      (a.Rounded b → a.compare? b = some .eq ∧ v ≠ w ∧ RoundedPair a b) ∧
      (a.sameAs b = true ↔ v = w ∨ a.Rounded b) ∧
      ∀ (column : Nat) (rows : List Row), rows.length ≤ maxRowId →
        (∀ row ∈ rows, ∃ cell, row[column]? = some cell ∧ cell.isOrdered = true) →
        ∃ set, (inRange column a b).index rows = .ok set ∧
          ∀ i, set.contains i = true ↔ ∃ row cell u, rows[i]? = some row ∧
            row[column]? = some cell ∧ cell.value? = some u ∧
            (v ≤ u ∨ a.Rounded cell) ∧ (u ≤ w ∨ cell.Rounded b) := by
  obtain ⟨v, hv⟩ := exists_value_iff.mpr ha
  obtain ⟨w, hw⟩ := exists_value_iff.mpr hb
  refine ⟨v, w, hv, hw, compare?_eq_compare hv hw, fun hrounded => ?_, sameAs_iff hv hw, ?_⟩
  · obtain ⟨hsame, hne⟩ := sameAs_of_rounded hv hw hrounded
    exact ⟨hsame, hne, roundedPair_of_rounded hrounded⟩
  · intro column rows hfew hrows
    obtain ⟨set, hset⟩ := exists_index_inRange ha hb hfew hrows
    refine ⟨set, hset, fun i => ?_⟩
    rw [selects_index hset i]
    constructor
    · rintro ⟨row, hrow, hholds⟩
      obtain ⟨cell, hcell, hnumber⟩ := hrows row (List.mem_of_getElem? hrow)
      obtain ⟨u, hu⟩ := exists_value_iff.mpr hnumber
      exact ⟨row, cell, u, hrow, hcell, hu, (holds_inRange_iff hv hw hcell hu).mp hholds⟩
    · rintro ⟨row, cell, u, hrow, hcell, hu, hinside⟩
      exact ⟨row, hrow, (holds_inRange_iff hv hw hcell hu).mpr hinside⟩

/-- The first power of two beyond which doubles leave out integers, as a float. -/
def sparse : Cell := .float (Double.ofInt 0x20000000000000)

/-- Its neighbours as integers, the power itself and infinity. -/
def sparseRows : List Row :=
  [[.integer 0x1fffffffffffff], [sparse], [.integer 0x20000000000001], [.float (.infinite false)]]

theorem value_integer {i : Int64} {k : Int} (h : i.toInt = k) :
    (integer i).value? = some (.coe (k : ℚ)) := by
  rw [← h]
  rfl

theorem value_sparse : sparse.value? = some (.coe ((0x20000000000000 : Int) : ℚ)) :=
  @Double.value_ofInt _ 1 53 (by decide) (by decide) rfl

theorem rounded_sparse : (integer 0x20000000000001).Rounded sparse := by
  have hlarge : (0x20000000000001 : Int64).toInt = 0x20000000000001 := by decide
  have hnearest : Double.ofInt 0x20000000000001 = Double.ofInt 0x20000000000000 := by
    decide +kernel
  rw [sparse, ← hnearest, ← hlarge]
  refine ⟨rfl, fun h => ?_⟩
  rw [hlarge, hnearest] at h
  have heq := WithBotTop.coe_injective (Option.some.inj (h.symm.trans value_sparse))
  exact absurd heq (ne_of_gt (Int.cast_lt.mpr (by decide)))

/-- A range up to the power selects the integer below it, the power itself, and the integer above it
    that is rounded to it. Infinity stays outside. -/
theorem index_exact_sparse :
    ∃ set, (inRange 0 (.integer 0) sparse).index sparseRows = .ok set ∧
      set.contains 0 = true ∧ set.contains 1 = true ∧ set.contains 2 = true ∧
      ¬ set.contains 3 = true := by
  have hnumbers : ∀ row ∈ sparseRows, ∃ cell, row[0]? = some cell ∧ cell.isOrdered = true := by
    have hsparse : sparse.isOrdered = true := exists_value_iff.mp ⟨_, value_sparse⟩
    refine List.forall_mem_cons.mpr ⟨⟨_, rfl, rfl⟩, ?_⟩
    refine List.forall_mem_cons.mpr ⟨⟨_, rfl, hsparse⟩, ?_⟩
    exact List.forall_mem_cons.mpr ⟨⟨_, rfl, rfl⟩, List.forall_mem_singleton.mpr ⟨_, rfl, rfl⟩⟩
  have hzero : (integer 0).value? = some (.coe ((0 : Int) : ℚ)) := value_integer (by decide)
  have hbelow : (integer 0x1fffffffffffff).value? = some (.coe ((0x1fffffffffffff : Int) : ℚ)) :=
    value_integer (by decide)
  have habove : (integer 0x20000000000001).value? = some (.coe ((0x20000000000001 : Int) : ℚ)) :=
    value_integer (by decide)
  obtain ⟨v, w, hv, hw, -, -, -, hrange⟩ := index_exact (a := .integer 0) (b := sparse) rfl
    (exists_value_iff.mp ⟨_, value_sparse⟩)
  obtain rfl := Option.some.inj (hzero.symm.trans hv)
  obtain rfl := Option.some.inj (value_sparse.symm.trans hw)
  obtain ⟨set, hset, hcontains⟩ := hrange 0 sparseRows (by decide) hnumbers
  refine ⟨set, hset, ?_, ?_, ?_, ?_⟩
  · exact (hcontains 0).mpr ⟨_, _, _, rfl, rfl, hbelow, .inl (Double.integer_le (by decide)),
      .inl (Double.integer_le (by decide))⟩
  · exact (hcontains 1).mpr ⟨_, _, _, rfl, rfl, value_sparse, .inl (Double.integer_le (by decide)),
      .inl le_rfl⟩
  · exact (hcontains 2).mpr ⟨_, _, _, rfl, rfl, habove, .inl (Double.integer_le (by decide)),
      .inr rounded_sparse⟩
  · intro hin
    obtain ⟨row, cell, u, hrow, hcell, hvalue, -, hmax⟩ := (hcontains 3).mp hin
    obtain rfl := Option.some.inj hrow
    obtain rfl := Option.some.inj hcell
    obtain rfl : ⊤ = u := Option.some.inj hvalue
    rcases hmax with hle | hrounded
    · exact absurd hle (not_le.mpr (WithBot.coe_lt_coe.mpr (WithTop.coe_lt_top _)))
    · exact hrounded

/-- Two numbers of different values are the same, and a range up to the lower one of them selects
    the higher one. -/
theorem compare_rounded :
    (integer 0x20000000000001).value? = some (.coe ((0x20000000000001 : Int) : ℚ)) ∧
    sparse.value? = some (.coe ((0x20000000000000 : Int) : ℚ)) ∧
    compare (WithBotTop.coe ((0x20000000000001 : Int) : ℚ)) (.coe ((0x20000000000000 : Int) : ℚ)) =
      .gt ∧
    (integer 0x20000000000001).compare? sparse = some .eq ∧
    (integer 0x20000000000001).sameAs sparse = true ∧
    (inRange 0 (.integer 0) sparse).apply [[.integer 0x20000000000001]] =
      .ok [[.integer 0x20000000000001]] := by
  have habove : (integer 0x20000000000001).value? = some (.coe ((0x20000000000001 : Int) : ℚ)) :=
    value_integer (by decide)
  have hzero : (integer 0).value? = some (.coe ((0 : Int) : ℚ)) := value_integer (by decide)
  have hsame := (sameAs_of_rounded habove value_sparse rounded_sparse).1
  refine ⟨habove, value_sparse, ?_, hsame, decide_eq_true hsame, ?_⟩
  · exact compare_gt_iff_gt.mpr (Double.integer_lt (by decide))
  · have hfew : [[integer 0x20000000000001]].length ≤ maxRowId := by decide
    have hindex : ∃ set, (inRange 0 (.integer 0) sparse).index [[.integer 0x20000000000001]] =
        .ok set :=
      exists_index_inRange rfl (exists_value_iff.mp ⟨_, value_sparse⟩) hfew
        (List.forall_mem_singleton.mpr ⟨_, rfl, rfl⟩)
    have hholds : (inRange 0 (.integer 0) sparse).Holds [.integer 0x20000000000001] :=
      (holds_inRange_iff hzero value_sparse rfl habove).mpr
        ⟨.inl (Double.integer_le (by decide)), .inr rounded_sparse⟩
    refine apply_eq_ok_iff.mpr ⟨hindex, (List.filter_eq_self.mpr fun row hrow => ?_).symm⟩
    obtain rfl := List.mem_singleton.mp hrow
    exact decide_eq_true hholds

end Winnow.Filter
