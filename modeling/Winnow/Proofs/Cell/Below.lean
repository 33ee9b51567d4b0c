import Winnow.Proofs.Cell.Order

/-!
# `Winnow.Proofs.Cell.Below` — cells that are strictly below others

Being the same is not transitive where a float blurs two integers, but being strictly below is
transitive on all cells: rounding never turns the order of integers around, so that no float that
blurs two of them comes to stand between them.

## Contents
- **`compare?_swap`**, **`compare?_swapped`**: the order by value in both directions.
- **`less_integers`**, **`less_integer_float`**, **`less_float_integer`**, **`less_floats`**: numbers
  strictly below one another.
- **`less_trans`**, **`less_irrefl`**: the strict order of cells.
-/

namespace Winnow.Cell

/-! ## Both directions -/

theorem compare?_swap (a b : Cell) : a.compare? b = (b.compare? a).map Ordering.swap := by
  have hdoubles : ∀ x y : Double, x.compare? y = (y.compare? x).map Ordering.swap := by
    intro x y
    unfold Double.compare?
    rw [Bool.or_comm y.isNaN]
    split
    · rfl
    · exact congrArg some Std.OrientedOrd.eq_swap
  by_cases hdomain : a.domain = b.domain
  · cases akin_of_domain_eq hdomain with
    | nulls => rfl
    | booleans p q => exact congrArg some Std.OrientedOrd.eq_swap
    | strings s t => exact congrArg some Std.OrientedOrd.eq_swap
    | integers i j => exact congrArg some Std.OrientedOrd.eq_swap
    | integerFloat i y => rw [compare?_integer_float, compare?_float_integer, hdoubles]
    | floatInteger x j => rw [compare?_integer_float, compare?_float_integer, hdoubles]
    | floats x y => rw [compare?_floats, compare?_floats, hdoubles]
  · have hnone : ∀ {x y : Cell}, x.domain ≠ y.domain → x.compare? y = none :=
      fun hne => Option.not_isSome_iff_eq_none.mp fun h => hne (compare?_isSome_iff.mp h).1
    rw [hnone hdomain, hnone (Ne.symm hdomain)]
    rfl

/-- An answer seen from the other cell. -/
theorem compare?_swapped {a b : Cell} {o : Ordering} (h : a.compare? b = some o) :
    b.compare? a = some o.swap := by
  rw [compare?_swap, h]
  rfl

/-! ## Strictly below -/

theorem less_iff {a b : Cell} : a.less b = true ↔ a.compare? b = some .lt := decide_eq_true_iff

theorem less_integers {i j : Int64} :
    (integer i).less (integer j) = true ↔ i.toInt < j.toInt := by
  rw [less_iff, ← Int.compare_eq_lt]
  exact Option.some_inj

theorem doubleCompare?_eq_lt {x y : Double} :
    x.compare? y = some .lt ↔ (x.isNaN = false ∧ y.isNaN = false) ∧ x.ordinal < y.ordinal := by
  rw [Double.compare?, ← Int.compare_eq_lt]
  cases x.isNaN <;> cases y.isNaN <;> simp

theorem less_integer_float {i : Int64} {y : Double} :
    (integer i).less (float y) = true ↔
      y.isNaN = false ∧ (Double.ofInt i.toInt).ordinal < y.ordinal := by
  rw [less_iff, compare?_integer_float, doubleCompare?_eq_lt]
  simp [Double.isNaN_ofInt]

theorem less_float_integer {x : Double} {j : Int64} :
    (float x).less (integer j) = true ↔
      x.isNaN = false ∧ x.ordinal < (Double.ofInt j.toInt).ordinal := by
  rw [less_iff, compare?_float_integer, doubleCompare?_eq_lt]
  simp [Double.isNaN_ofInt]

theorem less_floats {x y : Double} :
    (float x).less (float y) = true ↔
      (x.isNaN = false ∧ y.isNaN = false) ∧ x.ordinal < y.ordinal := by
  rw [less_iff, compare?_floats, doubleCompare?_eq_lt]

/-- Integers whose doubles are below one another are so themselves. -/
theorem toInt_lt_of_ordinal_lt {i j : Int}
    (h : (Double.ofInt i).ordinal < (Double.ofInt j).ordinal) : i < j := by
  refine Int.not_le.mp fun hge => ?_
  have hmono := Double.ordinal_ofInt_mono hge
  omega

theorem comparable_of_less {a b : Cell} (h : a.less b = true) :
    a.domain = b.domain ∧ a.isComparable = true ∧ b.isComparable = true := by
  refine compare?_isSome_iff.mp ?_
  rw [less_iff.mp h]
  rfl

/-- **Being strictly below is transitive**, whatever the cells: a float that is the same as two
    integers is not between them. -/
theorem less_trans {a b c : Cell} (hab : a.less b = true) (hbc : b.less c = true) :
    a.less c = true := by
  obtain ⟨hdab, hca, _⟩ := comparable_of_less hab
  obtain ⟨hdbc, _, _⟩ := comparable_of_less hbc
  have hmono : ∀ {i j : Int64}, i.toInt < j.toInt →
      (Double.ofInt i.toInt).ordinal ≤ (Double.ofInt j.toInt).ordinal :=
    fun h => Double.ordinal_ofInt_mono (Int.le_of_lt h)
  -- two integers are compared exactly, any other two numbers as doubles; rounding can make equal
  -- what two integers keep apart, but then the step to the float is still a strict one
  cases akin_of_domain_eq hdab with
  | nulls => cases hca
  | booleans p q =>
    cases akin_of_domain_eq hdbc with
    | booleans _ r =>
      refine less_iff.mpr (congrArg some ?_)
      exact Std.TransCmp.lt_trans (Option.some.inj (less_iff.mp hab))
        (Option.some.inj (less_iff.mp hbc))
  | strings s t =>
    cases akin_of_domain_eq hdbc with
    | strings _ u =>
      refine less_iff.mpr (congrArg some ?_)
      exact Std.TransCmp.lt_trans (Option.some.inj (less_iff.mp hab))
        (Option.some.inj (less_iff.mp hbc))
  | integers i j =>
    rw [less_integers] at hab
    cases akin_of_domain_eq hdbc with
    | integers _ k =>
      rw [less_integers] at hbc ⊢
      omega
    | integerFloat _ z =>
      rw [less_integer_float] at hbc ⊢
      exact ⟨hbc.1, Int.lt_of_le_of_lt (hmono hab) hbc.2⟩
  | integerFloat i y =>
    rw [less_integer_float] at hab
    cases akin_of_domain_eq hdbc with
    | floatInteger _ k =>
      rw [less_float_integer] at hbc
      exact less_integers.mpr (toInt_lt_of_ordinal_lt (Int.lt_trans hab.2 hbc.2))
    | floats _ z =>
      rw [less_floats] at hbc
      exact less_integer_float.mpr ⟨hbc.1.2, Int.lt_trans hab.2 hbc.2⟩
  | floatInteger x j =>
    rw [less_float_integer] at hab
    cases akin_of_domain_eq hdbc with
    | integers _ k =>
      rw [less_integers] at hbc
      exact less_float_integer.mpr ⟨hab.1, Int.lt_of_lt_of_le hab.2 (hmono hbc)⟩
    | integerFloat _ z =>
      rw [less_integer_float] at hbc
      exact less_floats.mpr ⟨⟨hab.1, hbc.1⟩, Int.lt_trans hab.2 hbc.2⟩
  | floats x y =>
    rw [less_floats] at hab
    cases akin_of_domain_eq hdbc with
    | floatInteger _ k =>
      rw [less_float_integer] at hbc ⊢
      exact ⟨hab.1.1, Int.lt_trans hab.2 hbc.2⟩
    | floats _ z =>
      rw [less_floats] at hbc ⊢
      exact ⟨⟨hab.1.1, hbc.1.2⟩, Int.lt_trans hab.2 hbc.2⟩

theorem compare?_eq_gt_iff {a b : Cell} : a.compare? b = some .gt ↔ b.less a = true := by
  rw [less_iff]
  exact ⟨compare?_swapped, compare?_swapped⟩

theorem less_irrefl (a : Cell) : ¬ a.less a = true := by
  intro h
  have hgt := compare?_eq_gt_iff.mpr h
  rw [less_iff.mp h] at hgt
  cases hgt

end Winnow.Cell
