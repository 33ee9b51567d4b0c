import Mathlib.Algebra.Group.Nat.Defs
import Winnow.Floating.Double

/-!
# `Winnow.Proofs.Floating.Rounding` — rounding keeps the order

An integer becomes the double nearest to it. Different integers may share a double, but rounding
never turns their order around: it is monotone within the numbers of one exponent field, and the
numbers of a field stay below those of the next.

## Contents
- **`nearestEven_mono`**, **`round_mono`**: rounding is monotone.
- **`negative_ofInt`**, **`magnitude_ofInt`**: the parts of the double of an integer.
- **`rank_injective`**, **`ordinal_le_of_rank_le`**, **`eq_or_zeros_of_ordinal_eq`**: the two orders
  of doubles against each other.
- **`rank_ofInt_mono`**, **`ordinal_ofInt_mono`**: the doubles of integers, in both orders.
- **`eq_or_negativeZero_of_ordinal_eq`**, **`isNaN_iff_of_negative`**, **`isNaN_iff_of_positive`**:
  negative zero, and NaNs outside the infinities.
-/

namespace Winnow

namespace Floating.Format

/-! ## Rounding -/

theorem nearestEven_ge (num den : Nat) : num / den ≤ nearestEven num den := by
  unfold nearestEven
  dsimp only
  split
  · exact Nat.le_succ _
  · exact Nat.le_refl _

theorem nearestEven_le (num den : Nat) : nearestEven num den ≤ num / den + 1 := by
  unfold nearestEven
  dsimp only
  split
  · exact Nat.le_refl _
  · exact Nat.le_succ _

theorem nearestEven_mono {num num' den : Nat} (h : num ≤ num') :
    nearestEven num den ≤ nearestEven num' den := by
  rcases Nat.lt_or_ge (num / den) (num' / den) with hlt | hge
  · -- the quotient grows by at least what rounding up can add
    calc nearestEven num den
        ≤ num / den + 1 := nearestEven_le num den
      _ ≤ num' / den := hlt
      _ ≤ nearestEven num' den := nearestEven_ge num' den
  · -- with one quotient the rest grows, so what is rounded up stays rounded up
    have hquotient : num / den = num' / den := Nat.le_antisymm (Nat.div_le_div_right h) hge
    have hrest : num % den ≤ num' % den := by
      have hnum := Nat.div_add_mod num den
      have hnum' := Nat.div_add_mod num' den
      rw [hquotient] at hnum
      omega
    unfold nearestEven
    dsimp only
    rw [hquotient]
    split
    · exact Nat.le_of_eq (if_pos (by omega)).symm
    · split
      · exact Nat.le_succ _
      · exact Nat.le_refl _

/-- The number of places by which a number is beyond the fraction with its hidden bit. -/
def excess (f : Format) (n : Nat) : Nat := Nat.log2 n - f.fractionBits

theorem round_one (f : Format) (n : Nat) :
    f.round n 1 = min f.infinity
      (f.excess n * 2 ^ f.fractionBits + nearestEven n (2 ^ f.excess n)) := by
  unfold round excess
  dsimp only
  rw [Nat.div_one, Nat.shiftLeft_eq, Nat.shiftLeft_eq, Nat.one_mul]

/-- A number rounds to at most the first fraction of the next field. -/
theorem nearestEven_excess_le (f : Format) (n : Nat) :
    nearestEven n (2 ^ f.excess n) ≤ 2 * 2 ^ f.fractionBits := by
  have hlog : n < 2 ^ f.excess n * (2 * 2 ^ f.fractionBits) := by
    have hfits : Nat.log2 n + 1 ≤ f.excess n + (1 + f.fractionBits) := by
      unfold excess
      omega
    calc n < 2 ^ (Nat.log2 n + 1) := Nat.lt_log2_self
      _ ≤ 2 ^ (f.excess n + (1 + f.fractionBits)) := Nat.pow_le_pow_right (by decide) hfits
      _ = 2 ^ f.excess n * (2 * 2 ^ f.fractionBits) := by rw [Nat.pow_add, Nat.pow_add, Nat.pow_one]
  exact Nat.le_trans (nearestEven_le _ _) (Nat.div_lt_of_lt_mul hlog)

/-- A number beyond the fraction rounds to at least its hidden bit. -/
theorem le_nearestEven_excess (f : Format) {n : Nat} (h : 0 < f.excess n) :
    2 ^ f.fractionBits ≤ nearestEven n (2 ^ f.excess n) := by
  have hpositive : n ≠ 0 := by
    rintro rfl
    simp [excess, Nat.log2_zero] at h
  have hlog : 2 ^ f.fractionBits * 2 ^ f.excess n ≤ n := by
    have hplaces : f.fractionBits + f.excess n = Nat.log2 n := by
      unfold excess at h ⊢
      omega
    rw [← Nat.pow_add, hplaces]
    exact Nat.log2_self_le hpositive
  have hquotient := (Nat.le_div_iff_mul_le (Nat.two_pow_pos (f.excess n))).mpr hlog
  exact Nat.le_trans hquotient (nearestEven_ge _ _)

theorem log2_mono {n m : Nat} (h : n ≤ m) : Nat.log2 n ≤ Nat.log2 m := by
  by_cases hn : n = 0
  · rw [hn, Nat.log2_zero]
    exact Nat.zero_le _
  · have hpow := Nat.le_trans (Nat.log2_self_le hn) h
    exact (Nat.le_log2 (by omega)).mpr hpow

/-- **Rounding is monotone.** -/
theorem round_mono (f : Format) {n m : Nat} (h : n ≤ m) : f.round n 1 ≤ f.round m 1 := by
  rw [round_one, round_one]
  have hexcess : f.excess n ≤ f.excess m := Nat.sub_le_sub_right (log2_mono h) _
  have hle : f.excess n * 2 ^ f.fractionBits + nearestEven n (2 ^ f.excess n) ≤
      f.excess m * 2 ^ f.fractionBits + nearestEven m (2 ^ f.excess m) := by
    rcases Nat.lt_or_ge (f.excess n) (f.excess m) with hlt | hge
    · -- different fields: the first ends where the next one begins
      have hupper := nearestEven_excess_le f n
      have hlower := le_nearestEven_excess f (Nat.zero_lt_of_lt hlt)
      have hstep : (f.excess n + 1) * 2 ^ f.fractionBits ≤ f.excess m * 2 ^ f.fractionBits :=
        Nat.mul_le_mul_right _ hlt
      rw [Nat.add_mul, Nat.one_mul] at hstep
      omega
    · -- one field: both are rounded on one grid
      have hsame : f.excess n = f.excess m := Nat.le_antisymm hexcess hge
      rw [hsame]
      exact Nat.add_le_add_left (nearestEven_mono h) _
  omega

theorem round_le_infinity (f : Format) (num den : Nat) : f.round num den ≤ f.infinity :=
  Nat.min_le_left _ _

end Floating.Format

namespace Double

open Floating

/-! ## The doubles of integers -/

/-- The magnitude of the double nearest to a natural number. -/
def wholeMagnitude (n : Nat) : Nat := Format.binary64.round (n <<< Format.binary64.scale) 1

theorem wholeMagnitude_le (n : Nat) : wholeMagnitude n ≤ Format.binary64.infinity :=
  Format.round_le_infinity _ _ _

theorem wholeMagnitude_mono {n m : Nat} (h : n ≤ m) : wholeMagnitude n ≤ wholeMagnitude m := by
  refine Format.round_mono _ ?_
  rw [Nat.shiftLeft_eq, Nat.shiftLeft_eq]
  exact Nat.mul_le_mul_right _ h

/-- Only zero becomes zero. -/
theorem wholeMagnitude_pos {n : Nat} (h : 0 < n) : 0 < wholeMagnitude n := by
  have hone : 0 < wholeMagnitude 1 := by decide +kernel
  exact Nat.lt_of_lt_of_le hone (wholeMagnitude_mono h)

theorem negative_ofInt (i : Int) : (ofInt i).negative = decide (i < 0) := rfl

theorem magnitude_ofInt (i : Int) : (ofInt i).magnitude = wholeMagnitude i.natAbs := by
  have hle := wholeMagnitude_le i.natAbs
  have hinfinity : Format.binary64.infinity < 0x8000000000000000 := by decide
  exact Nat.mod_eq_of_lt (Nat.lt_of_le_of_lt hle hinfinity)

theorem isNaN_ofInt (i : Int) : (ofInt i).isNaN = false := by
  have hle := wholeMagnitude_le i.natAbs
  rw [isNaN, magnitude_ofInt]
  exact decide_eq_false (Nat.not_lt_of_le hle)

theorem magnitude_ofInt_eq_zero_iff {i : Int} : (ofInt i).magnitude = 0 ↔ i = 0 := by
  rw [magnitude_ofInt]
  constructor
  · intro h
    by_cases hi : i = 0
    · exact hi
    · have hpos := wholeMagnitude_pos (Int.natAbs_pos.mpr hi)
      omega
  · rintro rfl
    decide +kernel

/-! ## The two orders of doubles -/

theorem rank_of_negative {x : Double} (h : x.negative = true) :
    x.rank = -(x.magnitude : Int) - 1 := if_pos h

theorem rank_of_positive {x : Double} (h : x.negative = false) : x.rank = x.magnitude :=
  if_neg (Bool.eq_false_iff.mp h)

theorem ordinal_of_negative {x : Double} (h : x.negative = true) :
    x.ordinal = -(x.magnitude : Int) := if_pos h

theorem ordinal_of_positive {x : Double} (h : x.negative = false) : x.ordinal = x.magnitude :=
  if_neg (Bool.eq_false_iff.mp h)

/-- The total order tells all words apart. -/
theorem rank_injective {x y : Double} (h : x.rank = y.rank) : x = y := by
  have hparts : x.negative = y.negative ∧ x.magnitude = y.magnitude := by
    cases hx : x.negative <;> cases hy : y.negative <;>
      simp only [rank_of_negative, rank_of_positive, hx, hy] at h <;> simp <;> omega
  cases x
  cases y
  simpa using hparts

/-- The total order refines the order of values. -/
theorem ordinal_le_of_rank_le {x y : Double} (h : x.rank ≤ y.rank) : x.ordinal ≤ y.ordinal := by
  cases hx : x.negative <;> cases hy : y.negative <;>
    simp only [rank_of_negative, rank_of_positive, ordinal_of_negative, ordinal_of_positive,
      hx, hy] at h ⊢ <;> omega

/-- Two doubles of one value are the same, or zeros. -/
theorem eq_or_zeros_of_ordinal_eq {x y : Double} (h : x.ordinal = y.ordinal) :
    x = y ∨ x.magnitude = 0 ∧ y.magnitude = 0 := by
  have hparts : (x.negative = y.negative ∧ x.magnitude = y.magnitude) ∨
      x.magnitude = 0 ∧ y.magnitude = 0 := by
    cases hx : x.negative <;> cases hy : y.negative <;>
      simp only [ordinal_of_negative, ordinal_of_positive, hx, hy] at h <;> simp <;> omega
  refine hparts.imp (fun h => ?_) id
  cases x
  cases y
  simpa using h

/-- The values lie between the infinities, and a NaN beyond one of them. -/
theorem isNaN_eq_false_iff {x : Double} :
    x.isNaN = false ↔ -(Format.binary64.infinity : Int) ≤ x.ordinal ∧
      x.ordinal ≤ Format.binary64.infinity := by
  rw [isNaN, decide_eq_false_iff_not]
  cases hx : x.negative with
  | false =>
    rw [ordinal_of_positive hx]
    omega
  | true =>
    rw [ordinal_of_negative hx]
    omega

/-! ## The doubles of integers in order -/

/-- A larger integer has a double at least as large. -/
theorem rank_ofInt_mono {i j : Int} (h : i ≤ j) : (ofInt i).rank ≤ (ofInt j).rank := by
  by_cases hi : i < 0
  · rw [rank_of_negative ((negative_ofInt i).trans (decide_eq_true hi)), magnitude_ofInt]
    by_cases hj : j < 0
    · have hmono : wholeMagnitude j.natAbs ≤ wholeMagnitude i.natAbs :=
        wholeMagnitude_mono (by omega)
      rw [rank_of_negative ((negative_ofInt j).trans (decide_eq_true hj)), magnitude_ofInt]
      omega
    · rw [rank_of_positive ((negative_ofInt j).trans (decide_eq_false hj))]
      omega
  · have hj : ¬ j < 0 := by omega
    have hmono : wholeMagnitude i.natAbs ≤ wholeMagnitude j.natAbs :=
      wholeMagnitude_mono (by omega)
    rw [rank_of_positive ((negative_ofInt i).trans (decide_eq_false hi)), magnitude_ofInt,
      rank_of_positive ((negative_ofInt j).trans (decide_eq_false hj)), magnitude_ofInt]
    omega

theorem ordinal_ofInt_mono {i j : Int} (h : i ≤ j) : (ofInt i).ordinal ≤ (ofInt j).ordinal :=
  ordinal_le_of_rank_le (rank_ofInt_mono h)

/-! ## Negative zero and NaNs -/

/-- Two doubles of one value are the same unless one of them is negative zero. -/
theorem eq_or_negativeZero_of_ordinal_eq {x y : Double} (h : x.ordinal = y.ordinal) :
    x = y ∨ x = zero.neg ∨ y = zero.neg := by
  have hnegative : ∀ z : Double, z.negative = true → z.magnitude = 0 → z = zero.neg := by
    rintro ⟨_, _, _⟩ rfl rfl
    rfl
  have hpositive : ∀ z : Double, z.negative = false → z.magnitude = 0 → z = zero := by
    rintro ⟨_, _, _⟩ rfl rfl
    rfl
  rcases eq_or_zeros_of_ordinal_eq h with rfl | ⟨hx, hy⟩
  · exact Or.inl rfl
  · cases hsx : x.negative with
    | true => exact Or.inr (Or.inl (hnegative x hsx hx))
    | false =>
      cases hsy : y.negative with
      | true => exact Or.inr (Or.inr (hnegative y hsy hy))
      | false => exact Or.inl ((hpositive x hsx hx).trans (hpositive y hsy hy).symm)

theorem ofInt_ne_negativeZero (i : Int) : ofInt i ≠ zero.neg := by
  intro h
  have hzero : i = 0 := magnitude_ofInt_eq_zero_iff.mp (congrArg Double.magnitude h)
  have hsign := congrArg Double.negative h
  rw [negative_ofInt, hzero] at hsign
  cases hsign

/-- A NaN lies below all numbers if it is negative, and above them if it is not. -/
theorem isNaN_iff_of_negative {x : Double} (h : x.negative = true) :
    x.isNaN = true ↔ x.ordinal < -(Floating.Format.binary64.infinity : Int) := by
  rw [isNaN, decide_eq_true_iff, ordinal_of_negative h]
  omega

theorem isNaN_iff_of_positive {x : Double} (h : x.negative = false) :
    x.isNaN = true ↔ (Floating.Format.binary64.infinity : Int) < x.ordinal := by
  rw [isNaN, decide_eq_true_iff, ordinal_of_positive h]
  omega

end Double

end Winnow
