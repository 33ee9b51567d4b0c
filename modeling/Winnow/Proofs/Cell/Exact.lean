import Winnow.Proofs.Floating.Exact
import Winnow.Proofs.Summary.Range

/-!
# `Winnow.Proofs.Cell.Exact` — numbers compared by their values

Two integers are compared exactly, and so are two floats. An integer and a float are compared as
doubles, which is exact as well unless the integer is rounded: then it is the same as the double
nearest to it. Numbers that are told apart are always told apart in the order of their values.

## Contents
- **`value?`**: the value of a number.
- **`Rounded`**: an integer and the double nearest to it, of another value;
  **`roundedPair_of_rounded`**: where that happens.
- **`compare?_cases`**: the answers of a comparison against the values.
- **`compare?_eq_compare`**, **`sameAs_iff`**, **`atMost_iff`**: order and equality by value.
-/

namespace Winnow.Cell

variable {a b : Cell} {v w : WithBotTop ℚ}

/-- The value of a number, with infinities at the ends. NaNs and other cells have none. -/
def value? : Cell → Option (WithBotTop ℚ)
  | integer i => some (.coe (i.toInt : ℚ))
  | float x => x.value?
  | _ => none

theorem exists_value_iff : (∃ v, a.value? = some v) ↔ a.isOrdered = true := by
  cases a with
  | integer i => exact iff_of_true ⟨_, rfl⟩ rfl
  | float x =>
    have hordered : (float x).isOrdered = !x.isNaN := rfl
    rw [value?, Double.exists_value_iff, hordered, Bool.not_eq_true']
  | null => exact iff_of_false (fun ⟨_, h⟩ => nomatch h) nofun
  | boolean _ => exact iff_of_false (fun ⟨_, h⟩ => nomatch h) nofun
  | string _ => exact iff_of_false (fun ⟨_, h⟩ => nomatch h) nofun

/-- Doubles in place of the numbers that they are nearest to: what is told apart is told apart
    rightly. -/
theorem compare?_nearest {x y : Double} (hx : x.isNaN = false ∧ x.NearestTo v)
    (hy : y.isNaN = false ∧ y.NearestTo w) :
    (x.compare? y = some .lt ∧ v < w) ∨ (x.compare? y = some .gt ∧ w < v) ∨
      (x.compare? y = some .eq ∧ x.ordinal = y.ordinal) := by
  rw [doubleCompare?_eq hx.1 hy.1]
  rcases Int.lt_trichotomy x.ordinal y.ordinal with hlt | heq | hgt
  · exact .inl ⟨congrArg some (Int.compare_eq_lt.mpr hlt), hx.2.lt hy.2 hlt⟩
  · exact .inr (.inr ⟨congrArg some (Int.compare_eq_eq.mpr heq), heq⟩)
  · exact .inr (.inl ⟨congrArg some (Int.compare_eq_gt.mpr hgt), hy.2.lt hx.2 hgt⟩)

/-- An integer and the double nearest to it, if they differ in value. -/
def Rounded : Cell → Cell → Prop
  | integer i, float x | float x, integer i =>
    Double.ofInt i.toInt = x ∧ x.value? ≠ some (.coe (i.toInt : ℚ))
  | _, _ => False

theorem rounded_comm : a.Rounded b ↔ b.Rounded a := by
  cases a <;> cases b <;> exact Iff.rfl

/-- An integer of more than 53 bits and the finite double nearest to it, in either order. -/
def RoundedPair (a b : Cell) : Prop :=
  ∃ (i : Int64) (x : Double), (a = integer i ∧ b = float x ∨ a = float x ∧ b = integer i) ∧
    2 ^ 53 < i.toInt.natAbs ∧ x.isFinite = true ∧ x = Double.ofInt i.toInt

/-- Integers of up to 53 bits are not rounded, and none is rounded to an infinity. -/
theorem roundedPair_of_rounded (h : a.Rounded b) : RoundedPair a b := by
  have hlarge : ∀ {i : Int64}, (Double.ofInt i.toInt).value? ≠ some (.coe (i.toInt : ℚ)) →
      2 ^ 53 < i.toInt.natAbs := by
    intro i hvalue
    refine Nat.lt_of_not_le fun hle => hvalue ?_
    rcases Nat.lt_or_eq_of_le hle with hlt | heq
    · exact Double.value_ofInt hlt (Nat.zero_le 64) (by rw [Nat.pow_zero, Nat.mul_one])
    · exact Double.value_ofInt (Nat.one_lt_two_pow (by decide)) (by decide)
        (heq.trans (Nat.one_mul (2 ^ 53)).symm)
  cases a with
  | null | boolean _ | string _ => exact h.elim
  | integer i =>
    cases b with
    | null | boolean _ | string _ | integer _ => exact h.elim
    | float x =>
      obtain ⟨rfl, hvalue⟩ := h
      exact ⟨i, _, .inl ⟨rfl, rfl⟩, hlarge hvalue, Double.isFinite_ofInt i, rfl⟩
  | float x =>
    cases b with
    | null | boolean _ | string _ | float _ => exact h.elim
    | integer i =>
      obtain ⟨rfl, hvalue⟩ := h
      exact ⟨i, _, .inr ⟨rfl, rfl⟩, hlarge hvalue, Double.isFinite_ofInt i, rfl⟩

/-- **The answers of a comparison.** Numbers that are told apart are so in the order of their
    values, and those that are not are of one value or rounded. -/
theorem compare?_cases (hv : a.value? = some v) (hw : b.value? = some w) :
    (a.compare? b = some .lt ∧ v < w) ∨ (a.compare? b = some .gt ∧ w < v) ∨
      (a.compare? b = some .eq ∧ (v = w ∨ a.Rounded b)) := by
  have hmixed : ∀ {i : Int64} {x : Double} {u : WithBotTop ℚ}, x.value? = some u →
      (Double.ofInt i.toInt).ordinal = x.ordinal →
      .coe (i.toInt : ℚ) = u ∨ (integer i).Rounded (float x) := by
    intro i x u hu heq
    by_cases hvalue : x.value? = some (.coe (i.toInt : ℚ))
    · exact .inl (Option.some.inj (hvalue.symm.trans hu))
    · exact .inr ⟨(Double.eq_or_value_of_ordinal_eq heq).resolve_right hvalue, hvalue⟩
  have hnearest : ∀ i : Int64, (Double.ofInt i.toInt).isNaN = false ∧
      (Double.ofInt i.toInt).NearestTo (.coe (i.toInt : ℚ)) :=
    fun i => ⟨Double.isNaN_ofInt _, Double.nearestTo_ofInt _⟩
  cases a with
  | null | boolean _ | string _ => cases hv
  | integer i =>
    obtain rfl := Option.some.inj hv
    cases b with
    | null | boolean _ | string _ => cases hw
    | integer j =>
      obtain rfl := Option.some.inj hw
      rcases Int.lt_trichotomy i.toInt j.toInt with hlt | heq | hgt
      · exact .inl ⟨congrArg some (Int.compare_eq_lt.mpr hlt), Double.integer_lt hlt⟩
      · exact .inr (.inr ⟨congrArg some (Int.compare_eq_eq.mpr heq), .inl (by rw [heq])⟩)
      · exact .inr (.inl ⟨congrArg some (Int.compare_eq_gt.mpr hgt), Double.integer_lt hgt⟩)
    | float y =>
      rw [compare?_integer_float]
      refine (compare?_nearest (hnearest i) (Double.nearestTo_of_value hw)).imp_right ?_
      exact Or.imp_right fun h => ⟨h.1, hmixed hw h.2⟩
  | float x =>
    cases b with
    | null | boolean _ | string _ => cases hw
    | integer j =>
      obtain rfl := Option.some.inj hw
      rw [compare?_float_integer]
      refine (compare?_nearest (Double.nearestTo_of_value hv) (hnearest j)).imp_right ?_
      refine Or.imp_right fun h => ⟨h.1, ?_⟩
      exact (hmixed hv h.2.symm).imp Eq.symm rounded_comm.mp
    | float y =>
      rw [compare?_floats]
      refine (compare?_nearest (Double.nearestTo_of_value hv)
        (Double.nearestTo_of_value hw)).imp_right ?_
      refine Or.imp_right fun h => ⟨h.1, .inl ?_⟩
      exact Option.some.inj (hv.symm.trans ((Double.value_of_ordinal_eq h.2).trans hw))

/-- Rounded numbers are the same, though of different values. -/
theorem sameAs_of_rounded (hv : a.value? = some v) (hw : b.value? = some w) (h : a.Rounded b) :
    a.compare? b = some .eq ∧ v ≠ w := by
  have hpair : ∀ {i : Int64} {x : Double}, (integer i).Rounded (float x) →
      (integer i).compare? (float x) = some .eq := by
    rintro i x ⟨rfl, _⟩
    rw [compare?_integer_float, Double.compare?, Double.isNaN_ofInt]
    exact congrArg some (Int.compare_eq_eq.mpr rfl)
  cases a with
  | null | boolean _ | string _ => cases hv
  | integer i =>
    cases b with
    | null | boolean _ | string _ | integer _ => exact h.elim
    | float y =>
      refine ⟨hpair h, fun heq => h.2 ?_⟩
      exact (hw.trans (congrArg some heq.symm)).trans hv.symm
  | float x =>
    cases b with
    | null | boolean _ | string _ | float _ => exact h.elim
    | integer j =>
      refine ⟨?_, fun heq => h.2 ?_⟩
      · exact compare?_swapped (hpair h)
      · exact (hv.trans (congrArg some heq)).trans hw.symm

/-- **Comparison is exact** unless an integer is rounded. -/
theorem compare?_eq_compare (hv : a.value? = some v) (hw : b.value? = some w)
    (h : ¬ a.Rounded b) : a.compare? b = some (compare v w) := by
  rcases compare?_cases hv hw with ⟨hless, hlt⟩ | ⟨hgreater, hgt⟩ | ⟨hsame, heq⟩
  · rw [hless, compare_lt_iff_lt.mpr hlt]
  · rw [hgreater, compare_gt_iff_gt.mpr hgt]
  · rw [hsame, compare_eq_iff_eq.mpr (heq.resolve_right h)]

/-- Numbers are the same if they are of one value, or rounded. -/
theorem sameAs_iff (hv : a.value? = some v) (hw : b.value? = some w) :
    a.sameAs b = true ↔ v = w ∨ a.Rounded b := by
  rw [sameAs_iff_compare?_eq]
  by_cases hrounded : a.Rounded b
  · exact iff_of_true (sameAs_of_rounded hv hw hrounded).1 (.inr hrounded)
  · rw [compare?_eq_compare hv hw hrounded, Option.some_inj, compare_eq_iff_eq]
    exact (or_iff_left hrounded).symm

/-- A number is at most another one by value, or rounded. -/
theorem atMost_iff (hv : a.value? = some v) (hw : b.value? = some w) :
    a.AtMost b ↔ v ≤ w ∨ a.Rounded b := by
  by_cases hrounded : a.Rounded b
  · exact iff_of_true ⟨_, (sameAs_of_rounded hv hw hrounded).1, nofun⟩ (.inr hrounded)
  · rw [or_iff_left hrounded, ← not_lt, ← compare_gt_iff_gt (a := v) (b := w), AtMost,
      compare?_eq_compare hv hw hrounded]
    simp

end Winnow.Cell
