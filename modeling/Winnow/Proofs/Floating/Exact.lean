import Mathlib.Algebra.Order.Field.Rat
import Mathlib.Algebra.Order.Ring.Cast
import Mathlib.Order.WithBotTop
import Winnow.Proofs.Floating.Rounding

/-!
# `Winnow.Proofs.Floating.Exact` — the values of doubles

A number that a format holds rounds to itself. So rounding may make numbers equal that are not, but
never turns their order around: of two doubles that are nearest to some numbers, the lower one is
nearest to the lower number.

## Contents
- **`round_units`**: values of a format round to themselves.
- **`ordinalOf`**, **`ordinalOf_mono`**: rounding of signed numbers.
- **`value?`**: the value of a double, with infinities at the ends.
- **`NearestTo`**, **`NearestTo.lt`**: doubles that are nearest to numbers.
- **`value_ofInt`**: integers of few bits are the values of their doubles; **`isFinite_ofInt`**.
-/

namespace Winnow

namespace Floating.Format

variable {f : Format}

/-! ## Values of a format -/

/-- With a field of zero, the fraction is the value. -/
theorem units_of_fraction {fraction : Nat} (h : fraction < 2 ^ f.fractionBits) :
    f.units fraction = fraction := by
  unfold units
  dsimp only
  rw [Nat.shiftRight_eq_div_pow, Nat.one_shiftLeft, Nat.div_eq_of_lt h, Nat.mod_eq_of_lt h,
    if_pos rfl]

/-- With a field above zero, the fraction has a hidden bit before it and is scaled. -/
theorem units_of_field (field : Nat) {fraction : Nat} (h : fraction < 2 ^ f.fractionBits) :
    f.units ((field + 1) * 2 ^ f.fractionBits + fraction) =
      (2 ^ f.fractionBits + fraction) * 2 ^ field := by
  have hpositive := Nat.two_pow_pos f.fractionBits
  have hfield : ((field + 1) * 2 ^ f.fractionBits + fraction) / 2 ^ f.fractionBits = field + 1 := by
    rw [Nat.mul_comm, Nat.mul_add_div hpositive, Nat.div_eq_of_lt h, Nat.add_zero]
  unfold units
  dsimp only
  rw [Nat.shiftRight_eq_div_pow, Nat.one_shiftLeft, hfield, if_neg (Nat.succ_ne_zero field),
    Nat.mul_add_mod', Nat.mod_eq_of_lt h, Nat.shiftLeft_eq, Nat.add_sub_cancel]

/-- A magnitude is a fraction, or has a field above zero. -/
theorem fraction_or_field (f : Format) (magnitude : Nat) :
    magnitude < 2 ^ f.fractionBits ∨ ∃ field fraction, fraction < 2 ^ f.fractionBits ∧
      magnitude = (field + 1) * 2 ^ f.fractionBits + fraction := by
  rcases Nat.lt_or_ge magnitude (2 ^ f.fractionBits) with hlt | hge
  · exact .inl hlt
  · have hpositive := Nat.two_pow_pos f.fractionBits
    refine .inr ⟨magnitude / 2 ^ f.fractionBits - 1, magnitude % 2 ^ f.fractionBits,
      Nat.mod_lt _ hpositive, ?_⟩
    rw [Nat.sub_add_cancel (Nat.div_pos hge hpositive), Nat.mul_comm, Nat.div_add_mod]

/-- A whole quotient is not rounded. -/
theorem nearestEven_mul (quotient : Nat) {den : Nat} (h : 0 < den) :
    nearestEven (quotient * den) den = quotient := by
  unfold nearestEven
  dsimp only
  rw [Nat.mul_div_cancel _ h, Nat.mul_mod_left]
  exact if_neg (by omega)

/-- **The values of a format** round to themselves. -/
theorem round_units {magnitude : Nat} (h : magnitude ≤ f.infinity) :
    f.round (f.units magnitude) 1 = magnitude := by
  rw [round_one]
  rcases fraction_or_field f magnitude with hfraction | ⟨field, fraction, hfraction, rfl⟩
  · have hexcess : f.excess magnitude = 0 := by
      by_cases hzero : magnitude = 0
      · rw [hzero, excess, Nat.log2_zero, Nat.zero_sub]
      · have hlog := (Nat.log2_lt hzero).mpr hfraction
        exact Nat.sub_eq_zero_of_le (Nat.le_of_lt hlog)
    have hround := nearestEven_mul magnitude Nat.one_pos
    rw [Nat.mul_one] at hround
    rw [units_of_fraction hfraction, hexcess, Nat.zero_mul, Nat.zero_add, Nat.pow_zero, hround]
    exact Nat.min_eq_right h
  · have hlog : Nat.log2 ((2 ^ f.fractionBits + fraction) * 2 ^ field) =
        f.fractionBits + field := by
      have hpositive : (2 ^ f.fractionBits + fraction) * 2 ^ field ≠ 0 :=
        Nat.mul_ne_zero (by have := Nat.two_pow_pos f.fractionBits; omega)
          (Nat.two_pow_pos field).ne'
      refine (Nat.log2_eq_iff hpositive).mpr ⟨?_, ?_⟩
      · rw [Nat.pow_add]
        exact Nat.mul_le_mul_right _ (Nat.le_add_right _ _)
      · rw [Nat.add_right_comm, Nat.pow_add]
        refine Nat.mul_lt_mul_of_pos_right ?_ (Nat.two_pow_pos field)
        rw [Nat.pow_succ]
        omega
    have hexcess : f.excess ((2 ^ f.fractionBits + fraction) * 2 ^ field) = field := by
      rw [excess, hlog, Nat.add_sub_cancel_left]
    rw [units_of_field field hfraction, hexcess, nearestEven_mul _ (Nat.two_pow_pos field)]
    rw [Nat.add_mul, Nat.one_mul] at h ⊢
    omega

/-- A number of few bits, at any place that the fields reach, is the value of a magnitude. -/
theorem exists_units_eq (f : Format) {bits : Nat} (h : bits < 2 ^ (f.fractionBits + 1))
    (place : Nat) :
    ∃ magnitude < (place + 2) * 2 ^ f.fractionBits, f.units magnitude = bits * 2 ^ place := by
  by_cases hzero : bits = 0
  · exact ⟨0, Nat.mul_pos (Nat.succ_pos _) (Nat.two_pow_pos _),
      by rw [units_of_fraction (Nat.two_pow_pos _), hzero, Nat.zero_mul]⟩
  have hlow := Nat.log2_self_le hzero
  have hhigh := Nat.lt_log2_self (n := bits)
  have hlog : Nat.log2 bits < f.fractionBits + 1 := (Nat.log2_lt hzero).mpr h
  rcases Nat.lt_or_ge place (f.fractionBits - Nat.log2 bits) with hplace | hplace
  · -- below the hidden bit
    have hfraction : bits * 2 ^ place < 2 ^ f.fractionBits := by
      calc bits * 2 ^ place
          < 2 ^ (Nat.log2 bits + 1) * 2 ^ place :=
            Nat.mul_lt_mul_of_pos_right hhigh (Nat.two_pow_pos _)
        _ = 2 ^ (Nat.log2 bits + 1 + place) := (Nat.pow_add ..).symm
        _ ≤ 2 ^ f.fractionBits := Nat.pow_le_pow_right (by decide) (by omega)
    refine ⟨_, ?_, units_of_fraction hfraction⟩
    exact Nat.lt_of_lt_of_le hfraction (Nat.le_mul_of_pos_left _ (Nat.succ_pos _))
  · -- the highest bit moves to the hidden one
    obtain ⟨field, rfl⟩ := Nat.exists_eq_add_of_le hplace
    obtain ⟨moved, hmoved⟩ := Nat.exists_eq_add_of_le (Nat.le_of_lt_succ hlog)
    rw [hmoved, Nat.add_sub_cancel_left]
    have hhidden : 2 ^ (Nat.log2 bits + moved) ≤ bits * 2 ^ moved := by
      rw [Nat.pow_add]
      exact Nat.mul_le_mul_right _ hlow
    have hfraction : bits * 2 ^ moved < 2 * 2 ^ (Nat.log2 bits + moved) := by
      calc bits * 2 ^ moved
          < 2 ^ (Nat.log2 bits + 1) * 2 ^ moved :=
            Nat.mul_lt_mul_of_pos_right hhigh (Nat.two_pow_pos _)
        _ = 2 * 2 ^ (Nat.log2 bits + moved) := by
            rw [Nat.pow_add, Nat.pow_add, Nat.pow_one, Nat.mul_right_comm, Nat.mul_comm]
    have hfits : bits * 2 ^ moved - 2 ^ f.fractionBits < 2 ^ f.fractionBits := by
      rw [hmoved]
      omega
    refine ⟨_, ?_, (units_of_field field hfits).trans ?_⟩
    · rw [hmoved, Nat.add_mul, Nat.add_mul, Nat.add_mul, Nat.one_mul]
      omega
    · rw [hmoved, Nat.add_sub_cancel' hhidden, Nat.pow_add, Nat.mul_assoc]

theorem round_zero (f : Format) : f.round 0 1 = 0 := by
  have hzero : f.units 0 = 0 := units_of_fraction (Nat.two_pow_pos _)
  have hround := round_units (Nat.zero_le f.infinity)
  rwa [hzero] at hround

end Floating.Format

namespace Double

open Floating

variable {x y : Double} {v w : WithBotTop ℚ}

/-! ## Signed numbers -/

/-- The ordinal of the double nearest to a whole number of least positive values. -/
def ordinalOf (units : Int) : Int :=
  if units < 0 then -(Format.binary64.round units.natAbs 1 : Int)
  else Format.binary64.round units.natAbs 1

theorem ordinalOf_mono {u v : Int} (h : u ≤ v) : ordinalOf u ≤ ordinalOf v := by
  unfold ordinalOf
  split
  · split
    · have hmono := Format.binary64.round_mono (show v.natAbs ≤ u.natAbs by omega)
      omega
    · omega
  · have hmono := Format.binary64.round_mono (show u.natAbs ≤ v.natAbs by omega)
    rw [if_neg (by omega)]
    omega

theorem ordinalOf_bounds (u : Int) :
    -(Format.binary64.infinity : Int) ≤ ordinalOf u ∧ ordinalOf u ≤ Format.binary64.infinity := by
  have hle := Format.binary64.round_le_infinity u.natAbs 1
  unfold ordinalOf
  split <;> omega

/-- The ordinal of a finite double is that of its value. -/
theorem ordinalOf_units (h : x.isFinite = true) : ordinalOf x.units = x.ordinal := by
  have hround := Format.round_units (Nat.le_of_lt (of_decide_eq_true h))
  cases hx : x.negative with
  | false =>
    have hunits : x.units = Format.binary64.units x.magnitude := if_neg (by simp [hx])
    rw [hunits, ordinalOf, if_neg (by omega), Int.natAbs_natCast, hround, ordinal_of_positive hx]
  | true =>
    have hunits : x.units = -(Format.binary64.units x.magnitude : Int) := if_pos hx
    rw [hunits, ordinal_of_negative hx, ordinalOf, Int.natAbs_neg, Int.natAbs_natCast, hround]
    split
    · rfl
    · -- only zero has no sign
      have hzero : Format.binary64.units x.magnitude = 0 := by omega
      rw [hzero, Format.round_zero] at hround
      omega

/-- The double of an integer is rounded from its count of least positive values. -/
theorem ordinal_ofInt (i : Int) :
    (ofInt i).ordinal = ordinalOf (i * 2 ^ Format.binary64.scale) := by
  have hscale : (0 : Int) < 2 ^ Format.binary64.scale := Int.pow_pos (by decide)
  have hmagnitude : Format.binary64.round (i * 2 ^ Format.binary64.scale).natAbs 1 =
      wholeMagnitude i.natAbs := by
    rw [Int.natAbs_mul, Int.natAbs_pow, wholeMagnitude, Nat.shiftLeft_eq,
      show (2 : Int).natAbs = 2 from rfl]
  rw [ordinalOf, hmagnitude]
  by_cases hi : i < 0
  · rw [ordinal_of_negative ((negative_ofInt i).trans (decide_eq_true hi)), magnitude_ofInt,
      if_pos (Int.mul_neg_of_neg_of_pos hi hscale)]
  · rw [ordinal_of_positive ((negative_ofInt i).trans (decide_eq_false hi)), magnitude_ofInt,
      if_neg (Int.not_lt.mpr (Int.mul_nonneg (Int.not_lt.mp hi) (Int.le_of_lt hscale)))]

/-! ## Values -/

/-- A whole number of least positive values. -/
def scaled (units : Int) : WithBotTop ℚ := .coe (units / 2 ^ Format.binary64.scale)

/-- The value of a double, with infinities at the ends; a NaN has none. -/
def value? (x : Double) : Option (WithBotTop ℚ) :=
  if x.isFinite then some (scaled x.units)
  else if x.isNaN then none
  else if x.negative then some ⊥
  else some ⊤

theorem scaled_lt_scaled {u v : Int} : scaled u < scaled v ↔ u < v := by
  have hscale : (0 : ℚ) < 2 ^ Format.binary64.scale := pow_pos (by decide) _
  rw [scaled, scaled, WithBotTop.coe_lt_coe, div_lt_div_iff_of_pos_right hscale, Int.cast_lt]

/-- An integer in least positive values. -/
theorem scaled_integer (i : Int) :
    scaled (i * 2 ^ Format.binary64.scale) = WithBotTop.coe (i : ℚ) := by
  have hscale : (2 : ℚ) ^ Format.binary64.scale ≠ 0 := pow_ne_zero _ (by decide)
  rw [scaled]
  push_cast
  rw [mul_div_cancel_right₀ _ hscale]

theorem integer_lt {i j : Int} (h : i < j) : WithBotTop.coe (i : ℚ) < .coe (j : ℚ) :=
  WithBotTop.coe_lt_coe.mpr (Int.cast_lt.mpr h)

theorem integer_le {i j : Int} (h : i ≤ j) : WithBotTop.coe (i : ℚ) ≤ .coe (j : ℚ) :=
  WithBotTop.coe_le_coe.mpr (Int.cast_le.mpr h)

/-- A double is nearest to a number. -/
inductive NearestTo (x : Double) : WithBotTop ℚ → Prop where
  | units (u : Int) (h : x.ordinal = ordinalOf u) : NearestTo x (scaled u)
  | top (h : x.ordinal = Format.binary64.infinity) : NearestTo x ⊤
  | bottom (h : x.ordinal = -(Format.binary64.infinity : Int)) : NearestTo x ⊥

/-- A double is nearest to its value. -/
theorem nearestTo_of_value (h : x.value? = some v) : x.isNaN = false ∧ x.NearestTo v := by
  unfold value? at h
  by_cases hfinite : x.isFinite = true
  · rw [if_pos hfinite] at h
    obtain rfl := Option.some.inj h
    have hlt : x.magnitude < Format.binary64.infinity := of_decide_eq_true hfinite
    exact ⟨decide_eq_false (Nat.lt_asymm hlt), .units _ (ordinalOf_units hfinite).symm⟩
  · rw [if_neg hfinite] at h
    by_cases hnan : x.isNaN = true
    · rw [if_pos hnan] at h
      cases h
    · rw [if_neg hnan] at h
      -- neither finite nor a NaN
      have hmagnitude : x.magnitude = Format.binary64.infinity := by
        have hge : ¬ x.magnitude < Format.binary64.infinity := fun hlt =>
          hfinite (decide_eq_true hlt)
        have hle : ¬ Format.binary64.infinity < x.magnitude := fun hlt =>
          hnan (decide_eq_true hlt)
        omega
      refine ⟨Bool.eq_false_iff.mpr hnan, ?_⟩
      by_cases hnegative : x.negative = true
      · rw [if_pos hnegative] at h
        obtain rfl := Option.some.inj h
        exact .bottom (by rw [ordinal_of_negative hnegative, hmagnitude])
      · rw [if_neg hnegative] at h
        obtain rfl := Option.some.inj h
        exact .top (by rw [ordinal_of_positive (Bool.eq_false_iff.mpr hnegative), hmagnitude])

/-- All numbers have values. -/
theorem exists_value_iff : (∃ v, x.value? = some v) ↔ x.isNaN = false := by
  constructor
  · rintro ⟨v, h⟩
    exact (nearestTo_of_value h).1
  · intro h
    unfold value?
    rw [h, if_neg Bool.false_ne_true, ← apply_ite some, ← apply_ite some]
    exact ⟨_, rfl⟩

/-- The nearest double of an integer. -/
theorem nearestTo_ofInt (i : Int) : (ofInt i).NearestTo (.coe (i : ℚ)) := by
  rw [← scaled_integer]
  exact .units _ (ordinal_ofInt i)

/-- **Integers of few bits** are the values of their doubles. -/
theorem value_ofInt {i : Int} {bits place : Nat} (hbits : bits < 2 ^ 53) (hplace : place ≤ 64)
    (h : i.natAbs = bits * 2 ^ place) : (ofInt i).value? = some (.coe (i : ℚ)) := by
  obtain ⟨magnitude, hfield, hvalue⟩ := Format.binary64.exists_units_eq hbits
    (place + Format.binary64.scale)
  have hscale : Format.binary64.scale = 1074 := rfl
  have hfinite : magnitude < Format.binary64.infinity := by
    have hinfinity : Format.binary64.infinity = 2047 * 2 ^ Format.binary64.fractionBits := rfl
    rw [hinfinity]
    exact Nat.lt_of_lt_of_le hfield (Nat.mul_le_mul_right _ (by omega))
  have hunits : Format.binary64.units magnitude = i.natAbs * 2 ^ Format.binary64.scale := by
    rw [hvalue, Nat.pow_add, ← Nat.mul_assoc, h]
  have hmagnitude : (ofInt i).magnitude = magnitude := by
    rw [magnitude_ofInt, wholeMagnitude, Nat.shiftLeft_eq, ← hunits,
      Format.round_units (Nat.le_of_lt hfinite)]
  have hexact : (ofInt i).units = i * 2 ^ Format.binary64.scale := by
    rw [units, hmagnitude, hunits, negative_ofInt, Nat.cast_mul, Nat.cast_pow]
    by_cases hi : i < 0
    · rw [if_pos (decide_eq_true hi), Int.ofNat_natAbs_of_nonpos (Int.le_of_lt hi), Int.neg_mul,
        Int.neg_neg]
      rfl
    · rw [if_neg (by simpa using hi), Int.natAbs_of_nonneg (Int.not_lt.mp hi)]
      rfl
  have hfinite : (ofInt i).isFinite = true := decide_eq_true (hmagnitude ▸ hfinite)
  rw [value?, if_pos hfinite, hexact, scaled_integer]

/-- The double of an integer of 64 bits is finite. -/
theorem isFinite_ofInt (i : Int64) : (ofInt i.toInt).isFinite = true := by
  have hbounds : i.toInt.natAbs ≤ 0x8000000000000000 := by
    have hle := Int64.le_toInt i
    have hlt := Int64.toInt_lt i
    omega
  have hgreatest : wholeMagnitude 0x8000000000000000 < Format.binary64.infinity := by
    decide +kernel
  rw [isFinite, magnitude_ofInt]
  exact decide_eq_true (Nat.lt_of_le_of_lt (wholeMagnitude_mono hbounds) hgreatest)

/-- **Rounding keeps the order**: the lower one of two doubles is nearest to the lower number. -/
theorem NearestTo.lt (hx : x.NearestTo v) (hy : y.NearestTo w) (h : x.ordinal < y.ordinal) :
    v < w := by
  -- the ends lie beyond all counts, and the ordinals of counts within those of the ends
  have hscaled : ∀ u : Int, ⊥ < scaled u ∧ scaled u < ⊤ := fun u =>
    ⟨WithBot.bot_lt_coe _, WithBot.coe_lt_coe.mpr (WithTop.coe_lt_top _)⟩
  cases hx with
  | units u hu =>
    cases hy with
    | units u' hu' =>
      refine scaled_lt_scaled.mpr (Int.not_le.mp fun hge => ?_)
      have hmono := ordinalOf_mono hge
      omega
    | top _ => exact (hscaled u).2
    | bottom hbottom =>
      have hbounds := ordinalOf_bounds u
      omega
  | top htop =>
    cases hy with
    | units u hu =>
      have hbounds := ordinalOf_bounds u
      omega
    | top _ => omega
    | bottom _ => omega
  | bottom hbottom =>
    cases hy with
    | units u _ => exact (hscaled u).1
    | top _ => exact bot_lt_top
    | bottom _ => omega

/-- Doubles that compare equal have one value; zeros of either sign do. -/
theorem value_of_ordinal_eq (h : x.ordinal = y.ordinal) : x.value? = y.value? := by
  have hzero : ∀ z : Double, z.magnitude = 0 → z.value? = some (scaled 0) := by
    intro z hz
    have hunits : z.units = 0 := by
      rw [units, hz, Format.units_of_fraction (Nat.two_pow_pos _)]
      exact ite_self _
    have hfinite : z.isFinite = true := by
      rw [isFinite, hz]
      decide
    rw [value?, if_pos hfinite, hunits]
  rcases eq_or_zeros_of_ordinal_eq h with rfl | ⟨hx, hy⟩
  · rfl
  · rw [hzero x hx, hzero y hy]

/-- A double that compares equal to the nearest one of an integer is that double, or it has the
    value of the integer, as negative zero has. -/
theorem eq_or_value_of_ordinal_eq {i : Int} (h : (ofInt i).ordinal = x.ordinal) :
    ofInt i = x ∨ x.value? = some (.coe (i : ℚ)) := by
  refine (eq_or_zeros_of_ordinal_eq h).imp_right fun hzeros => ?_
  obtain rfl := magnitude_ofInt_eq_zero_iff.mp hzeros.1
  have hvalue : (ofInt 0).value? = some (.coe ((0 : Int) : ℚ)) :=
    value_ofInt (Nat.two_pow_pos 53) (Nat.zero_le 64) (Nat.zero_mul _).symm
  rw [← value_of_ordinal_eq h, hvalue]

end Double

end Winnow
