import Winnow.Proofs.Floating.Exact

/-!
# `Winnow.Proofs.Floating.Widened` — narrow numbers as doubles

A format that is wider in every respect holds all numbers of a narrower one. So a number that comes
from the narrower format is not changed by going there and back.

## Contents
- **`Format.Within`**, **`units_convert`**, **`convert_convert`**: to a wider format and back.
- **`Double.IsOf`**, **`within_of_isOf`**: doubles that a narrower format holds.
-/

namespace Winnow

namespace Floating.Format

variable {f g : Format}

/-- A factor of both parts of a quotient does not count. -/
theorem nearestEven_mul_mul (num den : Nat) {factor : Nat} (h : 0 < factor) :
    nearestEven (num * factor) (den * factor) = nearestEven num den := by
  have habove : den * factor < 2 * (num % den * factor) ↔ den < 2 * (num % den) := by
    rw [← Nat.mul_assoc]
    exact Nat.mul_lt_mul_right h
  have hhalf : 2 * (num % den * factor) = den * factor ↔ 2 * (num % den) = den := by
    rw [← Nat.mul_assoc]
    exact Nat.mul_left_inj h.ne'
  unfold nearestEven
  dsimp only
  rw [Nat.mul_div_mul_right _ _ h, Nat.mul_mod_mul_right]
  simp only [habove, hhalf]

/-- A whole quotient is rounded as the number that it is. -/
theorem round_mul (f : Format) (num : Nat) {den : Nat} (h : 0 < den) :
    f.round (num * den) den = f.round num 1 := by
  unfold round
  dsimp only
  rw [Nat.mul_div_cancel _ h, Nat.div_one, Nat.shiftLeft_eq den, Nat.mul_comm den,
    nearestEven_mul_mul _ _ h, Nat.one_shiftLeft]

/-- A format holds the numbers of another one: it has as many bits, as small numbers and as great
    ones. -/
structure Within (f g : Format) : Prop where
  bits : f.fractionBits ≤ g.fractionBits
  small : f.scale ≤ g.scale
  great : f.special + (g.scale - f.scale) < g.special

/-- A count of small values, in the smaller unit of the other format. -/
theorem Within.counted (hwithin : f.Within g) (count : Nat) :
    count * 2 ^ (g.scale - f.scale) * 2 ^ f.scale = count * 2 ^ g.scale := by
  rw [Nat.mul_assoc, ← Nat.pow_add, Nat.sub_add_cancel hwithin.small]

theorem binary32_within : binary32.Within binary64 := ⟨by decide, by decide, by decide⟩

theorem infinity_eq (f : Format) : f.infinity = f.special * 2 ^ f.fractionBits :=
  Nat.shiftLeft_eq _ _

/-- A finite value has few bits, at a place that the fields reach. -/
theorem exists_bits_eq {magnitude : Nat} (h : magnitude < f.infinity) :
    ∃ bits place, bits < 2 ^ (f.fractionBits + 1) ∧ place < f.special ∧
      f.units magnitude = bits * 2 ^ place := by
  rw [infinity_eq] at h
  rcases fraction_or_field f magnitude with hfraction | ⟨field, fraction, hfraction, rfl⟩
  · refine ⟨magnitude, 0, ?_, ?_, ?_⟩
    · exact Nat.lt_trans hfraction (Nat.pow_lt_pow_right (by decide) (Nat.lt_succ_self _))
    · have hspecial : 0 < f.special := Nat.pos_of_ne_zero fun hzero => by simp [hzero] at h
      omega
    · rw [units_of_fraction hfraction, Nat.pow_zero, Nat.mul_one]
  · refine ⟨2 ^ f.fractionBits + fraction, field, ?_, ?_, units_of_field field hfraction⟩
    · rw [Nat.pow_succ]
      omega
    · have hfield := Nat.lt_of_mul_lt_mul_right (Nat.lt_of_le_of_lt (Nat.le_add_right _ _) h)
      omega

/-- **A finite number keeps its value** in a format that holds it, where it is finite as well. -/
theorem units_convert (hwithin : f.Within g) {magnitude : Nat} (h : magnitude < f.infinity) :
    f.convert g magnitude < g.infinity ∧
      g.units (f.convert g magnitude) = f.units magnitude * 2 ^ (g.scale - f.scale) := by
  obtain ⟨bits, place, hbits, hplace, hunits⟩ := exists_bits_eq h
  have hfits : bits < 2 ^ (g.fractionBits + 1) :=
    Nat.lt_of_lt_of_le hbits
      (Nat.pow_le_pow_right (by decide) (Nat.add_le_add_right hwithin.bits 1))
  obtain ⟨wide, hwide, hvalue⟩ := g.exists_units_eq hfits (place + (g.scale - f.scale))
  have hgreat := hwithin.great
  have hfinite : wide < g.infinity := by
    rw [infinity_eq]
    exact Nat.lt_of_lt_of_le hwide (Nat.mul_le_mul_right _ (by omega))
  have hsame : f.units magnitude * 2 ^ (g.scale - f.scale) = g.units wide := by
    rw [hvalue, hunits, Nat.mul_assoc, ← Nat.pow_add]
  have hconvert : f.convert g magnitude = wide := by
    unfold convert
    rw [if_pos h, Nat.shiftLeft_eq, Nat.one_shiftLeft,
      ← hwithin.counted, round_mul _ _ (Nat.two_pow_pos _), hsame,
      round_units (Nat.le_of_lt hfinite)]
  rw [hconvert]
  exact ⟨hfinite, hsame.symm⟩

/-- **A number is not changed** by going to a format that holds it and back. -/
theorem convert_convert (hwithin : f.Within g) {magnitude : Nat} (h : magnitude ≤ f.infinity) :
    g.convert f (f.convert g magnitude) = magnitude := by
  rcases Nat.lt_or_eq_of_le h with hlt | rfl
  · obtain ⟨hfinite, hunits⟩ := units_convert hwithin hlt
    rw [convert, if_pos hfinite, hunits, Nat.shiftLeft_eq, Nat.one_shiftLeft, hwithin.counted,
      round_mul _ _ (Nat.two_pow_pos _), round_units h]
  · simp [convert]

theorem convert_le (hwithin : f.Within g) {magnitude : Nat} (h : magnitude ≤ f.infinity) :
    f.convert g magnitude ≤ g.infinity := by
  rcases Nat.lt_or_eq_of_le h with hlt | rfl
  · exact Nat.le_of_lt (units_convert hwithin hlt).1
  · simp [convert]

end Floating.Format

namespace Double

open Floating

/-- A number of another format, finite or infinite, as a double. -/
def IsOf (source : Format) (x : Double) : Prop :=
  ∃ negative magnitude, magnitude ≤ source.infinity ∧ x = ofMagnitudeIn source negative magnitude

/-- **A double that a narrower format holds** is not rounded by it. -/
theorem within_of_isOf {source : Format} (hwithin : source.Within .binary64) {x : Double}
    (h : x.IsOf source) : x.within source = x := by
  obtain ⟨negative, magnitude, hle, rfl⟩ := h
  have hinfinity : Format.binary64.infinity < 0x8000000000000000 := by decide
  have hword : (ofMagnitudeIn source negative magnitude).magnitude =
      source.convert .binary64 magnitude :=
    Nat.mod_eq_of_lt (Nat.lt_of_le_of_lt (Format.convert_le hwithin hle) hinfinity)
  unfold within magnitudeIn
  rw [hword, Format.convert_convert hwithin hle]
  rfl

end Double

end Winnow
