import Winnow.Proofs.Source.Steps
import Winnow.Proofs.Summary.Neighbours

/-!
# `Winnow.Proofs.Source.Integers` — columns of integers that have a numeric spec

Two distinct integers have a range and a step, but the step is only given if no integer is too far
from the next one: a single gap that does not fit a word of 64 bits makes the column bad data, even
if another gap is as small as can be.

## Contents
- **`numericSpec_of_integers`**: when there is a spec, and which fault there is otherwise;
  **`numericSpec_of_integers_wide`**: all of the words of 64 bits.
- **`numericSpec_lostStep`**: a step that is not given.
-/

namespace Winnow.Source

open Winnow.Summary Registry

variable {source : Source} {session : Session} {column : String} {cells : List Cell}

/-- **When integers have a numeric spec.** Fewer than two distinct ones are too few. Otherwise there
    is one exactly if the distance of neighbours always fits a word of 64 bits, and then it is
    exact; a larger distance is reported as bad data. -/
theorem numericSpec_of_integers (h : source.NextNumbers column session cells)
    (hints : Integers cells) :
    ((integersOf cells).Subsingleton →
      ((source.numericSpec column).runOn session).1 = .error (.tooFewValues column)) ∧
    (∀ i j, Neighbours cells i j → 0x8000000000000000 ≤ j - i →
      ((source.numericSpec column).runOn session).1 = .error (.badData column)) ∧
    ((integersOf cells).Nontrivial →
      (∀ i j, Neighbours cells i j → j - i < 0x8000000000000000) →
      ∃ low high step : Int64,
        ((source.numericSpec column).runOn session).1 =
          .ok ⟨.integer low, .integer high, .integer step⟩ ∧
        Exact cells low.toInt high.toInt step.toInt) := by
  obtain ⟨values, hvalues⟩ := sortedDistinct_of_oneDomain hints.oneDomain
  have hdistinct := isDistinct_of_sortedDistinct hints.unmixed hvalues
  have hrun : ((source.numericSpec column).runOn session).1 =
      Summary.numericSpec column values := by
    rw [runOn_numericSpec h, hvalues]
    rfl
  rw [hrun]
  refine ⟨numericSpec_of_subsingleton hints hdistinct, fun i j hneighbours hfar => ?_,
    fun htwo hclose => ?_⟩
  · exact numericSpec_of_far hints hdistinct hneighbours hfar
  · obtain ⟨spec, hspec⟩ : ∃ spec, Summary.numericSpec column values = .ok spec :=
      numericSpec_of_close hints hdistinct htwo hclose
    obtain ⟨low, high, step, rfl, hexact⟩ := exact_of_numericSpec hints hdistinct hspec
    exact ⟨low, high, step, hspec, hexact⟩

/-- A source of sizes from rows of one cell each. -/
def sizesOf (sizes : List Int64) : Source :=
  ⟨0, [⟨"size", .number⟩], .memory (sizes.map fun size => [.integer size])⟩

theorem nextNumbers_sizesOf (sizes : List Int64) :
    (sizesOf sizes).NextNumbers "size" Session.fresh (sizes.map .integer) := by
  refine ⟨rfl, _, rfl, ?_⟩
  rw [List.forall₂_map_left_iff, List.forall₂_map_right_iff, List.forall₂_same]
  exact fun size _ => rfl

theorem integers_map (sizes : List Int64) : Integers (sizes.map .integer) := by
  intro cell hcell
  obtain ⟨size, _, rfl⟩ := List.mem_map.mp hcell
  exact ⟨size, rfl⟩

theorem mem_integersOf_map {sizes : List Int64} {i : Int} :
    i ∈ integersOf (sizes.map .integer) ↔ ∃ size ∈ sizes, size.toInt = i := by
  constructor
  · rintro ⟨word, hword, rfl⟩
    obtain ⟨size, hsize, heq⟩ := List.mem_map.mp hword
    exact ⟨size, hsize, congrArg Int64.toInt (Cell.integer.inj heq)⟩
  · rintro ⟨size, hsize, rfl⟩
    exact mem_integersOf.mpr (List.mem_map.mpr ⟨size, hsize, rfl⟩)

/-- The least and the greatest word, which are too far apart, are joined by two words in the
    middle. -/
theorem numericSpec_of_integers_wide :
    (((sizesOf [Int64.maxValue, 0, -1, Int64.minValue]).numericSpec "size").runOn
        Session.fresh).1 =
      .ok ⟨.integer Int64.minValue, .integer Int64.maxValue, .integer 1⟩ := by
  have hmem : ∀ i, i ∈ integersOf ([Int64.maxValue, 0, -1, Int64.minValue].map .integer) ↔
      i = 0x7fffffffffffffff ∨ i = 0 ∨ i = -1 ∨ i = -0x8000000000000000 := by
    intro i
    have hmax : Int64.maxValue.toInt = 0x7fffffffffffffff := by decide
    rw [mem_integersOf_map]
    simp [eq_comm, hmax]
  have htwo : (integersOf ([Int64.maxValue, 0, -1, Int64.minValue].map .integer)).Nontrivial :=
    ⟨0, (hmem 0).mpr (by simp), -1, (hmem (-1)).mpr (by simp), by decide⟩
  obtain ⟨_, _, hspec⟩ := numericSpec_of_integers
    (nextNumbers_sizesOf [Int64.maxValue, 0, -1, Int64.minValue]) (integers_map _)
  obtain ⟨low, high, step, hrun, hexact⟩ := hspec htwo fun i j h => by
    have hlower := (hmem i).mp h.lower
    have hupper := (hmem j).mp h.upper
    have hzero := h.beside 0 ((hmem 0).mpr (by simp))
    have hone := h.beside (-1) ((hmem (-1)).mpr (by simp))
    omega
  have hlow : low = Int64.minValue := by
    have hle := hexact.least.2 ((hmem (-0x8000000000000000)).mpr (by simp))
    have hge := Int64.le_toInt low
    exact Int64.toInt_inj.mp (Int.le_antisymm hle hge)
  have hhigh : high = Int64.maxValue := by
    have hge := hexact.greatest.2 ((hmem 0x7fffffffffffffff).mpr (by simp))
    have hle := Int64.toInt_le high
    exact Int64.toInt_inj.mp (Int.le_antisymm hle hge)
  have hstep : step = 1 := by
    have hle := hexact.step.2 (show (1 : Int) ∈ _ from
      ⟨by decide, 0, (hmem 0).mpr (by simp), -1, (hmem (-1)).mpr (by simp), by decide⟩)
    have hpositive := hexact.step.1.1
    exact Int64.toInt_inj.mp (Int.le_antisymm hle hpositive)
  rw [hrun, hlow, hhigh, hstep]

/-- Two of three sizes are one apart, so that a step of one is the least and fits, but the third one
    is too far from its neighbour, and the column is bad data. -/
theorem numericSpec_lostStep :
    (sizesOf [Int64.minValue, 0, 1]).NextNumbers "size" Session.fresh
      [.integer Int64.minValue, .integer 0, .integer 1] ∧
    Integers [.integer Int64.minValue, .integer 0, .integer 1] ∧
    IsLeast {d : Int | 0 < d ∧ ∃ i ∈ integersOf [.integer Int64.minValue, .integer 0, .integer 1],
      ∃ j ∈ integersOf [.integer Int64.minValue, .integer 0, .integer 1], |i - j| = d} 1 ∧
    (((sizesOf [Int64.minValue, 0, 1]).numericSpec "size").runOn Session.fresh).1 =
      .error (.badData "size") := by
  have hcells := nextNumbers_sizesOf [Int64.minValue, 0, 1]
  have hints := integers_map [Int64.minValue, 0, 1]
  refine ⟨hcells, hints, ⟨⟨by decide, 1, ⟨1, by simp, rfl⟩, 0, ⟨0, by simp, rfl⟩, by decide⟩, ?_⟩,
    ?_⟩
  · rintro d ⟨hpositive, _⟩
    exact hpositive
  · obtain ⟨values, hvalues⟩ := sortedDistinct_of_oneDomain hints.oneDomain
    have hdistinct := isDistinct_of_sortedDistinct hints.unmixed hvalues
    have hneighbours :
        Neighbours ([Int64.minValue, 0, 1].map .integer) (-0x8000000000000000) 0 := by
      refine ⟨mem_integersOf_map.mpr (by simp), mem_integersOf_map.mpr (by simp), by decide, ?_⟩
      intro k hk
      obtain ⟨size, hsize, rfl⟩ := mem_integersOf_map.mp hk
      simp only [List.mem_cons, List.not_mem_nil, or_false] at hsize
      rcases hsize with rfl | rfl | rfl <;> decide
    rw [runOn_numericSpec hcells, hvalues]
    exact numericSpec_of_far hints hdistinct hneighbours (by decide)

end Winnow.Source
