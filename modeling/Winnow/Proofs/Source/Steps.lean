import Winnow.Proofs.Registry.Union
import Winnow.Proofs.Summary.Steps

/-!
# `Winnow.Proofs.Source.Steps` — numeric specs of a source

A source answers a request for the range and step of a column from the cells that its next pull
supplies. Where these are integers the answer is exact, and only depends on which integers they are;
where they are unmixed numbers the step is that of neighbouring distinct values.

## Contents
- **`NextNumbers`**: the cells of a column of numbers at the next pull.
- **`valuesAt_eq_ok_iff`**, **`numericSpec_eq_ok`**: answers told from these cells.
- **`numericSpec_steps`**; **`numericSpec_steps_sizes`**: the same sizes in another order.
-/

namespace Winnow.Source

open Winnow.Summary Registry

variable {source : Source} {session : Session} {column : String} {cells : List Cell}

/-- The cells that the next pull of a source supplies in a column of numbers. -/
def NextNumbers (source : Source) (column : String) (session : Session) (cells : List Cell) :
    Prop :=
  source.schema.typeOf? column = some .number ∧
    Supplies column session.files (source, session.pulls.count source.id) cells

/-- A pull supplies one list of cells. -/
theorem NextNumbers.unique {others : List Cell} (h : source.NextNumbers column session cells)
    (h' : source.NextNumbers column session others) : cells = others := by
  obtain ⟨_, rows, hrows, hcells⟩ := h
  obtain ⟨_, rows', hrows', hothers⟩ := h'
  obtain rfl := Except.ok.inj (hrows.symm.trans hrows')
  refine List.right_unique_forall₂' (fun row a b ha hb => ?_) hcells hothers
  exact Option.some.inj (ha.symm.trans hb)

/-- The distinct values at a pull are those of the cells that it supplies. -/
theorem valuesAt_eq_ok_iff {files : Files} {pull : Nat} {values : List Cell}
    (hhas : (source.schema.typeOf? column).isSome = true) :
    source.valuesAt column files pull = .ok values ↔
      ∃ cells, Supplies column files (source, pull) cells ∧ sortedDistinct cells = .ok values := by
  constructor
  · intro h
    unfold valuesAt at h
    cases hfind : source.schema.find? column with
    | none =>
      rw [hfind] at h
      cases h
    | some found =>
      rw [hfind] at h
      obtain ⟨rows, hrows, hvalues⟩ := bind_eq_ok_iff.mp h
      obtain ⟨cells, hcells, hsorted⟩ := distinctValues_eq_ok_iff.mp hvalues
      refine ⟨cells, ⟨rows, hrows, ?_⟩, hsorted⟩
      simpa only [Schema.cell?_eq hfind] using hcells
  · rintro ⟨cells, hsupplies, hsorted⟩
    rw [valuesAt_of_supplies hhas hsupplies, hsorted]

/-- What a request for a numeric spec comes to, once the cells are known. -/
theorem runOn_numericSpec (h : source.NextNumbers column session cells) :
    ((source.numericSpec column).runOn session).1 =
      (sortedDistinct cells).mapError (asBadData column) >>= Summary.numericSpec column := by
  obtain ⟨htype, hsupplies⟩ := h
  have hhas : (source.schema.typeOf? column).isSome = true := by rw [htype]; rfl
  rw [(ends_numericSpec htype).result, specAt, valuesAt_of_supplies hhas hsupplies]

/-- A request that succeeds has cells, their distinct values, and the spec of these. -/
theorem numericSpec_eq_ok {spec : NumericSpec}
    (h : ((source.numericSpec column).runOn session).1 = .ok spec) :
    ∃ cells values, source.NextNumbers column session cells ∧
      ((source.allValues column).runOn session).1 = .ok values ∧
      sortedDistinct cells = .ok values ∧ Summary.numericSpec column values = .ok spec := by
  -- a column of another type, or none at all, is refused before any row is read
  have htype : source.schema.typeOf? column = some .number := by
    rw [numericSpec_eq] at h
    cases htype : source.schema.typeOf? column with
    | none =>
      rw [htype] at h
      cases h
    | some type =>
      rw [htype] at h
      cases type with
      | number => rfl
      | string | boolean | date | datetime | timeOfDay => cases h
  have hhas : (source.schema.typeOf? column).isSome = true := by rw [htype]; rfl
  rw [(ends_numericSpec htype).result, specAt] at h
  obtain ⟨values, hvalues, hspec⟩ := bind_eq_ok_iff.mp h
  cases hpull : source.valuesAt column session.files (session.pulls.count source.id) with
  | error e =>
    rw [hpull] at hvalues
    cases hvalues
  | ok found =>
    rw [hpull] at hvalues
    obtain rfl := Except.ok.inj hvalues
    obtain ⟨cells, hsupplies, hsorted⟩ := (valuesAt_eq_ok_iff hhas).mp hpull
    exact ⟨cells, found, ⟨htype, hsupplies⟩, (ends_allValues hhas).result.trans hpull, hsorted,
      hspec⟩

/-- **A numeric spec is right when given.** Where all cells are integers, its ends are the least and
    the greatest of them and its step the least distance of two that differ, all of them exact.
    Where the cells are unmixed, its step is that of neighbouring distinct values. Two requests on
    the same integers have the same result, in whichever order and number the rows bring them. -/
theorem numericSpec_steps (source : Source) (column : String) (session : Session) :
    (∀ spec, ((source.numericSpec column).runOn session).1 = .ok spec →
      ∃ cells values, source.NextNumbers column session cells ∧
        ((source.allValues column).runOn session).1 = .ok values ∧
        (Integers cells → ∃ low high step : Int64,
          spec = ⟨.integer low, .integer high, .integer step⟩ ∧
            Exact cells low.toInt high.toInt step.toInt) ∧
        (Unmixed cells → IsStep values spec.increment)) ∧
    ∀ cells, source.NextNumbers column session cells → Integers cells →
      ∀ (other : Source) (elsewhere : Session) (others : List Cell),
        other.NextNumbers column elsewhere others → (∀ cell, cell ∈ others ↔ cell ∈ cells) →
        ((other.numericSpec column).runOn elsewhere).1 =
          ((source.numericSpec column).runOn session).1 := by
  constructor
  · intro spec h
    obtain ⟨cells, values, hcells, hvalues, hsorted, hspec⟩ := numericSpec_eq_ok h
    refine ⟨cells, values, hcells, hvalues, fun hints => ?_, fun hmix => ?_⟩
    · exact exact_of_numericSpec hints (isDistinct_of_sortedDistinct hints.unmixed hsorted) hspec
    · exact isStep_of_numericSpec (isDistinct_of_sortedDistinct hmix hsorted) hspec
  · intro cells hcells hints other elsewhere others hothers hmem
    rw [runOn_numericSpec hcells, runOn_numericSpec hothers,
      sortedDistinct_eq_of_mem_iff hints hmem]

/-- A source of sizes, which come in ascending order. -/
def sizesInOrder : Source :=
  ⟨0, [⟨"size", .number⟩], .memory [[.integer 1], [.integer 4], [.integer 4], [.integer 6]]⟩

/-- The same sizes in another order, and with another one of them twice. -/
def sizesOutOfOrder : Source :=
  ⟨0, [⟨"size", .number⟩], .memory [[.integer 6], [.integer 1], [.integer 6], [.integer 4]]⟩

theorem numericSpec_steps_sizes :
    ((sizesOutOfOrder.numericSpec "size").runOn Session.fresh).1 =
        .ok ⟨.integer 1, .integer 6, .integer 2⟩ ∧
      Exact [.integer 1, .integer 4, .integer 4, .integer 6] 1 6 2 := by
  have hcells : sizesInOrder.NextNumbers "size" Session.fresh
      [.integer 1, .integer 4, .integer 4, .integer 6] :=
    ⟨rfl, _, rfl, .cons rfl (.cons rfl (.cons rfl (.cons rfl .nil)))⟩
  have hothers : sizesOutOfOrder.NextNumbers "size" Session.fresh
      [.integer 6, .integer 1, .integer 6, .integer 4] :=
    ⟨rfl, _, rfl, .cons rfl (.cons rfl (.cons rfl (.cons rfl .nil)))⟩
  have hints : Integers [.integer 1, .integer 4, .integer 4, .integer 6] := by simp [Integers]
  have hrun : ((sizesInOrder.numericSpec "size").runOn Session.fresh).1 =
      .ok ⟨.integer 1, .integer 6, .integer 2⟩ := by
    rw [runOn_numericSpec hcells,
      sortedDistinct_of_sorted (by unfold OneDomain; decide) (by decide +kernel)]
    rfl
  obtain ⟨hright, hsame⟩ := numericSpec_steps sizesInOrder "size" Session.fresh
  constructor
  · have hmem : ∀ cell, cell ∈ [Cell.integer 6, .integer 1, .integer 6, .integer 4] ↔
        cell ∈ [Cell.integer 1, .integer 4, .integer 4, .integer 6] := by
      grind
    rw [hsame _ hcells hints sizesOutOfOrder Session.fresh _ hothers hmem, hrun]
  · obtain ⟨cells, _, hnext, _, hexact, _⟩ := hright _ hrun
    obtain rfl := hcells.unique hnext
    obtain ⟨low, high, step, hspec, hexact⟩ := hexact hints
    obtain ⟨hlow, hhigh, hstep⟩ := NumericSpec.mk.inj hspec
    obtain rfl := Cell.integer.inj hlow
    obtain rfl := Cell.integer.inj hhigh
    obtain rfl := Cell.integer.inj hstep
    exact hexact

end Winnow.Source
