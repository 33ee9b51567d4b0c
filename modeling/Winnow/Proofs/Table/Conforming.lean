import Mathlib.Data.List.Forall2
import Winnow.Table.Document

/-!
# `Winnow.Proofs.Table.Conforming` — rows that fit a schema

A row fits a schema when it has one cell for each column and every cell is of the type of its
column. The check that tables go through when they are made passes rows exactly if all of them fit.

## Contents
- **`Fits`**, **`Conform`**: rows that fit, one by one and all of them.
- **`checkCells_eq_ok_iff`**, **`checkRows_eq_ok_iff`**: what the check passes.
-/

namespace Winnow

/-- A row fits a schema: it has one cell for each column, and the column's type accepts it. -/
def Fits (schema : Schema) (row : Row) : Prop :=
  List.Forall₂ (fun (column : Column) cell => column.type.accepts cell = true) schema row

/-- Every row fits a schema. -/
def Conform (schema : Schema) (rows : List Row) : Prop := ∀ row ∈ rows, Fits schema row

theorem Fits.length_eq {schema : Schema} {row : Row} (h : Fits schema row) :
    row.length = schema.length :=
  (List.Forall₂.length_eq h).symm

/-! ## The check -/

/-- Of a row of the full width, the cells are checked side by side with the columns. -/
theorem checkCells_eq_ok_iff {position : Nat} {schema : Schema} :
    ∀ {row : Row}, row.length = schema.length →
      (checkCells position schema row = .ok () ↔ Fits schema row) := by
  induction schema with
  | nil =>
    intro row hlength
    have hempty : row = [] := List.eq_nil_of_length_eq_zero hlength
    rw [hempty]
    exact iff_of_true rfl .nil
  | cons column columns ih =>
    intro row hlength
    cases row with
    | nil => simp at hlength
    | cons cell cells =>
      have hrest : cells.length = columns.length := by simpa using hlength
      have hcons : Fits (column :: columns) (cell :: cells) ↔
          column.type.accepts cell = true ∧ Fits columns cells := List.forall₂_cons
      rw [hcons, ← ih hrest, checkCells]
      by_cases haccepts : column.type.accepts cell = true
      · simp [haccepts]
      · simp [haccepts]

theorem checkRowsFrom_eq_ok_iff {schema : Schema} {rows : List Row} :
    ∀ {position : Nat}, checkRowsFrom schema position rows = .ok () ↔ Conform schema rows := by
  induction rows with
  | nil =>
    intro position
    exact iff_of_true rfl fun row hrow => absurd hrow List.not_mem_nil
  | cons row rest ih =>
    intro position
    have hcons : Conform schema (row :: rest) ↔ Fits schema row ∧ Conform schema rest :=
      List.forall_mem_cons
    rw [hcons, checkRowsFrom]
    by_cases hlength : row.length = schema.length
    · have hcheck : checkCells position schema row = .ok () ↔ Fits schema row :=
        checkCells_eq_ok_iff hlength
      rw [if_pos hlength, ← hcheck]
      cases hcells : checkCells position schema row with
      | error e => simp
      | ok _ => simp [ih]
    · -- a row of another length fits nothing
      rw [if_neg hlength]
      have hnot : ¬ Fits schema row := fun hfits => hlength hfits.length_eq
      simp [hnot]

/-- **The check passes exactly the rows that fit.** -/
theorem checkRows_eq_ok_iff {schema : Schema} {rows : List Row} :
    checkRows schema rows = .ok () ↔ Conform schema rows :=
  checkRowsFrom_eq_ok_iff

end Winnow
