import Winnow.Proofs.Columnar.Entries
import Winnow.Proofs.Floating.Widened
import Winnow.Proofs.Source.Replaced

/-!
# `Winnow.Proofs.Source.Unchanged` — columnar files that stay as they are

While the file of a columnar source is the one that was opened, its rows are the entries of the
columns, one row for each position, and they pass the check that rows in memory must pass. It only
takes a way to show every element: a time zone that is not understood makes the rows of the file
fail, unless there is none.

## Contents
- **`columnFile_entries`**: what a columnar file supplies, entry by entry.
- **`columnFile_entries_boundary`**: a file that is read in two batches.
-/

namespace Winnow.Source

open Winnow.Action Winnow.Columnar Winnow.Floating

/-- **What an unchanged columnar file supplies.** Of a file whose columns are equally long, the rows
    are there if all its elements can be shown, and they are as many as the file has. Each row has
    one cell for each column, in the order of the columns, which is the cell of the entry at the
    position of the row; all rows pass the check against the schema of the source. A cell is null
    exactly where the entry is, except in columns of nothing but the null value, which have empty
    texts. An integer of 64 bits becomes the equal integer and a greater one the nearest double, and
    no cell of a column of integers is above that of an entry that is at least as great. Doubles,
    booleans and texts are served as they are. A number of single width is rounded to that width,
    which does not change the numbers that have it. -/
theorem columnFile_entries {id : Nat} {before : Files} {path : String} {source : Source}
    {file : ColumnFile} {session : Session} (hopen : openColumns id before path = .ok source)
    (hfile : readColumns before path = .ok file) (heven : file.Even)
    (hsame : readColumns session.files path = readColumns before path) :
    source.schema = file.schema ∧
    ((∃ rows, (source.rows.runOn session).1 = .ok rows) ↔
      file.rowCount = 0 ∨ ∀ column ∈ file.columns, column.2.zonesKnown = true) ∧
    (∀ rows, (source.rows.runOn session).1 = .ok rows →
      rows.length = file.rowCount ∧
      (∀ i < file.rowCount, ∃ row, rows[i]? = some row ∧ row.length = file.columns.length ∧
        ∀ (j : Nat) (column : String × Data), file.columns[j]? = some column →
          row[j]? = some (column.2.cellAt i)) ∧
      checkRows source.schema rows = .ok ()) ∧
    (∀ column ∈ file.columns, ∀ i < file.rowCount,
      ((∀ count, column.2 ≠ .nulls count) →
        (column.2.cellAt i = .null ↔ column.2.isNullAt i = true)) ∧
      ∀ count, column.2 = .nulls count → column.2.cellAt i = .string "") ∧
    (∀ column ∈ file.columns, ∀ entries, column.2 = .integers entries →
      ∀ i m, entries[i]? = some (some m) →
        (-0x8000000000000000 ≤ m ∧ m < 0x8000000000000000 →
          ∃ word : Int64, column.2.cellAt i = .integer word ∧ word.toInt = m) ∧
        (0x8000000000000000 ≤ m → column.2.cellAt i = .float (Double.ofInt m)) ∧
        ∀ k n, entries[k]? = some (some n) → m ≤ n →
          (column.2.cellAt i).compare? (column.2.cellAt k) ≠ some .gt) ∧
    ∀ column ∈ file.columns, ∀ i,
      (∀ entries x, column.2 = .floats .double entries → entries[i]? = some (some x) →
        column.2.cellAt i = .float x) ∧
      (∀ entries x, column.2 = .floats .single entries → entries[i]? = some (some x) →
        column.2.cellAt i = .float (x.within .binary32) ∧
        (x.IsOf .binary32 → column.2.cellAt i = .float x)) ∧
      (∀ entries b, column.2 = .booleans entries → entries[i]? = some (some b) →
        column.2.cellAt i = .boolean b) ∧
      ∀ entries text, column.2 = .texts entries → entries[i]? = some (some text) →
        column.2.cellAt i = .string text := by
  obtain ⟨opened, hopened, rfl⟩ := openColumns_eq_ok_iff.mp hopen
  rw [hfile] at hopened
  obtain rfl : file = opened := Except.ok.inj hopened
  rw [hfile] at hsame
  have hread : ∀ rows,
      ((Source.mk id file.schema (.columnFile path)).rows.runOn session).1 = .ok rows ↔
        file.rows = .ok rows := by
    intro rows
    rw [runOn_rows]
    dsimp only
    rw [read_columnFile_eq_ok_iff, hsame]
    simp
  refine ⟨rfl, ?_, fun rows hrows => ?_, fun column _ i _ => ⟨fun hnulls => ?_, ?_⟩, ?_,
    fun column _ i => ⟨?_, ?_, ?_, ?_⟩⟩
  · rw [← ColumnFile.exists_rows_iff]
    exact exists_congr hread
  · have hgiven := (hread rows).mp hrows
    have hconform : Conform file.schema rows :=
      (ColumnFile.conform_iff heven hgiven).mpr (Or.inr (ColumnFile.fitsInto_of_types rfl))
    obtain rfl := ColumnFile.rows_eq_map heven hgiven
    refine ⟨?_, fun i hi => ⟨file.rowOf i, ?_, ?_, fun j column hcolumn => ?_⟩,
      checkRows_eq_ok_iff.mpr hconform⟩
    · rw [List.length_map, List.length_range]
    · rw [List.getElem?_map, List.getElem?_range hi]
      rfl
    · exact List.length_map _
    · rw [ColumnFile.rowOf, List.getElem?_map, hcolumn]
      rfl
  · exact Data.cellAt_eq_null_iff hnulls i
  · intro count hnulls
    rw [hnulls]
    rfl
  · rintro ⟨name, data⟩ _ entries rfl i m hm
    dsimp only
    rw [Data.cellAt, cell_of_entry _ hm]
    refine ⟨Data.integerCell_of_fits, Data.integerCell_of_le, fun k n hn hle => ?_⟩
    rw [Data.cellAt, cell_of_entry _ hn]
    exact Data.compare?_integerCell hle
  · intro entries x hdata hx
    rw [hdata, Data.cellAt, cell_of_entry _ hx]
    rfl
  · intro entries x hdata hx
    rw [hdata, Data.cellAt, cell_of_entry _ hx, Data.floatCell]
    refine ⟨rfl, fun hsingle => ?_⟩
    rw [Double.within_of_isOf Format.binary32_within hsingle]
  · intro entries b hdata hb
    rw [hdata, Data.cellAt, cell_of_entry _ hb]
  · intro entries text hdata htext
    rw [hdata, Data.cellAt, cell_of_entry _ htext]

/-! ## A file of two batches -/

/-- Sizes that fill a batch, and behind them one that is too great for 64 bits and one that is
    missing; beside them a column without values. -/
def longFile : ColumnFile :=
  ⟨[("size", .integers (List.replicate 8192 (some 7) ++ [some 9223372036854775808, none])),
    ("note", .nulls 8194)]⟩

/-- A directory with this file. -/
def longFiles : Files := Files.scratch.write "t.parquet" (.columnar longFile)

/-- The second batch follows the first one without a gap. -/
theorem columnFile_entries_boundary :
    openColumns 0 longFiles "t.parquet" = .ok ⟨0, longFile.schema, .columnFile "t.parquet"⟩ ∧
    ∃ rows, ((Source.mk 0 longFile.schema (.columnFile "t.parquet")).rows.runOn
        { files := longFiles }).1 = .ok rows ∧
      rows.length = 8194 ∧ rows[8191]? = some [.integer 7, .string ""] ∧
      rows[8192]? = some [.float (Double.ofInt 9223372036854775808), .string ""] ∧
      rows[8193]? = some [.null, .string ""] := by
  have hread : readColumns longFiles "t.parquet" = .ok longFile := rfl
  have hopen : openColumns 0 longFiles "t.parquet" =
      .ok ⟨0, longFile.schema, .columnFile "t.parquet"⟩ :=
    openColumns_eq_ok_iff.mpr ⟨longFile, hread, rfl⟩
  have hcount : longFile.rowCount = 8194 := by
    show (List.replicate 8192 (some (7 : Int)) ++ _).length = 8194
    rw [List.length_append, List.length_replicate]
    rfl
  have heven : longFile.Even := by
    unfold ColumnFile.Even
    rw [hcount]
    refine List.forall_mem_cons.mpr ⟨.column hcount nofun, ?_⟩
    refine List.forall_mem_cons.mpr ⟨.column rfl nofun, ?_⟩
    exact fun column h => absurd h List.not_mem_nil
  have hsame : readColumns ({ files := longFiles } : Session).files "t.parquet" =
      readColumns longFiles "t.parquet" := rfl
  obtain ⟨-, hiff, hrows, -⟩ := columnFile_entries hopen hread heven hsame
  have hknown : ∀ column ∈ longFile.columns, column.2.zonesKnown = true := by
    refine List.forall_mem_cons.mpr ⟨rfl, List.forall_mem_cons.mpr ⟨rfl, ?_⟩⟩
    exact fun column h => absurd h List.not_mem_nil
  obtain ⟨rows, hgiven⟩ := hiff.mpr (Or.inr hknown)
  obtain ⟨hlength, hcells, -⟩ := hrows rows hgiven
  rw [hcount] at hlength hcells
  have hrow : ∀ i < 8194, rows[i]? = some
      [(Data.integers (List.replicate 8192 (some 7) ++ [some 9223372036854775808, none])).cellAt i,
        .string ""] := by
    intro i hi
    obtain ⟨row, hrow, hwidth, hcell⟩ := hcells i hi
    have hsize := hcell 0 _ rfl
    have hnote := hcell 1 _ rfl
    match row, hwidth with
    | [size, note], _ =>
      rw [hrow, ← Option.some.inj hsize, Option.some.inj hnote]
      rfl
  have hfull : (List.replicate 8192 (some (7 : Int))).length = 8192 := List.length_replicate
  refine ⟨hopen, rows, hgiven, hlength, ?_, ?_, ?_⟩
  · rw [hrow 8191 (by decide), Data.cellAt, entryAt,
      List.getElem?_append_left (by rw [hfull]; decide), List.getElem?_replicate]
    rfl
  · rw [hrow 8192 (by decide), Data.cellAt, entryAt,
      List.getElem?_append_right (Nat.le_of_eq hfull), hfull]
    rfl
  · rw [hrow 8193 (by decide), Data.cellAt, entryAt,
      List.getElem?_append_right (by rw [hfull]; decide), hfull]
    rfl

end Winnow.Source
