import Winnow.Proofs.Columnar.Transposed
import Winnow.Proofs.Source.Histories

/-!
# `Winnow.Proofs.Source.Replaced` — columnar files that are replaced

A columnar file is served under the columns that it had when it was opened, but its rows are those
of the columns that it has when they are asked for. The two are not compared. So the rows fit the
schema of the source as long as the types of the columns are the same; once the file is replaced by
another one, they need not.

## Contents
- **`openColumns_eq_ok_iff`**, **`read_columnFile_eq_ok_iff`**: opening and reading a columnar file.
- **`columnFile_rows`**: what a columnar file supplies over a history, and when it fits.
- **`columnFile_rows_retyped`**, **`columnFile_rows_unchecked`**: a file with another type in the
  place of a column.
-/

namespace Winnow.Source

open Winnow.Action Winnow.Columnar

/-- Opening a columnar file takes the columns that it has then. -/
theorem openColumns_eq_ok_iff {id : Nat} {files : Files} {path : String} {source : Source} :
    openColumns id files path = .ok source ↔
      ∃ file, readColumns files path = .ok file ∧ source = ⟨id, file.schema, .columnFile path⟩ :=
  bind_pure_eq_ok_iff

/-- The rows of a columnar file are those of the columns that it has at the moment, whatever the
    schema is. -/
theorem read_columnFile_eq_ok_iff {path : String} {schema : Schema} {files : Files} {pull : Nat}
    {rows : List Row} :
    (Supply.columnFile path).read schema files pull = .ok rows ↔
      ∃ file, readColumns files path = .ok file ∧ file.rows = .ok rows := by
  unfold Supply.read
  dsimp only
  split
  · rename_i file hfile
    simp [hfile]
  · rename_i hfault
    simp [hfault]
  · rename_i e _ hfault
    simp [hfault]

/-- **What a columnar file supplies.** Over every history of the files, a columnar file that was
    opened supplies at each moment the rows of the columns that it has at this moment, and it fails
    if there are none. The rows fit these columns. They fit the columns that were seen at opening,
    which the source still shows, if the types are the same as then; and exactly if there is no row,
    or there are as many columns as then and every cell is of the type that was seen in its place. -/
theorem columnFile_rows {id : Nat} {before : Files} {path : String} {source : Source}
    (hopen : openColumns id before path = .ok source) :
    ∃ opened, readColumns before path = .ok opened ∧ source.schema = opened.schema ∧
      ∀ history session, List.Forall₂ (fun (files : Files) result =>
        (∀ rows, result = .ok rows ↔
          ∃ now, readColumns files path = .ok now ∧ now.rows = .ok rows) ∧
        ∀ now rows, readColumns files path = .ok now → now.Even → result = .ok rows →
          Conform now.schema rows ∧
          (now.schema.types = opened.schema.types → Conform source.schema rows) ∧
          (Conform source.schema rows ↔ rows = [] ∨ now.FitsInto source.schema))
        history (source.rowsOver session history) := by
  obtain ⟨opened, hopened, rfl⟩ := openColumns_eq_ok_iff.mp hopen
  refine ⟨opened, hopened, rfl, fun history => forall₂_rowsOver (fun files pull => ?_) history⟩
  refine ⟨fun rows => read_columnFile_eq_ok_iff, fun now rows hnow heven hrows => ?_⟩
  obtain ⟨file, hfile, hgiven⟩ := read_columnFile_eq_ok_iff.mp hrows
  rw [hnow] at hfile
  obtain rfl : now = file := Except.ok.inj hfile
  have hiff : ∀ schema : Schema, Conform schema rows ↔ rows = [] ∨ now.FitsInto schema :=
    fun schema => ColumnFile.conform_iff heven hgiven
  refine ⟨?_, fun htypes => ?_, hiff opened.schema⟩
  · exact (hiff now.schema).mpr (Or.inr (ColumnFile.fitsInto_of_types rfl))
  · exact (hiff opened.schema).mpr (Or.inr (ColumnFile.fitsInto_of_types htypes))

/-! ## A file that is replaced -/

/-- A directory with a columnar file of one column. -/
def columnFiles (data : Data) : Files :=
  Files.scratch.write "t.parquet" (.columnar ⟨[("x", data)]⟩)

/-- The source of this file, opened when the column held integers. -/
def integersFile : Source := ⟨0, [⟨"x", .number⟩], .columnFile "t.parquet"⟩

/-- The file gets other integers, then texts, and in the end it is removed. -/
def integersHistory : List Files :=
  [columnFiles (.integers [some 5, none]), columnFiles (.texts [some "q"]), Files.scratch]

theorem openColumns_integersFile :
    openColumns 0 (columnFiles (.integers [some 1])) "t.parquet" = .ok integersFile :=
  openColumns_eq_ok_iff.mpr ⟨⟨[("x", .integers [some 1])]⟩, rfl, rfl⟩

theorem rowsOver_integersFile : integersFile.rowsOver Session.fresh integersHistory =
    [.ok [[.integer 5], [.null]], .ok [[.string "q"]], .error (.io .notFound)] := rfl

theorem not_conform_texts : ¬ Conform integersFile.schema [[.string "q"]] := by
  rw [← checkRows_eq_ok_iff]
  intro h
  cases h

/-- Other integers fit the schema of the source, and texts are supplied under it all the same. -/
theorem columnFile_rows_retyped :
    openColumns 0 (columnFiles (.integers [some 1])) "t.parquet" = .ok integersFile ∧
    integersFile.rowsOver Session.fresh integersHistory =
      [.ok [[.integer 5], [.null]], .ok [[.string "q"]], .error (.io .notFound)] ∧
    Conform integersFile.schema [[.integer 5], [.null]] ∧
    ¬ Conform integersFile.schema [[.string "q"]] := by
  refine ⟨openColumns_integersFile, rowsOver_integersFile, ?_, not_conform_texts⟩
  obtain ⟨opened, hopened, _, hover⟩ := columnFile_rows openColumns_integersFile
  obtain rfl : ⟨[("x", .integers [some 1])]⟩ = opened := Except.ok.inj hopened
  have hmoments := hover integersHistory Session.fresh
  rw [rowsOver_integersFile] at hmoments
  cases hmoments with
  | cons hfirst _ =>
    have heven : ColumnFile.Even ⟨[("x", .integers [some 5, none])]⟩ := by
      intro column hcolumn
      obtain rfl := List.mem_singleton.mp hcolumn
      exact .column rfl fun fields h => by cases h
    exact (hfirst.2 _ _ rfl heven rfl).2.1 rfl

/-- So it is not the case that what a columnar file supplies always fits the schema of its source. -/
theorem columnFile_rows_unchecked :
    ¬ ∀ id before path source, openColumns id before path = .ok source →
      ∀ history session, ∀ rows, .ok rows ∈ source.rowsOver session history →
        Conform source.schema rows := by
  intro h
  have htexts : (.ok [[.string "q"]] : Except Error (List Row)) ∈
      integersFile.rowsOver Session.fresh integersHistory := by
    rw [rowsOver_integersFile]
    exact List.mem_cons_of_mem _ List.mem_cons_self
  exact not_conform_texts
    (h _ _ _ _ openColumns_integersFile integersHistory Session.fresh _ htexts)

end Winnow.Source
