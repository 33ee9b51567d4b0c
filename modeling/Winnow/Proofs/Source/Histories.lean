import Winnow.Proofs.Source.Checked
import Winnow.Proofs.Source.Turns
import Winnow.Proofs.Table.Documents

/-!
# `Winnow.Proofs.Source.Histories` — sources of rows that may change

A source is made once and asked for its rows for a long time, while the files change. Its schema
stays as it was at the beginning. Here a source is followed over a history: a list of moments at
which its rows are asked for, each with the files as they have become by then. What it supplies at a
moment is what its supply gives there, whatever came before.

## Contents
- **`rowsOver`**, **`forall₂_rowsOver`**: the rows of a source over a history.
- **`read_documentFile_eq_ok_iff`**: what a document file gives at a moment.
- **`rows_conform`**: document files and fixed rows never supply rows that do not fit.
-/

namespace Winnow.Source

open Winnow.Action

/-! ## Rows over a history -/

/-- What a source supplies when it is asked for its rows at one moment after the other, with the
    files of each moment. -/
def rowsOver (source : Source) (session : Session) : List Files → List (Except Error (List Row))
  | [] => []
  | files :: later =>
    let run := source.rows.runOn { session with files }
    run.1 :: rowsOver source run.2 later

/-- What holds of every single pull holds at every moment of a history. -/
theorem forall₂_rowsOver {source : Source} {P : Files → Except Error (List Row) → Prop}
    (h : ∀ files pull, P files (source.batch files pull)) (history : List Files) :
    ∀ session, List.Forall₂ P history (source.rowsOver session history) := by
  induction history with
  | nil =>
    intro session
    exact .nil
  | cons files later ih =>
    intro session
    unfold rowsOver
    refine .cons ?_ (ih _)
    rw [runOn_rows]
    exact h files _

/-! ## Document files -/

theorem readDocument_eq_ok_iff {files : Files} {path : String} {table : TableDocument} :
    readDocument files path = .ok table ↔
      ∃ text, files.readText path = .ok text ∧ TableDocument.parse text = .ok table := by
  unfold readDocument
  split
  · rename_i text htext
    simp [htext]
  · rename_i fault hfault
    simp [hfault]

/-- The rows of a document file are those that its text has at the moment, if this is the text of a
    table with the same columns. -/
theorem read_documentFile_eq_ok_iff {path name : String} {schema : Schema} {files : Files}
    {pull : Nat} {rows : List Row} :
    (Supply.documentFile path name).read schema files pull = .ok rows ↔
      ∃ text table, files.readText path = .ok text ∧ TableDocument.parse text = .ok table ∧
        table.schema = schema ∧ table.rows = rows := by
  unfold Supply.read
  dsimp only
  rw [bind_eq_ok_iff]
  simp only [readDocument_eq_ok_iff]
  constructor
  · rintro ⟨table, ⟨text, htext, htable⟩, h⟩
    by_cases hschema : table.schema = schema
    · rw [if_pos hschema] at h
      exact ⟨text, table, htext, htable, hschema, Except.ok.inj h⟩
    · rw [if_neg hschema] at h
      cases h
  · rintro ⟨text, table, htext, htable, hschema, hrows⟩
    refine ⟨table, ⟨text, htext, htable⟩, ?_⟩
    rw [if_pos hschema, ← hrows]
    rfl

/-- Opening a document file takes the columns that its text has then. -/
theorem openDocument_eq_ok_iff {id : Nat} {files : Files} {path : String} {source : Source} :
    openDocument id files path = .ok source ↔
      ∃ table, readDocument files path = .ok table ∧
        source = ⟨id, table.schema, .documentFile path table.name⟩ :=
  bind_pure_eq_ok_iff

/-! ## Fixed rows -/

/-- Fixed rows are taken exactly if they fit. -/
theorem ofRows_eq_ok_iff {id : Nat} {schema : Schema} {rows : List Row} {source : Source} :
    ofRows id schema rows = .ok source ↔
      Conform schema rows ∧ source = ⟨id, schema, .memory rows⟩ := by
  constructor
  · intro h
    obtain ⟨hcheck, hsource⟩ := ofRows_eq_ok h
    exact ⟨checkRows_eq_ok_iff.mp hcheck, hsource⟩
  · rintro ⟨hconform, rfl⟩
    unfold ofRows
    rw [checkRows_eq_ok_iff.mpr hconform]
    rfl

/-! ## Rows that fit at every moment -/

/-- **No stale rows and none that do not fit.** Over every history of the files, a document file
    that was opened supplies at each moment exactly the rows that its text has at this moment, if
    this is the text of a table with the columns that were seen at opening, and it fails otherwise;
    what it supplies fits these columns. Fixed rows are taken exactly if they fit their columns, and
    then they are what is supplied at every moment. -/
theorem rows_conform :
    (∀ id before path source, openDocument id before path = .ok source →
      ∃ opened, readDocument before path = .ok opened ∧ source.schema = opened.schema ∧
        ∀ history session, List.Forall₂ (fun (files : Files) result =>
          (∀ rows, result = .ok rows ↔ ∃ text table, files.readText path = .ok text ∧
            TableDocument.parse text = .ok table ∧ table.schema = opened.schema ∧
            table.rows = rows) ∧
          ∀ rows, result = .ok rows → Conform source.schema rows)
          history (source.rowsOver session history)) ∧
    ∀ id schema rows,
      ((∃ source, ofRows id schema rows = .ok source) ↔ Conform schema rows) ∧
      ∀ source, ofRows id schema rows = .ok source →
        source.schema = schema ∧
        ∀ history session, List.Forall₂ (fun (_ : Files) result =>
          result = .ok rows ∧ Conform source.schema rows)
          history (source.rowsOver session history) := by
  constructor
  · intro id before path source hopen
    obtain ⟨opened, hopened, rfl⟩ := openDocument_eq_ok_iff.mp hopen
    refine ⟨opened, hopened, rfl, fun history => forall₂_rowsOver (fun files pull => ?_) history⟩
    refine ⟨fun rows => read_documentFile_eq_ok_iff, fun rows hrows => ?_⟩
    obtain ⟨text, table, _, htable, hschema, rfl⟩ := read_documentFile_eq_ok_iff.mp hrows
    have hfits := TableDocument.conform_of_parse htable
    rw [hschema] at hfits
    exact hfits
  · intro id schema rows
    constructor
    · constructor
      · rintro ⟨source, hsource⟩
        exact (ofRows_eq_ok_iff.mp hsource).1
      · intro hconform
        exact ⟨_, ofRows_eq_ok_iff.mpr ⟨hconform, rfl⟩⟩
    · intro source hsource
      obtain ⟨hconform, rfl⟩ := ofRows_eq_ok_iff.mp hsource
      refine ⟨rfl, fun history => forall₂_rowsOver (fun files pull => ?_) history⟩
      exact ⟨rfl, hconform⟩

/-- The text of a table with one column of sizes. -/
def sizesText (type rows : String) : String :=
  "\x7b\"name\":\"sizes\",\"table\":\x7b\"columns\":[\x7b\"name\":\"size\",\"type\":\"" ++ type ++
    "\"\x7d],\"rows\":" ++ rows ++ "\x7d\x7d"

/-- A directory with a file of this text. -/
def sizesFiles (type rows : String) : Files :=
  Files.scratch.write "sizes.json" (.text (sizesText type rows))

/-- The source of this file, opened when the sizes were numbers. -/
def sizesFile : Source := ⟨0, [⟨"size", .number⟩], .documentFile "sizes.json" "sizes"⟩

/-- The file is rewritten with other rows, then with a column of another type, then cut short, and
    in the end it is removed. -/
def sizesHistory : List Files :=
  [sizesFiles "number" "[[2],[null]]", sizesFiles "string" "[[\"2\"]]", sizesFiles "number" "",
    Files.scratch]

/-- Only at the first of these moments there are rows, and they fit. -/
theorem rows_conform_rewritten :
    openDocument 0 (sizesFiles "number" "[[1]]") "sizes.json" = .ok sizesFile ∧
    (sizesFile.rowsOver Session.fresh sizesHistory).map Except.toOption =
      [some [[.integer 2], [.null]], none, none, none] ∧
    List.Forall₂ (fun (_ : Files) result => ∀ rows, result = .ok rows → Conform sizesFile.schema rows)
      sizesHistory (sizesFile.rowsOver Session.fresh sizesHistory) ∧
    ∃ source, ofRows 1 sizesFile.schema [[.integer 2], [.null]] = .ok source ∧
      List.Forall₂ (fun (_ : Files) result => result = .ok [[.integer 2], [.null]])
        sizesHistory (source.rowsOver Session.fresh sizesHistory) := by
  have hread : readDocument (sizesFiles "number" "[[1]]") "sizes.json" =
      .ok ⟨"sizes", sizesFile.schema, [[.integer 1]]⟩ :=
    toOption_eq_some_iff.mp (by decide +kernel)
  have hopen : openDocument 0 (sizesFiles "number" "[[1]]") "sizes.json" = .ok sizesFile :=
    openDocument_eq_ok_iff.mpr ⟨_, hread, rfl⟩
  obtain ⟨opened, _, _, hover⟩ := rows_conform.1 _ _ _ _ hopen
  have hfits : Conform sizesFile.schema [[.integer 2], [.null]] :=
    checkRows_eq_ok_iff.mp rfl
  obtain ⟨hmade, hfixed⟩ := rows_conform.2 1 sizesFile.schema [[.integer 2], [.null]]
  obtain ⟨source, hsource⟩ := hmade.mpr hfits
  refine ⟨hopen, by decide +kernel, ?_, source, hsource, ?_⟩
  · exact (hover sizesHistory Session.fresh).imp fun _ _ h => h.2
  · exact ((hfixed source hsource).2 sizesHistory Session.fresh).imp fun _ _ h => h.1

end Winnow.Source
