import Winnow.Proofs.Source.Steady
import Winnow.Proofs.Spec.Grammar
import Winnow.Proofs.Table.ReadBack

/-!
# `Winnow.Proofs.Table.Listed` — cells of documents and values of specifications

Cells are read from the document of a table by types that are tried one after the other, and the
values of a list from their form. Both ways take the same trees and give the same cells, so that a
list selects the rows in which one of its values is written.

## Contents
- **`Decode.list_eq_ok_iff`**: lists that are read; **`Decode.cell_eq_error_iff`**: what is no cell.
- **`TableDocument.WrittenAt`**, **`cell_of_writtenAt`**: what a document has in a row and a column.
- **`sameAs_self_of_isListed`**: strings and numbers are the same as themselves.
- **`TableDocument.index_listed`**: both ways of reading, and the list that selects a row;
  **`index_listed_sizes`**: a number beyond the signed word.
-/

namespace Winnow

open Spec Winnow.Filter

/-! ## Reading lists and cells -/

namespace Decode

theorem items_eq_ok_iff {α : Type} {read : Json → Read α} {trees : List Json} :
    ∀ {found xs : List α}, items read found trees = .ok xs ↔
      ∃ rest, xs = found.reverse ++ rest ∧
        List.Forall₂ (fun tree x => read tree = .ok x) trees rest := by
  induction trees with
  | nil =>
    intro found xs
    simp [items, eq_comm]
  | cons tree trees ih =>
    intro found xs
    rw [items]
    cases hread : read tree with
    | error e => simp [List.forall₂_cons_left_iff, hread]
    | ok x => simp [ih, List.forall₂_cons_left_iff, hread]

/-- A list is read item by item. -/
theorem list_eq_ok_iff {α : Type} {read : Json → Read α} {tree : Json} {xs : List α} :
    list read tree = .ok xs ↔
      ∃ trees, tree = .array trees ∧ List.Forall₂ (fun tree x => read tree = .ok x) trees xs := by
  cases tree with
  | array trees => simp [list, items_eq_ok_iff]
  | null | bool _ | number _ | string _ | object _ => simp [list]

/-- What has no cell is not read as one. -/
theorem cell_eq_error_iff {tree : Json} :
    (∃ e, cell tree = .error e) ↔ Cell.ofJson? tree = none := by
  cases hread : cell tree with
  | ok c => simp [cell_eq_ok_iff.mp hread]
  | error e =>
    refine iff_of_true ⟨e, rfl⟩ (Option.eq_none_iff_forall_ne_some.mpr fun c hc => ?_)
    rw [cell_eq_ok_iff.mpr hc] at hread
    cases hread

end Decode

/-! ## What is written in a document -/

namespace TableDocument

/-- A tree stands in a row and a column of a document. -/
inductive WrittenAt : Json → Nat → Nat → Json → Prop where
  | cell {outer inner : List (String × Json)} {rows cells : List Json} {row column : Nat}
      {written : Json}
      (tableField : Json.lookup? "table" outer = some (.object inner))
      (rowsField : Json.lookup? "rows" inner = some (.array rows))
      (row_at : rows[row]? = some (.array cells)) (cell_at : cells[column]? = some written) :
      WrittenAt (.object outer) row column written

/-- The cell that a table has where a tree is written is the cell of the tree. -/
theorem cell_of_writtenAt {tree written : Json} {table : TableDocument} {i column : Nat}
    (h : Documents tree table) (hwritten : WrittenAt tree i column written) :
    ∃ row cell, table.rows[i]? = some row ∧ row[column]? = some cell ∧
      Cell.ofJson? written = some cell := by
  cases hwritten with
  | cell tableField rowsField row_at cell_at =>
    cases h with
    | document _ tableField' _ rowsField' _ rows_read _ =>
      cases tableField'.symm.trans tableField
      cases rowsField'.symm.trans rowsField
      obtain ⟨_, htrees, hrows⟩ := Decode.list_eq_ok_iff.mp rows_read
      cases htrees
      obtain ⟨row, hrow, row_read⟩ := exists_right_of_forall₂ hrows row_at
      obtain ⟨_, htrees, hcells⟩ := Decode.list_eq_ok_iff.mp row_read
      cases htrees
      obtain ⟨cell, hcell, cell_read⟩ := exists_right_of_forall₂ hcells cell_at
      exact ⟨row, cell, hrow, hcell, Decode.cell_eq_ok_iff.mp cell_read⟩

/-- Rows that fit have a cell in each column. -/
theorem exists_cell_of_conform {schema : Schema} {rows : List Row} (h : Conform schema rows)
    {name : String} {position : Nat} {column : Column}
    (hfind : schema.find? name = some (position, column)) :
    ∀ row ∈ rows, ∃ cell, row[position]? = some cell := by
  intro row hrow
  have hcolumn := (Schema.find?_eq_some_iff.mp hfind).1
  obtain ⟨cell, hcell, _⟩ := exists_right_of_forall₂ (h row hrow) hcolumn
  exact ⟨cell, hcell⟩

/-- Strings and numbers are the same as themselves: no number that is written is a NaN. -/
theorem sameAs_self_of_isListed {tree : Json} {cell : Cell} (h : IsListed tree)
    (hcell : Cell.ofJson? tree = some cell) : cell.sameAs cell = true := by
  rw [Cell.sameAs_self_iff]
  cases h with
  | string value =>
    obtain rfl := Option.some.inj hcell
    rfl
  | number number =>
    cases numberForm_iff.mpr (Option.some.inj hcell).symm with
    | integer i _ => rfl
    | above i _ _ =>
      show (!(Double.ofInt i).isNaN) = true
      rw [Double.isNaN_ofInt]
      rfl
    | real x finite =>
      have hnumber : x.isNaN = false :=
        decide_eq_false (Nat.lt_asymm (of_decide_eq_true finite))
      show (!x.isNaN) = true
      rw [hnumber]
      rfl

/-! ## Lists of values -/

/-- The node that lists values of a column. -/
structure Lists (fields : List (String × Json)) (name : String) (values : List Json) : Prop where
  operator : Json.lookup? "operator" fields = some (.string "IN_LIST")
  column : Json.lookup? "column" fields = some (.string name)
  values : Json.lookup? "values" fields = some (.array values)

/-- A list of strings and numbers is bound to the first column of its name. -/
theorem ofJson_lists {fields : List (String × Json)} {name : String} {values : List Json}
    (h : Lists fields name values) (hlisted : ∀ value ∈ values, IsListed value)
    {columns : List String} {position : Nat} (hfirst : FirstNamed columns name position) :
    Filter.ofJson columns (.object fields) =
      .ok (.inList position (values.filterMap Cell.ofJson?)) := by
  have hforms : List.Forall₂ ValueForm values (values.filterMap Cell.ofJson?) :=
    (filterMap_ofJson?_eq_iff fun value hvalue =>
      isListable_iff.mpr (isListed_iff.mp (hlisted value hvalue))).mp rfl
  have hread : Spec.ofJson (.object fields) =
      .ok (.inList (.name name) (values.filterMap Cell.ofJson?)) :=
    Spec.ofJson_eq_ok_iff.mpr (.leaf (.inList h.operator h.column h.values (.name name) hforms))
  rw [Filter.ofJson, hread]
  exact compile_inList hfirst _

/-- A list has a result on rows that have a cell in its column. -/
theorem exists_index_inList {position : Nat} {values : List Cell} {rows : List Row}
    (hcells : ∀ row ∈ rows, ∃ cell, row[position]? = some cell) :
    (∃ set, (inList position values).index rows = .ok set) ↔ rows.length ≤ maxRowId := by
  rw [exists_index_iff, and_iff_left]
  exact fun leaf hleaf row hrow => not_fails_inList (hcells row hrow) leaf hleaf

/-- **Cells and values are read alike.** A tree is read as a cell of a table exactly if it is read
    as a value of a specification, and as the same one; what is refused as one is refused as the
    other; and a whole number beyond the signed word is the double nearest to it for both. So the
    list of a string or number that is written in a row of a document selects this row, whatever
    else is listed: the list is bound to the column, has a result on the rows of the table unless
    they are too many for any filter, and then holds the position of the row. -/
theorem index_listed :
    (∀ tree cell, Decode.cell tree = .ok cell ↔ Cell.ofJson? tree = some cell) ∧
    (∀ tree, (∃ e, Decode.cell tree = .error e) ↔ Cell.ofJson? tree = none) ∧
    (∀ i inRange, 0x8000000000000000 ≤ i →
      Decode.cell (.number (.whole i inRange)) = .ok (.float (Double.ofInt i)) ∧
      Cell.ofJson? (.number (.whole i inRange)) = some (.float (Double.ofInt i))) ∧
    ∀ (text : String) (tree : Json) (table : TableDocument) (name : String) (position : Nat)
      (column : Column) (i : Nat) (written : Json) (fields : List (String × Json))
      (values : List Json),
      Json.parse text = .ok tree → parse text = .ok table →
      table.schema.find? name = some (position, column) → WrittenAt tree i position written →
      IsListed written → Lists fields name values → (∀ value ∈ values, IsListed value) →
      written ∈ values →
      ∃ filter, Filter.ofJson table.schema.names (.object fields) = .ok filter ∧
        ((∃ set, filter.index table.rows = .ok set) ↔ table.rows.length ≤ maxRowId) ∧
        ∀ set, filter.index table.rows = .ok set → set.contains i = true := by
  refine ⟨fun tree cell => Decode.cell_eq_ok_iff, fun tree => Decode.cell_eq_error_iff, ?_, ?_⟩
  · intro i inRange hlarge
    have hvalue : Cell.ofJson? (.number (.whole i inRange)) = some (.float (Double.ofInt i)) :=
      congrArg some (numberForm_iff.mp (.above i inRange hlarge)).symm
    exact ⟨Decode.cell_eq_ok_iff.mpr hvalue, hvalue⟩
  · intro text tree table name position column i written fields values htree htable hfind hwritten
      hlisted hlists hvalues hmem
    have hdocument : Documents tree table := by
      unfold parse Json.decode at htable
      rw [htree] at htable
      exact ofJson_eq_ok_iff.mp htable
    obtain ⟨row, cell, hrow, hcell, hread⟩ := cell_of_writtenAt hdocument hwritten
    have hcells := exists_cell_of_conform (conform_of_parse htable) hfind
    refine ⟨_, ofJson_lists hlists hvalues (Schema.find?_eq_some_iff.mp hfind).2,
      exists_index_inList hcells, fun set hset => (selects_index hset i).mpr ⟨row, hrow, ?_⟩⟩
    -- the cell of the row is one of the values, and compares with itself
    exact ⟨cell, hcell, cell, List.mem_filterMap.mpr ⟨written, hmem, hread⟩,
      sameAs_self_of_isListed hlisted hread⟩

/-- The document of sizes, of which one is the first number beyond the signed word. Its second
    column has the name of the first one. -/
def sizesDocument : Json :=
  .object [("name", .string "sizes"), ("table", .object [
    ("columns", .array [(Column.mk "size" .number).toJson, (Column.mk "size" .string).toJson]),
    ("rows", .array [.array [.number (.whole 1 (by decide)), .null],
      .array [.number (.whole 0x8000000000000000 (by decide)), .string "large"]])])]

/-- The list of this number and of a text. -/
def sizesList : List (String × Json) :=
  [("operator", .string "IN_LIST"), ("column", .string "size"),
    ("values", .array [.string "1", .number (.whole 0x8000000000000000 (by decide))])]

set_option maxRecDepth 20000 in
theorem parse_sizesDocument : Json.parse (Json.compact sizesDocument) = .ok sizesDocument := by
  with_unfolding_all rfl

/-- The number selects its row; a text stands before it in the list. -/
theorem index_listed_sizes :
    ∃ table filter set, parse (Json.compact sizesDocument) = .ok table ∧
      Filter.ofJson table.schema.names (.object sizesList) = .ok filter ∧
      filter.index table.rows = .ok set ∧ set.contains 1 = true := by
  have htable : parse (Json.compact sizesDocument) =
      .ok ⟨"sizes", [⟨"size", .number⟩, ⟨"size", .string⟩], [[.integer 1, .null],
        [.float (Double.ofInt 0x8000000000000000), .string "large"]]⟩ :=
    toOption_eq_some_iff.mp (by decide +kernel)
  have hwritten : WrittenAt sizesDocument 1 0 (.number (.whole 0x8000000000000000 (by decide))) :=
    .cell rfl rfl rfl rfl
  have hvalues : ∀ value ∈ [Json.string "1", .number (.whole 0x8000000000000000 (by decide))],
      IsListed value :=
    List.forall_mem_cons.mpr ⟨.string _, List.forall_mem_singleton.mpr (.number _)⟩
  obtain ⟨-, -, -, hselects⟩ := index_listed
  obtain ⟨filter, hfilter, hresult, hselected⟩ := hselects _ _ _ "size" 0 ⟨"size", .number⟩ 1 _
    sizesList _ parse_sizesDocument htable rfl hwritten (.number _) ⟨rfl, rfl, rfl⟩ hvalues
    (List.mem_cons_of_mem _ List.mem_cons_self)
  obtain ⟨set, hset⟩ := hresult.mpr (by decide)
  exact ⟨_, filter, set, htable, hfilter, hset, hselected set hset⟩

end TableDocument

end Winnow
