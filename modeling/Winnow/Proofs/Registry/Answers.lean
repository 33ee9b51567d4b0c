import Winnow.Proofs.Source.Checked
import Winnow.Registry

/-!
# `Winnow.Proofs.Registry.Answers` — which requests on a checked table succeed

A request for filtered rows is decoded, read, bound and run, and each stage has its own failures. On
a table of fixed rows all of them lie in the request, and the request succeeds exactly when its text
is a specification over the columns of the table whose ranges fall on numbers.

## Contents
- **`gives_filteredRows`**: a request on a steady source as one run.
- **`filterOf_eq_ok_iff`**, **`onlyRejects_filterOf`**: the filter of a text.
- **`filteredRows_answers`**: when such a request succeeds, and whose fault its failure is.
-/

namespace Winnow.Registry

open Winnow.Action Winnow.Filter

/-- A request on a steady source makes a filter of the text and runs it on the rows. -/
theorem gives_filteredRows {registry : Registry} {table : String} {dashboard : Option String}
    {source : Source} {files : Files} {rows : List Row}
    (hserver : registry.server table dashboard = .ok source) (hsteady : source.Steady files rows)
    (text : String) :
    (registry.filteredRows table dashboard (some text)).Gives files
      (filterOf source text >>= fun filter => filter.retain rows) := by
  refine Gives.logged ?_ .filteredRows
  rw [hserver]
  refine (gives_ofExcept (.ok source)).bind_ok ?_
  exact (gives_ofExcept _).bind fun filter _ => Source.gives_retained hsteady filter

/-- A text gives a filter if it is the text of a tree that stands for a specification over the
    columns of the table. -/
theorem filterOf_eq_ok_iff {source : Source} {text : String} {filter : Filter} :
    filterOf source text = .ok filter ↔
      ∃ tree spec, Json.parse text = .ok tree ∧ Spec.Mirrors tree spec ∧
        Binds source.schema.names spec filter := by
  unfold filterOf
  cases Json.parse text with
  | error e => simp
  | ok tree =>
    dsimp only
    rw [bind_eq_ok_iff]
    simp only [Spec.ofJson_eq_ok_iff, compile_eq_ok_iff]
    simp

/-- A text that gives no filter is the fault of the request. -/
theorem onlyRejects_filterOf (source : Source) (text : String) :
    OnlyRejects (filterOf source text) := by
  unfold filterOf
  split
  · exact onlyRejects_error ⟨rfl, nofun⟩
  · exact (Spec.onlyRejects_ofJson _).bind fun spec _ => onlyRejects_compile _ spec

/-- **Requests on a checked table.** They succeed exactly if the text is that of a specification,
    all its leaves name columns of the table, and wherever it asks for a range every row has a
    number other than NaN. Every failure lies in the request. -/
theorem filteredRows_answers {registry : Registry} {table : String} {dashboard : Option String}
    {id : Nat} {schema : Schema} {rows : List Row} {source : Source}
    (hsource : Source.ofRows id schema rows = .ok source) (hfew : rows.length ≤ maxRowId)
    (hserver : registry.server table dashboard = .ok source) (text : String) (session : Session) :
    ((∃ kept, ((registry.filteredRows table dashboard (some text)).runOn session).1 = .ok kept) ↔
      ∃ tree spec, Json.parse text = .ok tree ∧ Spec.Mirrors tree spec ∧
        (∀ ref ∈ spec.columnRefs, ∃ name ∈ schema.names, ref = .name name) ∧
        ∀ range ∈ spec.ranges, ∀ name, range.column = .name name → ∀ row ∈ rows,
          ∃ cell, schema.cell? name row = some cell ∧ cell.isOrdered = true) ∧
    ∀ e, ((registry.filteredRows table dashboard (some text)).runOn session).1 = .error e →
      e.isClientError = true ∧ ∀ row length column, e ≠ .rowShape row length column := by
  obtain ⟨hcheck, rfl⟩ := Source.ofRows_eq_ok hsource
  have hwidth := length_of_checkRows hcheck
  have hsteady : Source.Steady ⟨id, schema, .memory rows⟩ session.files rows := fun _ => rfl
  rw [(gives_filteredRows hserver hsteady text session rfl).1]
  constructor
  · constructor
    · rintro ⟨kept, h⟩
      obtain ⟨filter, hfilter, hkept⟩ := bind_eq_ok_iff.mp h
      obtain ⟨tree, spec, htree, hmirrors, hbinds⟩ := filterOf_eq_ok_iff.mp hfilter
      refine ⟨tree, spec, htree, hmirrors, ?_, ?_⟩
      · exact exists_compile_iff.mp ⟨filter, compile_eq_ok_iff.mpr hbinds⟩
      · exact (hbinds.exists_retain_iff hfew hwidth hmirrors.bounds).mp ⟨kept, hkept⟩
    · rintro ⟨tree, spec, htree, hmirrors, hrefs, hranges⟩
      obtain ⟨filter, hfilter⟩ := exists_compile_iff.mpr hrefs
      have hbinds := compile_eq_ok_iff.mp hfilter
      obtain ⟨kept, hkept⟩ := (hbinds.exists_retain_iff hfew hwidth hmirrors.bounds).mpr hranges
      exact ⟨kept, bind_eq_ok_iff.mpr
        ⟨filter, filterOf_eq_ok_iff.mpr ⟨tree, spec, htree, hmirrors, hbinds⟩, hkept⟩⟩
  · refine (onlyRejects_filterOf _ text).bind fun filter hfilter => ?_
    obtain ⟨_, _, _, _, hbinds⟩ := filterOf_eq_ok_iff.mp hfilter
    exact hbinds.onlyRejects_retain hwidth

/-- Two columns of numbers, in the second of which a row has a null. -/
def stockSchema : Schema := [⟨"size", .number⟩, ⟨"left", .number⟩]

/-- Rows that fit these columns. -/
def stockRows : List Row := [[.integer 4, .integer 0], [.float (Double.ofInt 7), .null]]

/-- A registry with a table of these rows. -/
def stock : Registry := empty.insert ⟨none, "stock"⟩ ⟨0, stockSchema, .memory stockRows⟩

/-- A text that asks for a range in a column. -/
def rangeText (column : String) : String :=
  "\x7b\"operator\":\"IN_RANGE\",\"column\":\"" ++ column ++
    "\",\"min_val\":0,\"max_val\":5\x7d"

/-- A range over sizes is answered, and one over the column with a null is refused. -/
theorem filteredRows_answers_stock :
    (∃ tree spec, Json.parse (rangeText "size") = .ok tree ∧ Spec.Mirrors tree spec ∧
      (∀ ref ∈ spec.columnRefs, ∃ name ∈ stockSchema.names, ref = .name name) ∧
      ∀ range ∈ spec.ranges, ∀ name, range.column = .name name → ∀ row ∈ stockRows,
        ∃ cell, stockSchema.cell? name row = some cell ∧ cell.isOrdered = true) ∧
    ∃ e, ((stock.filteredRows "stock" none (some (rangeText "left"))).runOn
        Session.fresh).1 = .error e ∧ e.isClientError = true := by
  have hsource : Source.ofRows 0 stockSchema stockRows = .ok ⟨0, stockSchema, .memory stockRows⟩ :=
    rfl
  have hserver : stock.server "stock" none = .ok ⟨0, stockSchema, .memory stockRows⟩ := rfl
  have hanswers := fun text => filteredRows_answers hsource (by decide) hserver text Session.fresh
  constructor
  · refine (hanswers (rangeText "size")).1.mp ⟨[[.integer 4, .integer 0]], ?_⟩
    exact toOption_eq_some_iff.mp (by decide +kernel)
  · have hfault : (fault? ((stock.filteredRows "stock" none (some (rangeText "left"))).runOn
        Session.fresh).1).isSome = true := by decide +kernel
    obtain ⟨e, he⟩ := exists_error_iff.mpr hfault
    exact ⟨e, he, ((hanswers (rangeText "left")).2 e he).1⟩

end Winnow.Registry
