import Winnow.Proofs.Filter.Failure
import Winnow.Proofs.Spec.Nodes

/-!
# `Winnow.Proofs.Filter.Binding` — binding names to columns

Binding replaces the name at every leaf by the position of the first column of that name, and
changes nothing else. It fails at the first leaf whose reference is no name of a column. A bound
filter then reads only columns that exist, so rows of the full width cannot be too short for it.

## Contents
- **`Spec.columnRefs`**: the references of a specification, from left to right.
- **`FirstNamed`**, **`Binds`**: what binding makes of a specification.
- **`resolve_eq_ok_iff`**, **`fault?_resolve_eq_some_iff`**: one reference.
- **`compile_eq_ok_iff`**, **`fault?_compile`**: whole specifications.
- **`compile_columns`**: when binding succeeds, what it gives, and how it fails.
-/

namespace Winnow

/-! ## Specifications -/

namespace Spec

mutual

/-- The references of the leaves, depth first and from left to right. -/
def columnRefs : Spec → List ColumnRef
  | combine _ arguments => columnRefsAll arguments
  | inList ref _ => [ref]
  | inRange ref _ _ => [ref]

/-- The references in specifications, one after the other. -/
def columnRefsAll : List Spec → List ColumnRef
  | [] => []
  | spec :: rest => columnRefs spec ++ columnRefsAll rest

end

theorem findSome?_columnRefsAll {β : Type} (f : ColumnRef → Option β) (specs : List Spec) :
    (columnRefsAll specs).findSome? f =
      specs.findSome? fun spec => spec.columnRefs.findSome? f := by
  induction specs with
  | nil => rfl
  | cons first rest ih => rw [columnRefsAll, List.findSome?_append, ih, findSome?_cons_or]

theorem mem_columnRefsAll {ref : ColumnRef} {specs : List Spec} :
    ref ∈ columnRefsAll specs ↔ ∃ spec ∈ specs, ref ∈ spec.columnRefs := by
  induction specs with
  | nil => simp [columnRefsAll]
  | cons first rest ih => simp [columnRefsAll, ih]

end Spec

namespace Filter

/-! ## One reference -/

/-- A reference that means one of the columns is the name of one. -/
def Known (columns : List String) (ref : ColumnRef) : Prop := ∃ name ∈ columns, ref = .name name

/-- A column is the first one of a name. -/
structure FirstNamed (columns : List String) (name : String) (column : Nat) : Prop where
  named : columns[column]? = some name
  earliest : ∀ earlier < column, columns[earlier]? ≠ some name

/-- The first column of a name is the first one of all, or the first one behind it. -/
theorem firstNamed_cons_iff {first : String} {rest : List String} {name : String} {column : Nat} :
    FirstNamed (first :: rest) name column ↔
      first = name ∧ column = 0 ∨
        first ≠ name ∧ ∃ behind, column = behind + 1 ∧ FirstNamed rest name behind := by
  constructor
  · rintro ⟨hnamed, hearliest⟩
    cases column with
    | zero => exact Or.inl ⟨Option.some.inj hnamed, rfl⟩
    | succ behind =>
      refine Or.inr ⟨fun hname => ?_, behind, rfl, hnamed, fun earlier hlt => ?_⟩
      · exact hearliest 0 (Nat.succ_pos behind) (congrArg some hname)
      · exact hearliest (earlier + 1) (Nat.succ_lt_succ hlt)
  · rintro (⟨rfl, rfl⟩ | ⟨hname, behind, rfl, hnamed, hearliest⟩)
    · exact ⟨rfl, fun earlier hlt => absurd hlt (Nat.not_lt_zero earlier)⟩
    · refine ⟨hnamed, fun earlier hlt => ?_⟩
      cases earlier with
      | zero => exact fun h => hname (Option.some.inj h)
      | succ earlier => exact hearliest earlier (Nat.lt_of_succ_lt_succ hlt)

theorem names_iff {ref : ColumnRef} {column : String} :
    ref.names column = true ↔ ref = .name column := by
  cases ref with
  | name value => simp [ColumnRef.names]
  | integer i => simp [ColumnRef.names]

theorem resolve_eq_ok_iff {ref : ColumnRef} {columns : List String} {column : Nat} :
    resolve ref columns = .ok column ↔
      ∃ name, ref = .name name ∧ FirstNamed columns name column := by
  -- resolving is the search for the first column that the reference means
  have hfind : resolve ref columns = .ok column ↔ columns.findIdx? (ref.names ·) = some column := by
    unfold resolve
    cases columns.findIdx? (ref.names ·) with
    | none => simp
    | some found => simp
  rw [hfind, List.findIdx?_eq_some_iff_getElem]
  constructor
  · rintro ⟨hlt, hnamed, hearlier⟩
    refine ⟨columns[column], names_iff.mp hnamed, List.getElem?_eq_getElem hlt, ?_⟩
    intro earlier hlt' hsame
    obtain ⟨h, hget⟩ := List.getElem?_eq_some_iff.mp hsame
    refine hearlier earlier hlt' (names_iff.mpr ?_)
    rw [hget]
    exact names_iff.mp hnamed
  · rintro ⟨name, rfl, hfirst⟩
    obtain ⟨hlt, hget⟩ := List.getElem?_eq_some_iff.mp hfirst.named
    refine ⟨hlt, names_iff.mpr (by rw [hget]), fun earlier hlt' hnames => ?_⟩
    refine hfirst.earliest earlier hlt' ?_
    rw [List.getElem?_eq_getElem (Nat.lt_trans hlt' hlt)]
    exact congrArg some (ColumnRef.name.inj (names_iff.mp hnames)).symm

/-- A reference is a fault when it means no column, and the fault names it. -/
theorem fault?_resolve_eq_some_iff {ref : ColumnRef} {columns : List String} {e : Error} :
    fault? (resolve ref columns) = some e ↔ ¬ Known columns ref ∧ e = .unknownColumn ref.text := by
  have hknown : Known columns ref ↔ columns.findIdx? (ref.names ·) ≠ none := by
    rw [Ne, List.findIdx?_eq_none_iff]
    simp only [Known, ← names_iff]
    simp
  rw [hknown]
  unfold resolve
  cases columns.findIdx? (ref.names ·) with
  | none => simp [fault?, eq_comm]
  | some column => simp [fault?]

theorem fault?_resolve_eq_none_iff {ref : ColumnRef} {columns : List String} :
    fault? (resolve ref columns) = none ↔ Known columns ref := by
  rw [← not_iff_not, ← Ne, Option.ne_none_iff_exists']
  simp only [fault?_resolve_eq_some_iff, exists_and_left, exists_eq, and_true]

/-! ## Whole specifications -/

/-- **What binding makes of a specification.** The filter has the same combinators over the same
    arguments, the same values and bounds, and every leaf has its name replaced by the position of
    the first column of that name. -/
inductive Binds (columns : List String) : Spec → Filter → Prop where
  | combine {combinator : Combinator} {arguments : List Spec} {filters : List Filter}
      (each : List.Forall₂ (Binds columns) arguments filters) :
      Binds columns (.combine combinator arguments) (.combine combinator filters)
  | inList {name : String} {column : Nat} {values : List Cell}
      (first : FirstNamed columns name column) :
      Binds columns (.inList (.name name) values) (.inList column values)
  | inRange {name : String} {column : Nat} {min max : Cell}
      (first : FirstNamed columns name column) :
      Binds columns (.inRange (.name name) min max) (.inRange column min max)

/-- Arguments are bound one after the other. -/
theorem compileAll_eq_mapM (columns : List String) (specs : List Spec) :
    compileAll columns specs = specs.mapM (compile columns) := by
  induction specs with
  | nil => rfl
  | cons first rest ih =>
    rw [List.mapM_cons, ← ih]
    rfl

theorem compile_eq_ok_iff {columns : List String} {spec : Spec} :
    ∀ {filter : Filter}, compile columns spec = .ok filter ↔ Binds columns spec filter := by
  induction spec with
  | combine combinator arguments ih =>
    intro filter
    rw [compile, compileAll_eq_mapM, bind_eq_ok_iff]
    constructor
    · rintro ⟨filters, hfilters, h⟩
      obtain rfl : combine combinator filters = filter := Except.ok.inj h
      -- each argument is bound by the induction hypothesis for it
      have hboth := (List.forall₂_and_left _ _).mpr ⟨ih, mapM_eq_ok_iff.mp hfilters⟩
      exact .combine (hboth.imp fun _ _ h => h.1.mp h.2)
    · intro h
      cases h with
      | @combine _ _ filters each =>
        have hboth := (List.forall₂_and_left _ _).mpr ⟨ih, each⟩
        exact ⟨filters, mapM_eq_ok_iff.mpr (hboth.imp fun _ _ h => h.1.mpr h.2), rfl⟩
  | inList ref values =>
    intro filter
    rw [compile, bind_eq_ok_iff]
    constructor
    · rintro ⟨column, hcolumn, h⟩
      obtain ⟨name, rfl, hfirst⟩ := resolve_eq_ok_iff.mp hcolumn
      obtain rfl : inList column values = filter := Except.ok.inj h
      exact .inList hfirst
    · intro h
      cases h with
      | inList first => exact ⟨_, resolve_eq_ok_iff.mpr ⟨_, rfl, first⟩, rfl⟩
  | inRange ref min max =>
    intro filter
    rw [compile, bind_eq_ok_iff]
    constructor
    · rintro ⟨column, hcolumn, h⟩
      obtain ⟨name, rfl, hfirst⟩ := resolve_eq_ok_iff.mp hcolumn
      obtain rfl : inRange column min max = filter := Except.ok.inj h
      exact .inRange hfirst
    · intro h
      cases h with
      | inRange first => exact ⟨_, resolve_eq_ok_iff.mpr ⟨_, rfl, first⟩, rfl⟩

/-- Binding ends with the first fault of a reference. -/
theorem fault?_compile (columns : List String) (spec : Spec) :
    fault? (compile columns spec) =
      spec.columnRefs.findSome? fun ref => fault? (resolve ref columns) := by
  induction spec with
  | combine combinator arguments ih =>
    rw [compile, compileAll_eq_mapM, fault?_bind_pure, fault?_mapM, Spec.columnRefs,
      Spec.findSome?_columnRefsAll]
    exact findSome?_congr ih
  | inList ref values => rw [compile, fault?_bind_pure, Spec.columnRefs, List.findSome?_singleton]
  | inRange ref min max => rw [compile, fault?_bind_pure, Spec.columnRefs, List.findSome?_singleton]

/-- Binding succeeds when every reference names a column. -/
theorem exists_compile_iff {columns : List String} {spec : Spec} :
    (∃ filter, compile columns spec = .ok filter) ↔ ∀ ref ∈ spec.columnRefs, Known columns ref := by
  rw [← fault?_eq_none_iff, fault?_compile, List.findSome?_eq_none_iff]
  simp only [fault?_resolve_eq_none_iff]

/-- The fault of binding names the first reference that means no column. -/
theorem compile_eq_error_iff {columns : List String} {spec : Spec} {e : Error} :
    compile columns spec = .error e ↔
      ∃ before ref after, spec.columnRefs = before ++ ref :: after ∧
        (∀ other ∈ before, Known columns other) ∧ ¬ Known columns ref ∧
        e = .unknownColumn ref.text := by
  rw [← fault?_eq_some_iff, fault?_compile, List.findSome?_eq_some_iff]
  simp only [fault?_resolve_eq_some_iff, fault?_resolve_eq_none_iff]
  constructor
  · rintro ⟨before, ref, after, hsplit, ⟨hunknown, he⟩, hbefore⟩
    exact ⟨before, ref, after, hsplit, hbefore, hunknown, he⟩
  · rintro ⟨before, ref, after, hsplit, hbefore, hunknown, he⟩
    exact ⟨before, ref, after, hsplit, ⟨hunknown, he⟩, hbefore⟩

/-! ## Bound filters on rows -/

theorem FirstNamed.lt_length {columns : List String} {name : String} {column : Nat}
    (h : FirstNamed columns name column) : column < columns.length := by
  obtain ⟨hlt, _⟩ := List.getElem?_eq_some_iff.mp h.named
  exact hlt

theorem mem_leavesAll {leaf : Leaf} {filters : List Filter} :
    leaf ∈ leavesAll filters ↔ ∃ filter ∈ filters, leaf ∈ filter.leaves := by
  induction filters with
  | nil => simp [leavesAll]
  | cons first rest ih => simp [leavesAll, ih]

/-- The leaves of a bound filter read columns that exist. -/
theorem Binds.column_lt {columns : List String} {filter : Filter} :
    ∀ {spec : Spec}, Binds columns spec filter →
      ∀ leaf ∈ filter.leaves, leaf.column < columns.length := by
  induction filter with
  | combine combinator filters ih =>
    intro spec h leaf hleaf
    cases h with
    | combine each =>
      -- the leaf is one of an argument, and that argument was bound from a specification
      obtain ⟨filter, hfilter, hleaf⟩ := mem_leavesAll.mp hleaf
      obtain ⟨argument, _, hbinds⟩ := exists_left_of_forall₂ each filter hfilter
      exact ih filter hfilter hbinds leaf hleaf
  | inList column values =>
    intro spec h leaf hleaf
    cases h with
    | inList first =>
      obtain rfl := List.mem_singleton.mp hleaf
      exact first.lt_length
  | inRange column min max =>
    intro spec h leaf hleaf
    cases h with
    | inRange first =>
      obtain rfl := List.mem_singleton.mp hleaf
      exact first.lt_length

/-- On rows of the full width, a bound filter finds a cell at every leaf. -/
theorem Binds.index_ne_rowShape {columns : List String} {spec : Spec} {filter : Filter}
    (h : Binds columns spec filter) {rows : List Row}
    (hwidth : ∀ row ∈ rows, columns.length ≤ row.length) (position length column : Nat) :
    filter.index rows ≠ .error (.rowShape position length column) := by
  intro herror
  by_cases hle : rows.length ≤ maxRowId
  · -- the fault would lie in a row without a cell at some leaf, but every row is wide enough
    rcases ((index_eq_error_iff hle).mp herror).cases with
      ⟨leaf, hleaf, _, row, hrow, hnone, _⟩ | ⟨_, _, _, he⟩
    · have hlt := h.column_lt leaf hleaf
      have hge := List.getElem?_eq_none_iff.mp hnone
      have hwide := hwidth row hrow
      omega
    · cases he
  · rw [index_of_lt (Nat.lt_of_not_le hle)] at herror
    cases herror

/-- **Binding to columns.** It succeeds exactly when every reference is the name of some column,
    then gives the same tree with the first column of each name, and otherwise names the first
    reference that is none. Rows of the full width are never too short for the filter it gives. -/
theorem compile_columns (columns : List String) (spec : Spec) :
    ((∃ filter, compile columns spec = .ok filter) ↔
      ∀ ref ∈ spec.columnRefs, ∃ name ∈ columns, ref = .name name) ∧
    (∀ filter, compile columns spec = .ok filter ↔ Binds columns spec filter) ∧
    (∀ e, compile columns spec = .error e ↔
      ∃ before ref after, spec.columnRefs = before ++ ref :: after ∧
        (∀ other ∈ before, ∃ name ∈ columns, other = .name name) ∧
        (¬ ∃ name ∈ columns, ref = .name name) ∧ e = .unknownColumn ref.text) ∧
    ∀ filter rows, compile columns spec = .ok filter →
      (∀ row ∈ rows, columns.length ≤ row.length) →
      ∀ position length column, filter.index rows ≠ .error (.rowShape position length column) := by
  refine ⟨exists_compile_iff, fun filter => compile_eq_ok_iff, fun e => compile_eq_error_iff, ?_⟩
  intro filter rows h hwidth
  exact (compile_eq_ok_iff.mp h).index_ne_rowShape hwidth

/-- The second of two columns with one name is never meant. -/
theorem compile_columns_repeated :
    compile ["id", "size", "size"] (.combine .none [.inList (.name "size") [.integer 7]]) =
        .ok (.combine .none [.inList 1 [.integer 7]]) ∧
      ∀ position length column,
        (Filter.combine .none [.inList 1 [.integer 7]]).index
            [[.integer 1, .integer 7, .null], [.integer 2, .string "x", .null]] ≠
          .error (.rowShape position length column) := by
  have hspec := compile_columns ["id", "size", "size"]
    (.combine .none [.inList (.name "size") [.integer 7]])
  have hfirst : FirstNamed ["id", "size", "size"] "size" 1 := ⟨rfl, by decide⟩
  have hcompile := (hspec.2.1 (.combine .none [.inList 1 [.integer 7]])).mpr
    (.combine (.cons (.inList hfirst) .nil))
  exact ⟨hcompile, hspec.2.2.2 _ _ hcompile (by decide)⟩

end Filter

end Winnow
