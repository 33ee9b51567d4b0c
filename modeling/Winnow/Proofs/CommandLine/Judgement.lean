import Winnow.Proofs.CommandLine.Jobs
import Winnow.Proofs.Registry.Agreement
import Winnow.Proofs.Source.Histories

/-!
# `Winnow.Proofs.CommandLine.Judgement` — texts that are checked and texts that are used

One command checks the text of a specification, another one filters a table by it. Each decodes and
reads the text on its own, but they judge it alike: what the first refuses the second refuses as
well, with the same exit status and the same last message, and only the log shows that rows were
asked for. What the first accepts may still fail on a table, but then the failure lies in the columns
or the rows of the table.

## Contents
- **`Spec.ofText`**, with **`validateText_some`**, **`filterOf_eq_bind`**: the reading of a text that
  both commands come to.
- **`SpecArgument.Says`**, **`runOn_validate`**, **`runOn_filter`**: the commands on a text.
- **`RowsFault`**, **`rowsFault_of_selectedAt`**: how a request for rows can still fail.
- **`Outcome.failed`**, **`requestNotice`**: the end of a program that fails, and what the log shows.
- **`run_validate_filter`**: the outcomes of the two commands.
-/

namespace Winnow

/-! ## Texts of specifications -/

/-- The specification that a text stands for. -/
def Spec.ofText (text : String) : Except Error Spec :=
  match Json.parse text with
  | .ok tree => ofJson tree
  | .error e => .error (.badRequest (.badSpec text e))

theorem Spec.ofText_eq_ok_iff {text : String} {spec : Spec} :
    ofText text = .ok spec ↔ ∃ tree, Json.parse text = .ok tree ∧ ofJson tree = .ok spec := by
  unfold ofText
  cases Json.parse text <;> simp

/-- A filter is the specification of its text, bound to the columns. -/
theorem Registry.filterOf_eq_bind (source : Source) (text : String) :
    filterOf source text = Spec.ofText text >>= Filter.compile source.schema.names := by
  unfold filterOf Spec.ofText
  cases Json.parse text <;> rfl

/-- The text that an argument stands for: the argument itself, or the text of the file that it
    names. -/
inductive SpecArgument.Says (files : Files) : SpecArgument → String → Prop where
  | inline (text : String) : Says files (.inline text) text
  | file {path text : String} (read : files.readText path = .ok text) : Says files (.file path) text

/-! ## Two commands on a text -/

namespace CommandLine

open Winnow.Job

/-- The check keeps nothing of the specification of a text. -/
theorem validateText_some (text : String) :
    validateText (some text) = (Spec.ofText text).map fun _ => () := by
  unfold validateText Spec.ofText Spec.validate
  dsimp only
  cases Json.parse text <;> rfl

section Commands

variable {registry : Registry} {argument : SpecArgument} {text : String} {session : Session}

theorem runOn_specText (h : argument.Says session.files text) :
    (specText (some argument)).runOn session = (.ok (some text), session) := by
  cases h with
  | inline => rfl
  | file read =>
    unfold specText
    rw [runOn_get_bind, read]
    rfl

/-- Checking a text leaves the session as it is. -/
theorem runOn_validate (h : argument.Says session.files text) :
    (answer registry (.validate (some argument))).runOn session =
      (((Spec.ofText text).map fun _ => .valid).mapError Failure.error, session) := by
  unfold answer
  rw [runOn_bind_of_ok (runOn_specText h), runOn_bind, runOn_ofExcept, validateText_some]
  cases Spec.ofText text <;> rfl

/-- Filtering a table by a text is the request for its rows. -/
theorem runOn_filter {table : String} {dashboard : Option String}
    (h : argument.Says session.files text) :
    (answer registry (.filter table dashboard (some argument))).runOn session =
      let (result, after) := (registry.filteredRows table dashboard (some text)).runOn session
      ((result.map fun rows => .tree (rowsJson rows)).mapError Failure.error, after) := by
  unfold answer
  rw [runOn_bind_of_ok (runOn_specText h), runOn_bind, runOn_ofAction]
  rcases (registry.filteredRows table dashboard (some text)).runOn session with ⟨_ | _, after⟩ <;>
    rfl

end Commands

end CommandLine

/-! ## Failures behind the judgement -/

/-- **How a request by a specification can fail** on a source and the rows that it supplies: there
    is a reference that means no column, or there are no rows, or too many, or a row that has no cell
    in some column, or a cell that does not compare with a bound. -/
inductive RowsFault (source : Source) (spec : Spec) (batch : Except Error (List Row)) :
    Error → Prop where
  | column {ref : ColumnRef} (inSpec : ref ∈ spec.columnRefs)
      (unknown : ¬ Filter.Known source.schema.names ref) :
      RowsFault source spec batch (.unknownColumn ref.text)
  | noRows {e : Error} (failed : batch = .error e) : RowsFault source spec batch e
  | tooMany {rows : List Row} (pulled : batch = .ok rows) (many : maxRowId < rows.length) :
      RowsFault source spec batch (.badRequest .tooManyRows)
  | shape {early late : List Row} {row : Row} {column : Nat}
      (pulled : batch = .ok (early ++ row :: late)) (short : row[column]? = none) :
      RowsFault source spec batch (.rowShape early.length row.length column)
  | incomparable {rows : List Row} {row : Row} {column : Nat} {cell bound : Cell}
      (pulled : batch = .ok rows) (inRows : row ∈ rows) (inRow : row[column]? = some cell)
      (apart : cell.compare? bound = none) :
      RowsFault source spec batch (.incomparable cell bound)

variable {source : Source} {spec : Spec}

/-- Running a filter fails for the number of rows, or at a leaf and a row. -/
theorem rowsFault_of_retain {batch : Except Error (List Row)} {filter : Filter} {rows : List Row}
    {e : Error} (hpulled : batch = .ok rows) (h : filter.retain rows = .error e) :
    RowsFault source spec batch e := by
  have hindex : filter.index rows = .error e := by
    rw [← fault?_eq_some_iff] at h ⊢
    rw [← h]
    exact (fault?_bind_pure _ _).symm
  by_cases hfew : rows.length ≤ maxRowId
  · obtain ⟨_, hrows, _, _, hfault⟩ := (Filter.index_eq_error_iff hfew).mp hindex
    subst hrows
    rcases Filter.Leaf.fault?_cases hfault with
      ⟨hshort, rfl⟩ | ⟨cell, bound, hcell, _, hapart, rfl⟩
    · exact .shape hpulled hshort
    · exact .incomparable hpulled (List.mem_append_right _ List.mem_cons_self) hcell hapart
  · rw [Filter.index_of_lt (Nat.lt_of_not_le hfew) filter] at hindex
    cases hindex
    exact .tooMany hpulled (Nat.lt_of_not_le hfew)

/-- **What is left to fail** is binding the specification, pulling the rows and running the filter. -/
theorem rowsFault_of_selectedAt {files : Files} {pull : Nat} {e : Error}
    (h : (source.selectedAt spec files pull).1 = .error e) :
    RowsFault source spec (source.batch files pull) e := by
  unfold Source.selectedAt at h
  cases hbound : Filter.compile source.schema.names spec with
  | error fault =>
    rw [hbound] at h
    cases h
    obtain ⟨before, ref, after, hrefs, _, hunknown, rfl⟩ := Filter.compile_eq_error_iff.mp hbound
    refine .column ?_ hunknown
    rw [hrefs]
    exact List.mem_append_right _ List.mem_cons_self
  | ok filter =>
    rw [hbound] at h
    cases hbatch : source.batch files pull with
    | error fault =>
      rw [hbatch] at h
      cases h
      exact .noRows rfl
    | ok rows =>
      rw [hbatch] at h
      exact rowsFault_of_retain rfl h

/-! ## One text for both commands -/

/-- A text that stands for no specification ends a request for rows before anything is pulled, and
    the request is logged. -/
theorem Registry.runOn_filteredRows_of_refused {registry : Registry} {table text : String}
    {dashboard : Option String} {e : Error}
    (hserver : registry.server table dashboard = .ok source) (hrefused : Spec.ofText text = .error e)
    (session : Session) :
    (registry.filteredRows table dashboard (some text)).runOn session =
      (.error e, { session with log := .requestFailed .filteredRows e :: session.log }) := by
  have hfilter : filterOf source text = .error e := by
    rw [filterOf_eq_bind, hrefused]
    rfl
  unfold filteredRows
  rw [Action.runOn_logged, hserver, Action.runOn_bind, Action.runOn_ofExcept]
  dsimp only
  rw [hfilter]
  rfl

namespace CommandLine

open Winnow.Job

/-- The end of a program that fails: nothing is printed, and the last message tells the failure. -/
def Outcome.failed (before : List String) (failure : Failure) : Outcome :=
  ⟨failure.status, [], before ++ [failure.text]⟩

/-- What the log shows of a request for rows that failed. -/
def requestNotice (around : Surroundings) (config : Config) (e : Error) : List String :=
  ([Event.requestFailed .filteredRows e].filter (logFilter around config).1.allows).map Event.line

theorem notices_requestFailed (around : Surroundings) (config : Config) (session : Session)
    (e : Error) :
    notices around config { session with log := .requestFailed .filteredRows e :: session.log } =
      notices around config session ++ requestNotice around config e := by
  unfold notices requestNotice
  rw [List.reverse_cons, List.filter_append, List.map_append, List.append_assoc]

/-- The error of the library behind a failure tells its status. -/
theorem status_of_error? {failure : Failure} {e : Error} (h : failure.error? = some e) :
    failure.status = if e.isClientError then 2 else 1 := by
  have hstatus : failure.status =
      if (Option.filter (·.isClientError) (some e)).isSome then 2 else 1 := by
    cases failure with
    | error | loading =>
      obtain rfl := Option.some.inj h
      rfl
    | reading | stopped => cases h
  rw [hstatus, Option.filter]
  cases e.isClientError <;> rfl

theorem status_cases (failure : Failure) :
    failure.status = 1 ∨ failure.status = 2 ∨ failure = .stopped := by
  have hcarried : ∀ e, failure.error? = some e → failure.status = 1 ∨ failure.status = 2 := by
    intro e he
    rw [status_of_error? he]
    split
    · exact Or.inr rfl
    · exact Or.inl rfl
  cases failure with
  | error e | loading _ e => exact (hcarried e rfl).imp id Or.inl
  | reading => exact Or.inl rfl
  | stopped => exact Or.inr (Or.inr rfl)

theorem status_ne_zero (failure : Failure) : failure.status ≠ 0 := by
  rcases status_cases failure with h | h | rfl
  · simp [h]
  · simp [h]
  · decide

/-- **Checking a text and filtering by it judge alike.** Once the tables are loaded, and for every
    table among them: a text that the check refuses is refused by the filter as well, with the same
    exit status and the same last message, after the same messages but for the request that the log
    shows. If the check accepts a text, it stands for a specification, and then the filter succeeds
    or fails for a column of the specification, for the rows of the source, or for what the filter
    finds in these rows. -/
theorem run_validate_filter {around : Surroundings} {asked : Invocation} {config : Config}
    {registry : Registry} {session : Session}
    (hloads : Loads around asked config registry session) {table : String}
    {dashboard : Option String} (hserver : registry.server table dashboard = .ok source)
    {checked given : SpecArgument} {text : String} (hchecked : checked.Says around.files text)
    (hgiven : given.Says around.files text) :
    let validated := run around { asked with command := .validate (some checked) }
    let filtered := run around { asked with command := .filter table dashboard (some given) }
    (validated.status ≠ 0 → ∃ e before, Spec.ofText text = .error e ∧
      validated = .failed before (.error e) ∧
      filtered = .failed (before ++ requestNotice around config e) (.error e)) ∧
    (validated.status = 0 → ∃ spec, Spec.ofText text = .ok spec ∧
      (filtered.status = 0 ∨ ∃ e before, RowsFault source spec (source.batch around.files 0) e ∧
        filtered = .failed before (.error e))) := by
  intro validated filtered
  rw [← hloads.files] at hchecked hgiven
  have hvalidated : validated = _ := (hloads.withCommand (.validate (some checked))).run_eq .stable
  have hfiltered : filtered = _ :=
    (hloads.withCommand (.filter table dashboard (some given))).run_eq .stable
  rw [runOn_validate hchecked] at hvalidated
  rw [runOn_filter hgiven] at hfiltered
  cases hjudged : Spec.ofText text with
  | error e =>
    rw [hjudged] at hvalidated
    rw [Registry.runOn_filteredRows_of_refused hserver hjudged] at hfiltered
    dsimp only [Except.map, Except.mapError] at hvalidated hfiltered
    rw [notices_requestFailed] at hfiltered
    constructor
    · intro _
      exact ⟨e, notices around config session, rfl, hvalidated, hfiltered⟩
    · intro hstatus
      rw [hvalidated] at hstatus
      exact absurd hstatus (status_ne_zero (.error e))
  | ok spec =>
    rw [hjudged] at hvalidated
    dsimp only [Except.map, Except.mapError] at hvalidated
    constructor
    · intro hstatus
      rw [hvalidated] at hstatus
      exact absurd rfl hstatus
    · intro _
      obtain ⟨tree, hparse, hread⟩ := Spec.ofText_eq_ok_iff.mp hjudged
      have hends : (registry.filteredRows table dashboard (some text)).Ends session _ _ :=
        Registry.ends_filteredRows_of_reads hserver hparse hread
      rw [hloads.pulls, List.count_nil, hloads.files] at hends
      refine ⟨spec, rfl, ?_⟩
      rcases hrun : (registry.filteredRows table dashboard (some text)).runOn session with
        ⟨e | rows, after⟩
      · have hfault : (source.selectedAt spec around.files 0).1 = .error e := by
          rw [← hends.result, hrun]
        rw [hrun] at hfiltered
        exact Or.inr ⟨e, notices around config after, rowsFault_of_selectedAt hfault, hfiltered⟩
      · rw [hrun] at hfiltered
        exact Or.inl (congrArg Outcome.status hfiltered)

/-! ## A table with a missing size -/

/-- Files with a table of sizes, one of which is missing, and with the text of a specification. -/
def sizesAround (text : String) : Surroundings where
  files := (Source.sizesFiles "number" "[[4],[null]]").write "spec.json" (.text text)

/-- A command for which the table is loaded. -/
def onSizes (command : Command) : Invocation where
  config := none
  load := ["sizes.json"]
  loadDashboard := none
  pretty := false
  command

/-- The check of a text that is given in place. -/
def checkText (text : String) : Outcome :=
  run (sizesAround text) (onSizes (.validate (some (.inline text))))

/-- The table filtered by the text of a file. -/
def filterSizes (text : String) : Outcome :=
  run (sizesAround text) (onSizes (.filter "sizes" none (some (.file "spec.json"))))

theorem loads_sizes {text : String}
    (hconfig : (configOf (sizesAround text) (onSizes .tables)).toOption = some {})
    (htable : (((register (entries {} (onSizes .tables))).runOn
      { files := (sizesAround text).files }).1.toOption.bind fun registry =>
        (registry.server "sizes" none).toOption).isSome = true) :
    ∃ registry session source, Loads (sizesAround text) (onSizes .tables) {} registry session ∧
      registry.server "sizes" none = .ok source := by
  obtain ⟨source, hsource⟩ := Option.isSome_iff_exists.mp htable
  obtain ⟨registry, hregistry, hserver⟩ := Option.bind_eq_some_iff.mp hsource
  have hregistered := toOption_eq_some_iff.mp hregistry
  exact ⟨registry, ((register (entries {} (onSizes .tables))).runOn _).2, source,
    ⟨toOption_eq_some_iff.mp hconfig, Prod.ext hregistered rfl⟩, toOption_eq_some_iff.mp hserver⟩

/-- A list is refused by both commands. A range over the sizes is accepted, but the missing size
    does not compare with it. -/
theorem run_validate_filter_sizes :
    (∃ e before, Spec.ofText "[]" = .error e ∧ checkText "[]" = .failed before (.error e) ∧
      filterSizes "[]" = .failed (before ++ requestNotice (sizesAround "[]") {} e) (.error e)) ∧
    let range := Registry.rangeText "size"
    (checkText range).status = 0 ∧ (filterSizes range).status = 2 ∧
      ∃ source spec e before, RowsFault source spec (source.batch (sizesAround range).files 0) e ∧
        filterSizes range = .failed before (.error e) := by
  constructor
  · obtain ⟨registry, session, source, hloads, hserver⟩ :=
      @loads_sizes "[]" (by decide +kernel) (by decide +kernel)
    have hread : (sizesAround "[]").files.readText "spec.json" = .ok "[]" := by decide +kernel
    exact (run_validate_filter hloads hserver (.inline "[]") (.file hread)).1 (by decide +kernel)
  · intro range
    obtain ⟨registry, session, source, hloads, hserver⟩ :=
      @loads_sizes range (by decide +kernel) (by decide +kernel)
    have hread : (sizesAround range).files.readText "spec.json" = .ok range := by decide +kernel
    have haccepted : (checkText range).status = 0 := by decide +kernel
    have hfails : (filterSizes range).status = 2 := by decide +kernel
    obtain ⟨spec, _, hdone | ⟨e, before, hfault, hfiltered⟩⟩ :=
      (run_validate_filter hloads hserver (.inline range) (.file hread)).2 haccepted
    · exact absurd (hfails.symm.trans hdone) (by decide)
    · exact ⟨haccepted, hfails, source, spec, e, before, hfault, hfiltered⟩

end CommandLine

end Winnow
