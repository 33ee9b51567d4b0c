import Winnow.Proofs.Cell.Preorder
import Winnow.Proofs.CommandLine.Jobs
import Winnow.Proofs.Registry.Pulls
import Winnow.Proofs.Summary.Union

/-!
# `Winnow.Proofs.CommandLine.Settled` — where the sort does not matter

The program sorts the cells of a column. What a sort does is settled where the cells are ordered, and
open elsewhere: it may leave any arrangement or not return. A column in which no float blurs two
integers is ordered whatever tables it is spread over, and there every sort makes the program answer
as the library does.

## Contents
- **`Sorter.Settles`**: a sort that does with some cells what the stable one does;
  **`Sorter.settles_of_unmixed`**.
- **`Job.Follows`**: a job that runs as a request of the library.
- **`HasCell`**: the cells of a column.
- **`Registry.follows_allValues`**, **`Registry.follows_numericSpec`**: requests that sort.
-/

namespace Winnow

open Summary CommandLine

/-! ## Sorts that are settled -/

namespace Sorter

/-- A sort does with some cells what the stable one does, where they share a domain. -/
def Settles (sorter : Sorter) (here : Cell → Prop) : Prop :=
  ∀ cells, (∀ cell ∈ cells, here cell) → OneDomain cells →
    sorter.sort cells = Sorter.stable.sort cells

variable {sorter : Sorter} {here : Cell → Prop}

theorem Settles.sortedDistinctBy_eq (h : sorter.Settles here) {cells : List Cell}
    (hcells : ∀ cell ∈ cells, here cell) :
    sortedDistinctBy (sortingOf sorter) cells = (sortedDistinct cells).mapError .error := by
  rw [sortedDistinct_eq]
  unfold sortedDistinctBy
  cases hdomain : requireOneDomain cells with
  | error e => rfl
  | ok =>
    have hsort := h cells hcells (requireOneDomain_eq_ok_iff.mp hdomain)
    have hgiven : (sortingOf sorter).sort cells =
        .ok (cells.mergeSort fun a b => sortOrder a b != .gt) := by
      unfold sortingOf
      dsimp only
      rw [hsort]
      rfl
    rw [hgiven]
    rfl

end Sorter

theorem Summary.mem_of_sortedDistinct {cells values : List Cell}
    (h : sortedDistinct cells = .ok values) : ∀ value ∈ values, value ∈ cells := by
  rw [sortedDistinct_eq] at h
  obtain ⟨_, _, hvalues⟩ := bind_eq_ok_iff.mp h
  obtain rfl := Except.ok.inj hvalues
  exact fun value hvalue =>
    (List.mergeSort_perm cells _).mem_iff.mp ((dropRepeats_sublist _).subset hvalue)

/-! ## Jobs that run as requests of the library -/

namespace Job

variable {α β : Type} {files : Files}

/-- **A job follows a request of the library** on some files: it leaves the same result and the same
    session. The request leaves the files as they are, and what it gives is known. -/
def Follows (job : Job α) (action : Action α) (files : Files) (gives : α → Prop) : Prop :=
  ∀ session, session.files = files →
    job.runOn session = (ofAction action).runOn session ∧
      (action.runOn session).2.files = files ∧ ∀ x, (action.runOn session).1 = .ok x → gives x

theorem follows_ofAction {action : Action α} {gives : α → Prop}
    (h : ∀ session, session.files = files → (action.runOn session).2.files = files ∧
      ∀ x, (action.runOn session).1 = .ok x → gives x) :
    (ofAction action).Follows action files gives :=
  fun session hfiles => ⟨rfl, h session hfiles⟩

theorem follows_ofExcept (result : Except Error α) :
    (Job.ofExcept result).Follows (Action.ofExcept result) files fun x => result = .ok x := by
  refine follows_ofAction fun session hfiles => ?_
  rw [Action.runOn_ofExcept]
  exact ⟨hfiles, fun _ hx => hx⟩

theorem follows_give (result : Except Error α) :
    Follows (Sorting.give (result.mapError Failure.error)) (Action.ofExcept result) files
      fun x => result = .ok x := by
  cases result with
  | ok x => exact follows_ofExcept (.ok x)
  | error e => exact follows_ofExcept (.error e)

theorem follows_throw (e : Error) {gives : α → Prop} :
    Follows (throw (.error e)) (throw e : Action α) files gives :=
  fun _ hfiles => ⟨rfl, hfiles, nofun⟩

theorem follows_pure {x : α} {gives : α → Prop} (h : gives x) :
    Follows (pure x) (pure x : Action α) files gives :=
  fun _ hfiles => ⟨rfl, hfiles, fun _ hx => Except.ok.inj hx ▸ h⟩

theorem Follows.imp {job : Job α} {action : Action α} {gives more : α → Prop}
    (h : job.Follows action files gives) (himp : ∀ x, gives x → more x) :
    job.Follows action files more := by
  intro session hfiles
  obtain ⟨hrun, hkept, hgives⟩ := h session hfiles
  exact ⟨hrun, hkept, fun x hx => himp x (hgives x hx)⟩

theorem Follows.bind {job : Job α} {action : Action α} {gives : α → Prop} {next : α → Job β}
    {later : α → Action β} {more : β → Prop} (h : job.Follows action files gives)
    (hnext : ∀ x, gives x → (next x).Follows (later x) files more) :
    (job >>= next).Follows (action >>= later) files more := by
  intro session hfiles
  obtain ⟨hrun, hkept, hgives⟩ := h session hfiles
  rw [runOn_bind, hrun, runOn_ofAction, runOn_ofAction, Action.runOn_bind]
  rcases hends : action.runOn session with ⟨e | x, after⟩
  · rw [hends] at hkept
    exact ⟨rfl, hkept, nofun⟩
  · rw [hends] at hkept hgives
    exact hnext x (hgives x rfl) after hkept

theorem runOn_adapt (change : Failure → Failure) (job : Job α) (session : Session) :
    runOn (ExceptT.adapt change job) session =
      ((job.runOn session).1.mapError change, (job.runOn session).2) := rfl

theorem Follows.adapt {job : Job α} {action : Action α} {gives : α → Prop} (sorter : Sorter)
    (h : job.Follows action files gives) (change : Error → Error) :
    Follows (ExceptT.adapt ((sortingOf sorter).onError change) job)
      (ExceptT.adapt change action) files gives := by
  intro session hfiles
  obtain ⟨hrun, hkept, hgives⟩ := h session hfiles
  rw [runOn_adapt, hrun, runOn_ofAction, runOn_ofAction, Action.runOn_adapt]
  rcases hends : action.runOn session with ⟨e | x, after⟩
  · rw [hends] at hkept
    exact ⟨rfl, hkept, nofun⟩
  · rw [hends] at hkept hgives
    exact ⟨rfl, hkept, hgives⟩

/-- An error of the library is logged, and a failure stays the result. -/
theorem runOn_logged (sorter : Sorter) (request : Request) (job : Job α) (session : Session) :
    runOn ((sortingOf sorter).logged request job) session =
      match job.runOn session with
      | (.ok x, after) => (.ok x, after)
      | (.error failure, after) =>
        match failure.error? with
        | some e => (.error failure, { after with log := .requestFailed request e :: after.log })
        | none => (.error failure, after) := by
  unfold runOn Sorting.logged
  rw [ExceptT.run_tryCatch, StateT.run_bind]
  rcases job.run.run session with ⟨failure | x, after⟩
  · cases failure <;> rfl
  · rfl

theorem Follows.logged {job : Job α} {action : Action α} {gives : α → Prop} (sorter : Sorter)
    (h : job.Follows action files gives) (request : Request) :
    Follows ((sortingOf sorter).logged request job) (Action.logged request action) files gives := by
  intro session hfiles
  obtain ⟨hrun, hkept, hgives⟩ := h session hfiles
  rw [runOn_logged, hrun, runOn_ofAction, runOn_ofAction, Action.runOn_logged]
  rcases hends : action.runOn session with ⟨e | x, after⟩
  · rw [hends] at hkept
    exact ⟨rfl, hkept, nofun⟩
  · rw [hends] at hkept hgives
    exact ⟨rfl, hkept, hgives⟩

end Job

/-! ## Requests that sort -/

/-- A cell that some tables have in a column, in some batch of their rows. -/
def HasCell (files : Files) (column : String) (found : List (TableKey × Source)) (cell : Cell) :
    Prop :=
  ∃ entry ∈ found, ∃ pull rows row, entry.2.batch files pull = .ok rows ∧ row ∈ rows ∧
    entry.2.schema.cell? column row = some cell

section Requests

open Job

variable {files : Files} {column : String} {found : List (TableKey × Source)} {sorter : Sorter}

theorem follows_rows (source : Source) :
    (Job.ofAction source.rows).Follows source.rows files
      fun rows => ∃ pull, source.batch files pull = .ok rows := by
  refine follows_ofAction fun session hfiles => ?_
  obtain ⟨hresult, -, hkept⟩ := @Source.ends_rows source session
  exact ⟨hkept.trans hfiles, fun rows hrows => ⟨_, hfiles ▸ hresult.symm.trans hrows⟩⟩

theorem Source.follows_allValues (h : sorter.Settles (HasCell files column found))
    {entry : TableKey × Source} (hentry : entry ∈ found) :
    Job.Follows (entry.2.allValuesBy (sortingOf sorter) column) (entry.2.allValues column) files
      fun values => ∀ value ∈ values, HasCell files column found value := by
  rw [Source.allValues_eq]
  unfold Source.allValuesBy
  cases hfind : entry.2.schema.find? column with
  | none => exact follows_throw _
  | some position =>
    obtain ⟨position, declared⟩ := position
    refine (follows_rows entry.2).bind fun rows ⟨pull, hbatch⟩ => ?_
    -- whatever is taken from the rows is in the column
    have hcell : ∀ {cells : List Cell},
        List.Forall₂ (fun row cell => row[position]? = some cell) rows cells →
        ∀ cell ∈ cells, HasCell files column found cell := by
      intro cells hall cell hcell
      obtain ⟨row, hrow, hat⟩ := exists_left_of_forall₂ hall cell hcell
      exact ⟨entry, hentry, pull, rows, row, hbatch, hrow, (Schema.cell?_eq hfind row).trans hat⟩
    have hgiven : distinctValuesBy (sortingOf sorter) rows position =
        (distinctValues rows position).mapError .error := by
      rw [distinctValues_eq]
      unfold distinctValuesBy
      cases hproject : project position 0 [] rows with
      | error e => rfl
      | ok cells =>
        obtain ⟨_, rfl, hall⟩ := project_eq_ok_iff.mp hproject
        exact h.sortedDistinctBy_eq (hcell hall)
    rw [hgiven]
    refine (follows_give _).imp fun values hvalues value hvalue => ?_
    obtain ⟨cells, hall, hdistinct⟩ := distinctValues_eq_ok_iff.mp hvalues
    exact hcell hall value (mem_of_sortedDistinct hdistinct value hvalue)

theorem Source.follows_numericSpec (h : sorter.Settles (HasCell files column found))
    {entry : TableKey × Source} (hentry : entry ∈ found) :
    Job.Follows (entry.2.numericSpecBy (sortingOf sorter) column) (entry.2.numericSpec column) files
      fun _ => True := by
  rw [Source.numericSpec_eq]
  unfold Source.numericSpecBy
  cases entry.2.schema.typeOf? column with
  | none => exact follows_throw _
  | some type =>
    cases type with
    | string | boolean | date | datetime | timeOfDay => exact follows_throw _
    | number =>
      refine ((Source.follows_allValues h hentry).adapt sorter _).bind fun values _ => ?_
      exact (follows_ofExcept _).imp fun _ _ => trivial

theorem follows_valueLists (h : sorter.Settles (HasCell files column found))
    {entries : List (TableKey × Source)} (hentries : ∀ entry ∈ entries, entry ∈ found) :
    Job.Follows (Registry.valueListsBy (sortingOf sorter) column entries)
      (Registry.valueLists column entries) files
      fun lists => ∀ value ∈ lists.flatten, HasCell files column found value := by
  induction entries with
  | nil => exact follows_pure (fun value hvalue => absurd hvalue List.not_mem_nil)
  | cons entry rest ih =>
    obtain ⟨hentry, hrest⟩ := List.forall_mem_cons.mp hentries
    rw [Registry.valueLists_cons]
    refine (Source.follows_allValues h hentry).bind fun values hvalues => ?_
    refine (ih hrest).bind fun others hothers => follows_pure ?_
    rw [List.flatten_cons, List.forall_mem_append]
    exact ⟨hvalues, hothers⟩

theorem follows_mergedSpecs (h : sorter.Settles (HasCell files column found))
    {entries : List (TableKey × Source)} (hentries : ∀ entry ∈ entries, entry ∈ found)
    (held : Option NumericSpec) :
    Job.Follows (Registry.mergedSpecsBy (sortingOf sorter) column held entries)
      (Registry.mergedSpecs column held entries) files fun _ => True := by
  induction entries generalizing held with
  | nil => exact follows_pure trivial
  | cons entry rest ih =>
    obtain ⟨hentry, hrest⟩ := List.forall_mem_cons.mp hentries
    rw [Registry.mergedSpecs_cons]
    exact (Source.follows_numericSpec h hentry).bind fun spec _ => ih hrest _

end Requests

/-! ## Requests of registries -/

namespace Registry

variable {registry : Registry} {files : Files} {column : String} {table dashboard : Option String}
  {sorter : Sorter}

/-- A sort is settled on the cells of a column, in the tables that a request on it consults. -/
def SettledBy (registry : Registry) (sorter : Sorter) (files : Files) (column : String)
    (table dashboard : Option String) : Prop :=
  ∀ found, registry.servers table dashboard = .ok found →
    sorter.Settles (HasCell files column found)

theorem follows_allValues (h : registry.SettledBy sorter files column table dashboard) :
    Job.Follows (registry.allValuesBy (sortingOf sorter) column table dashboard)
      (registry.allValues column table dashboard) files fun _ => True := by
  rw [allValues_eq]
  refine Job.Follows.logged sorter ?_ .allValues
  refine (Job.follows_ofExcept _).bind fun found hfound => ?_
  split
  · exact Job.follows_throw _
  case _ having hhaving =>
    have hsettled := h found hfound
    have hmem : ∀ entry ∈ found.filter fun entry => (entry.2.schema.typeOf? column).isSome,
        entry ∈ found := fun entry hentry => (List.mem_filter.mp hentry).1
    refine (follows_valueLists hsettled hmem).bind fun lists hlists => ?_
    have hmerged : mergeValuesBy (sortingOf sorter) lists = (mergeValues lists).mapError .error :=
      hsettled.sortedDistinctBy_eq hlists
    rw [hmerged]
    exact (Job.follows_give _).imp fun _ _ => trivial

theorem follows_numericSpec (h : registry.SettledBy sorter files column table dashboard) :
    Job.Follows (registry.numericSpecBy (sortingOf sorter) column table dashboard)
      (registry.numericSpec column table dashboard) files fun _ => True := by
  rw [numericSpec_eq]
  refine Job.Follows.logged sorter ?_ .numericSpec
  refine (Job.follows_ofExcept _).bind fun found hfound => ?_
  have hmem : ∀ entry ∈ found.filter fun entry => entry.2.schema.typeOf? column = some .number,
      entry ∈ found := fun entry hentry => (List.mem_filter.mp hentry).1
  refine (follows_mergedSpecs (h found hfound) hmem none).bind fun merged _ => ?_
  cases merged with
  | none => exact Job.follows_throw _
  | some spec => exact Job.follows_pure trivial

end Registry

end Winnow
