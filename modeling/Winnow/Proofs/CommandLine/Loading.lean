import Winnow.Proofs.CommandLine.Jobs

/-!
# `Winnow.Proofs.CommandLine.Loading` — which tables load

Tables are loaded one after the other, each into the registry of those before it and under a number
of its own. Whether a table loads depends on neither: it is a matter of its entry and of the files,
which loading leaves alone. So loading ends with the first fault of an entry, and that of an entry is
the first one of its files.

## Contents
- **`Job.EndsWith`** with **`EndsWith.bind`**, **`ends_foldlM`**: jobs whose fault is known.
- **`openTable_eq_map`**: opening a file under another number.
- **`FileLoads`**, **`FileFails`**, **`EntryLoads`**, **`EntryFails`**, **`LoadFails`**: what loads, and
  how loading fails, told by the files.
- **`fileFault?`**, **`entryFault?`** and what they come to.
- **`register_eq_ok_iff`**, **`register_eq_error_iff`**: loading by entries.
-/

namespace Winnow

/-! ## Jobs whose fault is known -/

namespace Job

variable {α β : Type} {files : Files} {fault fault' : Option Failure}

/-- On some files, whatever else a session holds, a job ends with a fault or has none, and leaves
    the files as they are. -/
def EndsWith (job : Job α) (files : Files) (fault : Option Failure) : Prop :=
  ∀ session, session.files = files →
    fault? (job.runOn session).1 = fault ∧ (job.runOn session).2.files = files

theorem ends_pure (x : α) : (pure x : Job α).EndsWith files none := fun _ h => ⟨rfl, h⟩

theorem ends_throw (failure : Failure) : (throw failure : Job α).EndsWith files (some failure) :=
  fun _ h => ⟨rfl, h⟩

/-- What is read of the session are its files. -/
theorem ends_get_bind {next : Session → Job α}
    (h : ∀ session, session.files = files → (next session).EndsWith files fault) :
    (get >>= next : Job α).EndsWith files fault := by
  intro session hfiles
  rw [runOn_get_bind]
  exact h session hfiles session hfiles

theorem ends_ofAction {action : Action α} {fault : Option Error}
    (h : ∀ session, session.files = files →
      fault? (action.runOn session).1 = fault ∧ (action.runOn session).2.files = files) :
    (ofAction action).EndsWith files (fault.map .error) := by
  intro session hfiles
  obtain ⟨hfault, hafter⟩ := h session hfiles
  rw [runOn_ofAction]
  refine ⟨?_, hafter⟩
  rw [← hfault]
  cases (action.runOn session).1 <;> rfl

theorem ends_ofExcept (result : Except Error α) :
    (ofExcept result).EndsWith files ((fault? result).map .error) := by
  refine ends_ofAction fun session h => ?_
  rw [Action.runOn_ofExcept]
  exact ⟨rfl, h⟩

/-- **One job after another** ends with the first fault of the two. -/
theorem EndsWith.bind {job : Job α} {next : α → Job β} (h : job.EndsWith files fault)
    (hnext : fault = none → ∀ x, (next x).EndsWith files fault') :
    (job >>= next).EndsWith files (fault.or fault') := by
  intro session hfiles
  obtain ⟨hfault, hafter⟩ := h session hfiles
  rw [runOn_bind]
  rcases hrun : job.runOn session with ⟨failure | x, after⟩
  · rw [hrun] at hfault hafter
    rw [← hfault]
    exact ⟨rfl, hafter⟩
  · rw [hrun] at hfault hafter
    rw [← hfault]
    exact hnext hfault.symm x after hafter

theorem EndsWith.bind_of_some {job : Job α} {next : α → Job β} {failure : Failure}
    (h : job.EndsWith files (some failure)) : (job >>= next).EndsWith files (some failure) :=
  @EndsWith.bind α β files (some failure) none job next h fun hnone => by cases hnone

/-- **Jobs over a list** end with the first fault of an element, if that does not depend on what the
    elements before it came to. -/
theorem ends_foldlM {step : β → α → Job β} {fault : α → Option Failure}
    (h : ∀ held x, (step held x).EndsWith files (fault x)) (xs : List α) :
    ∀ held, (xs.foldlM step held).EndsWith files (xs.findSome? fault) := by
  induction xs with
  | nil =>
    intro held
    exact ends_pure held
  | cons x rest ih =>
    intro held
    rw [List.foldlM_cons, findSome?_cons_or]
    exact (h held x).bind fun _ => ih

theorem EndsWith.exists_ok_iff {job : Job α} {session : Session} (h : job.EndsWith session.files fault) :
    (∃ x, (job.runOn session).1 = .ok x) ↔ fault = none := by
  rw [← fault?_eq_none_iff, (h session rfl).1]

end Job

/-! ## Opening a file -/

/-- A table opened under a number. -/
def LoadedTable.withId (id : Nat) (table : LoadedTable) : LoadedTable :=
  { table with source := { table.source with id } }

/-- The number of a source decides nothing about opening its file. -/
theorem openTable_eq_map (id : Nat) (files : Files) (path : String) :
    openTable id files path = (openTable 0 files path).map (·.withId id) := by
  unfold openTable
  split
  · cases readDocument files path <;> rfl
  · unfold Source.openColumns
    cases readColumns files path <;> rfl
  · rfl

namespace CommandLine

open Winnow.Job

/-! ## What loads -/

section Told

variable (files : Files) (entry : TableEntry)

/-- A file of an entry loads: it opens as a table, which has a name. -/
def FileLoads (path : String) : Prop :=
  ∃ table, openTable 0 files path = .ok table ∧ entry.name.getD table.name ≠ ""

/-- **How a file of an entry fails to load.** -/
inductive FileFails (path : String) : Failure → Prop where
  | unopened {e : Error} (refused : openTable 0 files path = .error e) :
      FileFails path (.loading path e)
  | nameless {table : LoadedTable} (opened : openTable 0 files path = .ok table)
      (empty : entry.name.getD table.name = "") :
      FileFails path (.error (.badRequest .tableNameMissing))

/-- An entry loads: its path means files, of which there is at most one if the entry has a name, and
    all of them load. -/
def EntryLoads : Prop :=
  ∃ paths, Discovery.resolve files entry.path = .ok paths ∧
    (entry.name.isSome = true → paths.length ≤ 1) ∧ ∀ path ∈ paths, FileLoads files entry path

/-- **How an entry fails to load**: its path means nothing, or several files under one name, or one
    of the files is the first that does not load. -/
inductive EntryFails : Failure → Prop where
  | unresolved {e : Error} (refused : Discovery.resolve files entry.path = .error e) :
      EntryFails (.error e)
  | nameForMany {paths : List String} (resolved : Discovery.resolve files entry.path = .ok paths)
      (named : entry.name.isSome = true) (many : 1 < paths.length) :
      EntryFails (.error (.config (.nameForMany entry.path paths.length)))
  | file {paths before after : List String} {path : String} {failure : Failure}
      (resolved : Discovery.resolve files entry.path = .ok paths)
      (allowed : entry.name.isSome = true → paths.length ≤ 1)
      (split : paths = before ++ path :: after)
      (clean : ∀ other ∈ before, FileLoads files entry other)
      (fault : FileFails files entry path failure) : EntryFails failure

/-- **How loading fails**: one of the entries is the first that does not load. -/
inductive LoadFails (entries : List TableEntry) : Failure → Prop where
  | entry {before after : List TableEntry} {entry : TableEntry} {failure : Failure}
      (split : entries = before ++ entry :: after)
      (clean : ∀ other ∈ before, EntryLoads files other)
      (fault : EntryFails files entry failure) : LoadFails entries failure

end Told

/-! ## The fault of a file and of an entry -/

section Faults

variable {files : Files} {entry : TableEntry}

/-- The fault with which a file of an entry fails to load. -/
def fileFault? (files : Files) (entry : TableEntry) (path : String) : Option Failure :=
  match openTable 0 files path with
  | .error e => some (.loading path e)
  | .ok table =>
    if entry.name.getD table.name = "" then some (.error (.badRequest .tableNameMissing)) else none

theorem fileFault?_eq_none_iff {path : String} :
    fileFault? files entry path = none ↔ FileLoads files entry path := by
  unfold fileFault? FileLoads
  cases openTable 0 files path <;> simp

/-- The fault with which an entry fails to load. -/
def entryFault? (files : Files) (entry : TableEntry) : Option Failure :=
  match Discovery.resolve files entry.path with
  | .error e => some (.error e)
  | .ok paths =>
    if entry.name.isSome && 1 < paths.length then
      some (.error (.config (.nameForMany entry.path paths.length)))
    else paths.findSome? (fileFault? files entry)

theorem named_iff {paths : List String} :
    ¬ (entry.name.isSome && decide (1 < paths.length)) = true ↔
      (entry.name.isSome = true → paths.length ≤ 1) := by
  rw [Bool.and_eq_true, decide_eq_true_iff, not_and, Nat.not_lt]

theorem entryFault?_eq_none_iff : entryFault? files entry = none ↔ EntryLoads files entry := by
  unfold entryFault? EntryLoads
  cases Discovery.resolve files entry.path with
  | error e => simp
  | ok paths =>
    simp only [Except.ok.injEq, exists_eq_left', ← named_iff, ← fileFault?_eq_none_iff]
    split
    · rename_i hmany
      simp [hmany]
    · rename_i hmany
      simp [hmany]

/-- A table is registered unless its name is empty. -/
theorem ends_register_source (files : Files) (registry : Registry) (name : String) (dashboard : Option String)
    (source : Source) :
    (Job.ofAction (registry.register name dashboard source)).EndsWith files
      (if name = "" then some (.error (.badRequest .tableNameMissing)) else none) := by
  have hname : (if name = "" then some (.error (.badRequest .tableNameMissing)) else none :
      Option Failure) =
      (if name = "" then some (.badRequest .tableNameMissing) else none : Option Error).map
        .error := by
    split <;> rfl
  rw [hname]
  refine ends_ofAction fun session hfiles => ?_
  unfold Registry.register TableKey.make
  split
  · exact ⟨rfl, hfiles⟩
  · exact ⟨rfl, hfiles⟩

theorem ends_registerFile (files : Files) (entry : TableEntry) (loaded : Loaded) (path : String) :
    (registerFile entry loaded path).EndsWith files (fileFault? files entry path) := by
  unfold registerFile fileFault?
  refine ends_get_bind fun session hfiles => ?_
  rw [hfiles, openTable_eq_map]
  cases openTable 0 files path with
  | error e => exact (ends_throw (.loading path e)).bind_of_some
  | ok table =>
    have hregister := ends_register_source files loaded.registry
      (entry.name.getD table.name) entry.dashboard (table.withId loaded.opened).source
    have hlast : ∀ registry, (pure ⟨registry, loaded.opened + 1⟩ : Job Loaded).EndsWith files none :=
      fun _ => ends_pure _
    have hboth := hregister.bind fun _ => hlast
    rw [Option.or_none] at hboth
    simp only [Except.map, pure_bind]
    exact hboth

theorem ends_registerEntry (files : Files) (loaded : Loaded) (entry : TableEntry) :
    (registerEntry loaded entry).EndsWith files (entryFault? files entry) := by
  unfold registerEntry entryFault?
  refine ends_get_bind fun session hfiles => ?_
  rw [hfiles]
  cases Discovery.resolve files entry.path with
  | error e => exact (ends_ofExcept (.error e)).bind_of_some
  | ok paths =>
    have hfold := ends_foldlM (ends_registerFile files entry) paths loaded
    -- whether the warning came first makes no difference to the fault
    have hnamed : ∀ failure : Failure, (if (entry.name.isSome && decide (1 < paths.length)) = true
        then (throw failure : Job PUnit) >>= fun _ => paths.foldlM (registerFile entry) loaded
        else paths.foldlM (registerFile entry) loaded).EndsWith files
          (if (entry.name.isSome && decide (1 < paths.length)) = true then some failure
          else paths.findSome? (fileFault? files entry)) := by
      intro failure
      split
      · exact (ends_throw failure).bind_of_some
      · exact hfold
    have hreport : (Job.ofAction (Action.report (.noTablesMatched entry.path))).EndsWith files
        (none.map Failure.error) := ends_ofAction fun _ h => ⟨rfl, h⟩
    have hpaths : Job.ofExcept (.ok paths) = pure paths := rfl
    rw [hpaths, pure_bind]
    dsimp only
    split
    · exact hreport.bind fun _ _ => hnamed _
    · exact hnamed _

/-- **Loading by entries.** -/
theorem ends_register (files : Files) (entries : List TableEntry) :
    (register entries).EndsWith files (entries.findSome? (entryFault? files)) := by
  have hlast : ∀ loaded : Loaded, (pure loaded.registry : Job Registry).EndsWith files none :=
    fun _ => ends_pure _
  have hboth := (ends_foldlM (ends_registerEntry files) entries {}).bind fun _ => hlast
  rwa [Option.or_none] at hboth

/-- **Tables load** if every entry does. -/
theorem register_eq_ok_iff {entries : List TableEntry} {session : Session} :
    (∃ registry, ((register entries).runOn session).1 = .ok registry) ↔
      ∀ entry ∈ entries, EntryLoads session.files entry := by
  rw [(ends_register session.files entries).exists_ok_iff, List.findSome?_eq_none_iff]
  simp only [entryFault?_eq_none_iff]

end Faults

end CommandLine

end Winnow
