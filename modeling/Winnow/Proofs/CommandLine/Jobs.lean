import Winnow.CommandLine.Run
import Winnow.Proofs.Session.Pulls

/-!
# `Winnow.Proofs.CommandLine.Jobs` — the program as a run on a session

The program loads its tables and then answers one command on the session that loading leaves. What
is loaded does not depend on the command, and loading reads files but changes none and pulls no
rows. So two commands under the same options are answered from the same tables, on the same session.

## Contents
- **`Job.runOn`**, **`Job.runOn_bind`**, **`Job.runOn_ofAction`**: runs of jobs.
- **`Job.Quiet`**: jobs that leave the files alone and pull nothing; **`quiet_register`**.
- **`Loads`**: the tables that an invocation loads, and the session after that.
- **`Loads.run_eq`**: the outcome of an invocation from the run of its command.
-/

namespace Winnow

/-! ## Runs of jobs -/

namespace Job

variable {α β : Type}

/-- The result of a job on a session and the session that it leaves. -/
def runOn (job : Job α) (session : Session) : Except Failure α × Session :=
  job.run.run session

/-- The second job runs on what the first one leaves, unless that fails. -/
theorem runOn_bind (job : Job α) (next : α → Job β) (session : Session) :
    (job >>= next).runOn session =
      match job.runOn session with
      | (.ok x, after) => (next x).runOn after
      | (.error failure, after) => (.error failure, after) := by
  unfold runOn
  rw [ExceptT.run_bind, StateT.run_bind]
  rcases job.run.run session with ⟨_ | _, after⟩ <;> rfl

theorem runOn_bind_of_ok {job : Job α} {next : α → Job β} {session after : Session} {x : α}
    (h : job.runOn session = (.ok x, after)) :
    (job >>= next).runOn session = (next x).runOn after := by
  rw [runOn_bind, h]

/-- What a job reads of the session is the session it runs on. -/
theorem runOn_get_bind (next : Session → Job α) (session : Session) :
    (get >>= next : Job α).runOn session = (next session).runOn session :=
  runOn_bind_of_ok rfl

theorem runOn_ofAction (action : Action α) (session : Session) :
    (ofAction action).runOn session =
      ((action.runOn session).1.mapError Failure.error, (action.runOn session).2) := rfl

theorem runOn_ofExcept (result : Except Error α) (session : Session) :
    (ofExcept result).runOn session = (result.mapError Failure.error, session) := by
  rw [ofExcept, runOn_ofAction, Action.runOn_ofExcept]

/-! ## Jobs that leave things as they are -/

/-- A job that leaves the files alone and pulls nothing, whether it fails or not. -/
def Quiet (job : Job α) : Prop :=
  ∀ session, (job.runOn session).2.files = session.files ∧
    (job.runOn session).2.pulls = session.pulls

theorem quiet_pure (x : α) : (pure x : Job α).Quiet := fun _ => ⟨rfl, rfl⟩

theorem quiet_throw (failure : Failure) : (throw failure : Job α).Quiet := fun _ => ⟨rfl, rfl⟩

theorem quiet_get : (get : Job Session).Quiet := fun _ => ⟨rfl, rfl⟩

theorem quiet_ofAction {action : Action α}
    (h : ∀ session, ∃ result, action.Ends session result []) : (ofAction action).Quiet := by
  intro session
  obtain ⟨result, hends⟩ := h session
  exact ⟨hends.files, hends.pulls⟩

theorem quiet_ofExcept (result : Except Error α) : (ofExcept result).Quiet :=
  quiet_ofAction fun _ => ⟨result, Action.ends_ofExcept result⟩

theorem Quiet.bind {job : Job α} {next : α → Job β} (h : job.Quiet)
    (hnext : ∀ x, (next x).Quiet) : (job >>= next).Quiet := by
  intro session
  obtain ⟨hfiles, hpulls⟩ := h session
  rw [runOn_bind]
  rcases hrun : job.runOn session with ⟨failure | x, after⟩
  · rw [hrun] at hfiles hpulls
    exact ⟨hfiles, hpulls⟩
  · rw [hrun] at hfiles hpulls
    obtain ⟨hfiles', hpulls'⟩ := hnext x after
    exact ⟨hfiles'.trans hfiles, hpulls'.trans hpulls⟩

theorem quiet_foldlM {step : β → α → Job β} (h : ∀ held x, (step held x).Quiet) (xs : List α) :
    ∀ held, (xs.foldlM step held).Quiet := by
  induction xs with
  | nil =>
    intro held
    exact quiet_pure held
  | cons x rest ih =>
    intro held
    rw [List.foldlM_cons]
    exact (h held x).bind ih

end Job

/-! ## Loading tables -/

namespace CommandLine

open Winnow.Job

/-- Registering a table only adds a line to the log. -/
theorem quiet_register_source (registry : Registry) (name : String) (dashboard : Option String)
    (source : Source) : (Job.ofAction (registry.register name dashboard source)).Quiet := by
  refine quiet_ofAction fun session => ?_
  unfold Registry.register
  cases TableKey.make name dashboard with
  | error e => exact ⟨_, Action.Ends.of_error⟩
  | ok key => exact ⟨.ok (registry.insert key source), rfl, rfl, rfl⟩

theorem quiet_registerFile (entry : TableEntry) (loaded : Loaded) (path : String) :
    (registerFile entry loaded path).Quiet := by
  have hregister : ∀ table : LoadedTable, Quiet do
      let registry ← Job.ofAction
        (loaded.registry.register (entry.name.getD table.name) entry.dashboard table.source)
      return (⟨registry, loaded.opened + 1⟩ : Loaded) :=
    fun table => (quiet_register_source _ _ _ _).bind fun registry => quiet_pure _
  unfold registerFile
  refine quiet_get.bind fun session => ?_
  dsimp only
  split
  · exact (quiet_pure _).bind hregister
  · exact (quiet_throw _).bind hregister

theorem quiet_registerEntry (loaded : Loaded) (entry : TableEntry) :
    (registerEntry loaded entry).Quiet := by
  unfold registerEntry
  refine quiet_get.bind fun session => ?_
  refine (quiet_ofExcept _).bind fun paths => ?_
  have hfiles : (paths.foldlM (registerFile entry) loaded).Quiet :=
    quiet_foldlM (quiet_registerFile entry) paths loaded
  -- a name for several files is refused, after the report on an entry without files
  have hnamed : ∀ fault : Failure, (if (entry.name.isSome && decide (1 < paths.length)) = true then
      (throw fault : Job PUnit) >>= fun _ => paths.foldlM (registerFile entry) loaded
      else paths.foldlM (registerFile entry) loaded).Quiet := by
    intro fault
    split
    · exact (quiet_throw fault).bind fun _ => hfiles
    · exact hfiles
  dsimp only
  split
  · exact (quiet_ofAction fun _ => ⟨_, Action.ends_report _⟩).bind fun _ => hnamed _
  · exact hnamed _

/-- **Loading tables leaves the files alone and pulls nothing.** -/
theorem quiet_register (entries : List TableEntry) : (register entries).Quiet :=
  (quiet_foldlM quiet_registerEntry entries _).bind fun _ => quiet_pure _

/-! ## Invocations -/

/-- An invocation finds its configuration and loads its tables, which leaves a session. -/
structure Loads (around : Surroundings) (asked : Invocation) (config : Config)
    (registry : Registry) (session : Session) : Prop where
  configured : configOf around asked = .ok config
  registered : (register (entries config asked)).runOn { files := around.files } =
    (.ok registry, session)

section Invocations

variable {around : Surroundings} {asked : Invocation} {config : Config} {registry : Registry}
  {session after : Session}

/-- What is loaded does not depend on the command. -/
theorem Loads.withCommand (h : Loads around asked config registry session) (command : Command) :
    Loads around { asked with command } config registry session :=
  ⟨h.configured, h.registered⟩

theorem Loads.files (h : Loads around asked config registry session) :
    session.files = around.files := by
  have hquiet := quiet_register (entries config asked) { files := around.files }
  rw [h.registered] at hquiet
  exact hquiet.1

theorem Loads.pulls (h : Loads around asked config registry session) : session.pulls = [] := by
  have hquiet := quiet_register (entries config asked) { files := around.files }
  rw [h.registered] at hquiet
  exact hquiet.2

/-- The messages before the end of the program: complaints about the log filter, and the lines of
    the log that it allows. -/
def notices (around : Surroundings) (config : Config) (session : Session) : List String :=
  (logFilter around config).2 ++
    (session.log.reverse.filter (logFilter around config).1.allows).map Event.line

/-- The command is answered from the tables loaded. -/
theorem Loads.run_eq (h : Loads around asked config registry session)
    (sorter : Sorter) :
    run around asked sorter =
      match (answer registry asked.command sorter).runOn session with
      | (.ok found, after) =>
        ⟨0, [found.text (asked.pretty || config.pretty)], notices around config after⟩
      | (.error failure, after) =>
        ⟨failure.status, [], notices around config after ++ [failure.text]⟩ := by
  have hjob : (do answer (← register (entries config asked)) asked.command sorter :
      Job Answer).runOn { files := around.files } =
        (answer registry asked.command sorter).runOn session :=
    runOn_bind_of_ok h.registered
  unfold run
  rw [h.configured]
  dsimp only
  unfold runOn at hjob ⊢
  rw [hjob]
  rcases (answer registry asked.command sorter).run.run session with ⟨_ | _, after⟩ <;> rfl

end Invocations

end CommandLine

end Winnow
