import Winnow.Proofs.Session.Runs

/-!
# `Winnow.Proofs.Session.Pulls` — what a request pulls

Requests leave a trace: the pulls of sources, the latest first. A run is described by its result and
the pulls that it adds. Where requests are put together, the pulls of the first come before those of
the second, and the second is only run, and only pulls, after a first one that did not fail.

## Contents
- **`Ends`**: how a request ends on a session.
- **`ends_ofExcept`**, **`ends_pure`**, **`ends_throw`**, **`ends_report`**: requests that pull
  nothing.
- **`Ends.bind`**, **`Ends.bind_error`**, **`Ends.bind_quiet`**: one request after another;
  **`Ends.of_ok`**, **`Ends.of_error`** if the first one only looks something up.
- **`Ends.adapt`**, **`Ends.logged`**: failures changed or logged.
-/

namespace Winnow.Action

variable {α β : Type} {session : Session}

/-- A request on a session ends in a result after some more pulls, and leaves the files alone. -/
structure Ends (action : Action α) (session : Session) (result : Except Error α)
    (pulled : List Nat) : Prop where
  result : (action.runOn session).1 = result
  pulls : (action.runOn session).2.pulls = pulled ++ session.pulls
  files : (action.runOn session).2.files = session.files

theorem ends_ofExcept (result : Except Error α) : (ofExcept result).Ends session result [] := by
  have hrun := runOn_ofExcept result session
  exact ⟨congrArg Prod.fst hrun, congrArg (·.2.pulls) hrun, congrArg (·.2.files) hrun⟩

theorem ends_pure (x : α) : (pure x : Action α).Ends session (.ok x) [] := ends_ofExcept (.ok x)

theorem ends_throw (e : Error) : (throw e : Action α).Ends session (.error e) [] :=
  ends_ofExcept (.error e)

theorem ends_report (event : Event) : (report event).Ends session (.ok ()) [] := ⟨rfl, rfl, rfl⟩

theorem runOn_bind_of_ok {action : Action α} {x : α} (next : α → Action β)
    (h : (action.runOn session).1 = .ok x) :
    (action >>= next).runOn session = (next x).runOn (action.runOn session).2 := by
  rw [runOn_bind]
  generalize action.runOn session = run at h
  obtain ⟨result, after⟩ := run
  cases h
  rfl

theorem runOn_bind_of_error {action : Action α} {e : Error} (next : α → Action β)
    (h : (action.runOn session).1 = .error e) :
    (action >>= next).runOn session = (.error e, (action.runOn session).2) := by
  rw [runOn_bind]
  generalize action.runOn session = run at h
  obtain ⟨result, after⟩ := run
  cases h
  rfl

/-- After a request with a result comes the next one, on the session that it leaves. -/
theorem Ends.bind {action : Action α} {next : α → Action β} {x : α} {result : Except Error β}
    {pulled later : List Nat} (h : action.Ends session (.ok x) pulled)
    (hnext : (next x).Ends (action.runOn session).2 result later) :
    (action >>= next).Ends session result (later ++ pulled) := by
  have hrun := runOn_bind_of_ok next h.result
  obtain ⟨hresult, hpulls, hfiles⟩ := hnext
  refine ⟨?_, ?_, ?_⟩
  · rw [hrun, hresult]
  · rw [hrun, hpulls, h.pulls, List.append_assoc]
  · rw [hrun, hfiles, h.files]

/-- A request that fails is the end. -/
theorem Ends.bind_error {action : Action α} {next : α → Action β} {e : Error} {pulled : List Nat}
    (h : action.Ends session (.error e) pulled) :
    (action >>= next).Ends session (.error e) pulled := by
  have hrun := runOn_bind_of_error next h.result
  exact ⟨congrArg Prod.fst hrun, (congrArg (·.2.pulls) hrun).trans h.pulls,
    (congrArg (·.2.files) hrun).trans h.files⟩

/-- A value that is there is passed on as it is. -/
theorem Ends.of_ok {x : α} {next : α → Action β} {result : Except Error β} {pulled : List Nat}
    (h : (next x).Ends session result pulled) :
    (ofExcept (.ok x) >>= next).Ends session result pulled := h

/-- A value that is not there is the end. -/
theorem Ends.of_error {e : Error} {next : α → Action β} :
    (ofExcept (.error e) >>= next).Ends session (.error e) [] :=
  (ends_ofExcept (.error e)).bind_error

/-- What follows without a pull of its own only goes on with the result. -/
theorem Ends.bind_quiet {action : Action α} {next : α → Action β} {first : Except Error α}
    {second : α → Except Error β} {pulled : List Nat} (h : action.Ends session first pulled)
    (hnext : ∀ x after, (next x).Ends after (second x) []) :
    (action >>= next).Ends session (first >>= second) pulled := by
  cases first with
  | error e => exact h.bind_error
  | ok x => exact h.bind (hnext x _)

theorem Ends.adapt {action : Action α} {result : Except Error α} {pulled : List Nat}
    (h : action.Ends session result pulled) (change : Error → Error) :
    Ends (ExceptT.adapt change action) session (result.mapError change) pulled :=
  ⟨congrArg (·.mapError change) h.result, h.pulls, h.files⟩

/-- Logging a failure pulls nothing. -/
theorem Ends.logged {action : Action α} {result : Except Error α} {pulled : List Nat}
    (h : action.Ends session result pulled) (request : Request) :
    (logged request action).Ends session result pulled := by
  have hkept :
      ((Action.logged request action).runOn session).2.pulls = (action.runOn session).2.pulls ∧
      ((Action.logged request action).runOn session).2.files = (action.runOn session).2.files := by
    rw [runOn_logged]
    rcases action.runOn session with ⟨_ | _, after⟩ <;> exact ⟨rfl, rfl⟩
  exact ⟨(runOn_logged_fst request action session).trans h.result, hkept.1.trans h.pulls,
    hkept.2.trans h.files⟩

end Winnow.Action
