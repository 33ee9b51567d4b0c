import Winnow.Proofs.Faults
import Winnow.Session

/-!
# `Winnow.Proofs.Session.Runs` — what a request makes of a session

A request is run on a session and leaves one. Each way of putting requests together is described by
one equation on such runs. Most requests do not care what was pulled or logged before, and then
their result is a matter of the files alone.

## Contents
- **`runOn_ofExcept`**, **`runOn_bind`** with **`runOn_bind_eq_ok_iff`**, **`runOn_adapt`**,
  **`runOn_logged`**: runs of composed requests.
- **`Gives`**: a request ends in one result whatever went before, and leaves the files alone.
- **`Gives.bind`**, **`Gives.bind_ok`**, **`Gives.adapt`**, **`Gives.logged`**: results of composed
  requests.
-/

namespace Winnow

/-- A session without files in which nothing was asked yet. -/
def Session.fresh : Session := ⟨⟨.directory [], []⟩, [], []⟩

namespace Action

variable {α β : Type}

/-! ## Runs -/

theorem runOn_ofExcept (result : Except Error α) (session : Session) :
    (ofExcept result).runOn session = (result, session) := by
  cases result <;> rfl

/-- The second request runs on what the first one leaves, unless that fails. -/
theorem runOn_bind (action : Action α) (next : α → Action β) (session : Session) :
    (action >>= next).runOn session =
      match action.runOn session with
      | (.ok x, after) => (next x).runOn after
      | (.error e, after) => (.error e, after) := by
  unfold runOn
  rw [ExceptT.run_bind, StateT.run_bind]
  rcases action.run.run session with ⟨_ | _, after⟩ <;> rfl

/-- Two requests, one after the other, give a result when both do. -/
theorem runOn_bind_eq_ok_iff {action : Action α} {next : α → Action β} {session : Session} {y : β} :
    ((action >>= next).runOn session).1 = .ok y ↔
      ∃ x after, action.runOn session = (.ok x, after) ∧ ((next x).runOn after).1 = .ok y := by
  rw [runOn_bind]
  rcases action.runOn session with ⟨e | x, after⟩
  · constructor
    · intro h
      cases h
    · rintro ⟨_, _, h, _⟩
      cases h
  · constructor
    · intro h
      exact ⟨x, after, rfl, h⟩
    · rintro ⟨_, _, h, hnext⟩
      cases h
      exact hnext

theorem runOn_adapt (change : Error → Error) (action : Action α) (session : Session) :
    runOn (ExceptT.adapt change action) session =
      ((action.runOn session).1.mapError change, (action.runOn session).2) := rfl

/-- A failure is logged and stays the result. -/
theorem runOn_logged (request : Request) (action : Action α) (session : Session) :
    (logged request action).runOn session =
      match action.runOn session with
      | (.ok x, after) => (.ok x, after)
      | (.error e, after) =>
        (.error e, { after with log := .requestFailed request e :: after.log }) := by
  unfold runOn logged
  rw [ExceptT.run_tryCatch, StateT.run_bind]
  rcases action.run.run session with ⟨_ | _, after⟩ <;> rfl

theorem runOn_logged_fst (request : Request) (action : Action α) (session : Session) :
    ((logged request action).runOn session).1 = (action.runOn session).1 := by
  rw [runOn_logged]
  rcases action.runOn session with ⟨_ | _, after⟩ <;> rfl

/-! ## Results that the files decide -/

/-- On some files a request ends in a result, whatever was pulled and logged before, and leaves the
    files as they are. -/
def Gives (action : Action α) (files : Files) (result : Except Error α) : Prop :=
  ∀ session, session.files = files →
    (action.runOn session).1 = result ∧ (action.runOn session).2.files = files

variable {files : Files}

theorem gives_ofExcept (result : Except Error α) : (ofExcept result).Gives files result := by
  intro session hfiles
  rw [runOn_ofExcept]
  exact ⟨rfl, hfiles⟩

theorem gives_pure (x : α) : (pure x : Action α).Gives files (.ok x) := gives_ofExcept (.ok x)

theorem gives_report (event : Event) : (report event).Gives files (.ok ()) :=
  fun _ hfiles => ⟨rfl, hfiles⟩

/-- Two requests, one after the other, give the result of the second on that of the first. -/
theorem Gives.bind {action : Action α} {next : α → Action β} {first : Except Error α}
    {second : α → Except Error β} (h : action.Gives files first)
    (hnext : ∀ x, first = .ok x → (next x).Gives files (second x)) :
    (action >>= next).Gives files (first >>= second) := by
  intro session hfiles
  obtain ⟨hresult, hkept⟩ := h session hfiles
  rw [runOn_bind]
  rcases hrun : action.runOn session with ⟨e | x, after⟩
  · rw [hrun] at hresult hkept
    subst hresult
    exact ⟨rfl, hkept⟩
  · rw [hrun] at hresult hkept
    subst hresult
    exact hnext x rfl after hkept

/-- After a request with a result, the next one is that on this result. -/
theorem Gives.bind_ok {action : Action α} {next : α → Action β} {x : α} {result : Except Error β}
    (h : action.Gives files (.ok x)) (hnext : (next x).Gives files result) :
    (action >>= next).Gives files result := by
  have hboth : (action >>= next).Gives files (Except.ok x >>= fun _ => result) := by
    refine h.bind fun y hy => ?_
    cases hy
    exact hnext
  exact hboth

theorem Gives.adapt {action : Action α} {result : Except Error α} (h : action.Gives files result)
    (change : Error → Error) :
    Gives (ExceptT.adapt change action) files (result.mapError change) := by
  intro session hfiles
  rw [runOn_adapt, (h session hfiles).1]
  exact ⟨rfl, (h session hfiles).2⟩

theorem Gives.logged {action : Action α} {result : Except Error α} (h : action.Gives files result)
    (request : Request) : (logged request action).Gives files result := by
  intro session hfiles
  refine ⟨(runOn_logged_fst request action session).trans (h session hfiles).1, ?_⟩
  have hkept := (h session hfiles).2
  rw [runOn_logged]
  rcases hrun : action.runOn session with ⟨_ | _, after⟩
  · rw [hrun] at hkept
    exact hkept
  · rw [hrun] at hkept
    exact hkept

end Action

end Winnow
