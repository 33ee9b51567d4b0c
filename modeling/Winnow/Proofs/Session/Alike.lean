import Winnow.Proofs.Session.Pulls

/-!
# `Winnow.Proofs.Session.Alike` — requests that go alike

What a request answers may depend on the files and on how often some sources were pulled before. Two
sessions look alike to these sources if they have the same files and as many pulls of each; they may
differ in everything else. Two requests go alike within the sources if, on such sessions, they end
in the same result after the same pulls, and pull no other source.

## Contents
- **`Session.AlikeFor`** with **`AlikeFor.after`**: sessions, and what the same pulls make of them.
- **`GoAlike`**: two requests; **`goAlike_ofExcept`**, **`goAlike_report`**.
- **`GoAlike.bind`**, **`goAlike_bind_ofExcept`**, **`goAlike_mapM`**: one request after another.
- **`GoAlike.adapt`**, **`GoAlike.logged`**: failures changed or logged.
-/

namespace Winnow

/-- Two sessions look alike to some sources, given by their numbers: the files are the same, and
    each of these sources was pulled as often. -/
structure Session.AlikeFor (within : Nat → Prop) (s t : Session) : Prop where
  files : s.files = t.files
  pulls : ∀ id, within id → s.pulls.count id = t.pulls.count id

/-- Sessions that look alike still do after the same pulls. -/
theorem Session.AlikeFor.after {α β : Type} {within : Nat → Prop}
    {action : Action α} {other : Action β} {s t : Session} {x : Except Error α} {y : Except Error β}
    {pulled : List Nat} (h : s.AlikeFor within t)
    (hs : action.Ends s x pulled) (ht : other.Ends t y pulled) :
    (action.runOn s).2.AlikeFor within (other.runOn t).2 where
  files := hs.files.trans (h.files.trans ht.files.symm)
  pulls := by
    intro id hid
    rw [hs.pulls, ht.pulls, List.count_append, List.count_append, h.pulls id hid]

namespace Action

variable {α β : Type} {within : Nat → Prop}

/-- Two requests go alike within some sources: on sessions that look alike to these, both end in the
    same result after the same pulls, and these are pulls of such sources. -/
def GoAlike (within : Nat → Prop) (action other : Action α) : Prop :=
  ∀ s t : Session, s.AlikeFor within t → ∃ result pulled,
    action.Ends s result pulled ∧ other.Ends t result pulled ∧ ∀ id ∈ pulled, within id

/-! ## Requests that pull nothing -/

theorem goAlike_ofExcept (result : Except Error α) :
    GoAlike within (ofExcept result) (ofExcept result) := by
  intro s t _
  have hnone : ∀ id ∈ ([] : List Nat), within id := fun _ h => absurd h List.not_mem_nil
  exact ⟨result, [], ends_ofExcept result, ends_ofExcept result, hnone⟩

theorem goAlike_pure (x : α) : GoAlike within (pure x) (pure x) := goAlike_ofExcept (.ok x)

theorem goAlike_throw (e : Error) : GoAlike within (throw e : Action α) (throw e) :=
  goAlike_ofExcept (.error e)

theorem goAlike_report (event : Event) : GoAlike within (report event) (report event) := by
  intro s t _
  have hnone : ∀ id ∈ ([] : List Nat), within id := fun _ h => absurd h List.not_mem_nil
  exact ⟨.ok (), [], ends_report event, ends_report event, hnone⟩

/-! ## Composed requests -/

/-- Requests that go alike are followed by requests that do. -/
theorem GoAlike.bind {action other : Action α} {next following : α → Action β}
    (h : GoAlike within action other) (hnext : ∀ x, GoAlike within (next x) (following x)) :
    GoAlike within (action >>= next) (other >>= following) := by
  intro s t halike
  obtain ⟨result, pulled, hs, ht, hpulled⟩ := h s t halike
  cases result with
  | error e => exact ⟨.error e, pulled, hs.bind_error, ht.bind_error, hpulled⟩
  | ok x =>
    -- after the same pulls the sessions still look alike, and the next requests start from there
    obtain ⟨last, later, hs', ht', hlater⟩ := hnext x _ _ (halike.after hs ht)
    refine ⟨last, later ++ pulled, hs.bind hs', ht.bind ht', fun id hid => ?_⟩
    exact (List.mem_append.mp hid).elim (hlater id) (hpulled id)

/-- What follows a value only has to go alike if the value is there. -/
theorem goAlike_bind_ofExcept {result : Except Error α} {next following : α → Action β}
    (h : ∀ x, result = .ok x → GoAlike within (next x) (following x)) :
    GoAlike within (ofExcept result >>= next) (ofExcept result >>= following) := by
  cases result with
  | error e => exact goAlike_ofExcept (.error e)
  | ok x => exact h x rfl

theorem goAlike_mapM {query : α → Action β} {xs : List α}
    (h : ∀ x ∈ xs, GoAlike within (query x) (query x)) :
    GoAlike within (xs.mapM query) (xs.mapM query) := by
  induction xs with
  | nil => exact goAlike_pure []
  | cons x rest ih =>
    obtain ⟨hfirst, hrest⟩ := List.forall_mem_cons.mp h
    rw [List.mapM_cons]
    exact hfirst.bind fun y => (ih hrest).bind fun ys => goAlike_pure (y :: ys)

theorem GoAlike.adapt {action other : Action α} (h : GoAlike within action other)
    (change : Error → Error) :
    GoAlike within (ExceptT.adapt change action) (ExceptT.adapt change other) := by
  intro s t halike
  obtain ⟨result, pulled, hs, ht, hpulled⟩ := h s t halike
  exact ⟨_, pulled, hs.adapt change, ht.adapt change, hpulled⟩

theorem GoAlike.logged {action other : Action α} (h : GoAlike within action other)
    (request : Request) : GoAlike within (logged request action) (logged request other) := by
  intro s t halike
  obtain ⟨result, pulled, hs, ht, hpulled⟩ := h s t halike
  exact ⟨result, pulled, hs.logged request, ht.logged request, hpulled⟩

end Action

end Winnow
