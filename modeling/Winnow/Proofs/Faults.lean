import Mathlib.Data.List.Forall2

/-!
# `Winnow.Proofs.Faults` — the fault that a run ends with

A run either gives a result or ends with one fault, the first in its way. Here both ends are
described for runs that are put together: one run after another, and a run over a list.

## Contents
- **`bind_eq_ok_iff`**, **`bind_pure_eq_ok_iff`**, **`mapM_eq_ok_iff`**: when a composed run gives a
  result; **`bind_eq_error_iff`**: when it fails.
- **`mapM_eq_of_forall₂`**: runs over lists that give the same side by side.
- **`fault?`** with **`fault?_bind`**, **`fault?_mapM`**: the fault of a composed run is the first
  fault of its parts.
-/

namespace Winnow

variable {ε α β : Type}

/-! ## Results -/

/-- Two runs, one after the other, give a result when both do. -/
theorem bind_eq_ok_iff {run : Except ε α} {next : α → Except ε β} {b : β} :
    (run >>= next) = .ok b ↔ ∃ a, run = .ok a ∧ next a = .ok b := by
  cases run with
  | error e =>
    constructor
    · intro h
      cases h
    · rintro ⟨a, ha, -⟩
      cases ha
  | ok a =>
    constructor
    · intro h
      exact ⟨a, rfl, h⟩
    · rintro ⟨a', ha, h⟩
      cases ha
      exact h

/-- Two runs, one after the other, fail when the first one does, or the second on its result. -/
theorem bind_eq_error_iff {run : Except ε α} {next : α → Except ε β} {e : ε} :
    (run >>= next) = .error e ↔ run = .error e ∨ ∃ a, run = .ok a ∧ next a = .error e := by
  cases run with
  | error e' =>
    constructor
    · intro h
      exact Or.inl (congrArg Except.error (Except.error.inj h))
    · rintro (h | ⟨a, ha, -⟩)
      · exact congrArg Except.error (Except.error.inj h)
      · cases ha
  | ok a =>
    constructor
    · intro h
      exact Or.inr ⟨a, rfl, h⟩
    · rintro (h | ⟨a', ha, h⟩)
      · cases h
      · cases ha
        exact h

/-- A last step that cannot fail only changes the result. -/
theorem bind_pure_eq_ok_iff {run : Except ε α} {f : α → β} {b : β} :
    (run >>= fun a => (pure (f a) : Except ε β)) = .ok b ↔ ∃ a, run = .ok a ∧ b = f a := by
  rw [bind_eq_ok_iff]
  refine exists_congr fun a => and_congr_right fun _ => ?_
  constructor
  · intro h
    exact (Except.ok.inj h).symm
  · rintro rfl
    rfl

/-- Of a run with a result, the result is all that is left as an option. -/
theorem toOption_eq_some_iff {run : Except ε α} {a : α} : run.toOption = some a ↔ run = .ok a := by
  cases run with
  | error e => simp [Except.toOption]
  | ok b => simp [Except.toOption]

/-- Changing the faults of a run changes none of its results. -/
theorem mapError_eq_ok_iff {run : Except ε α} {f : ε → ε} {a : α} :
    run.mapError f = .ok a ↔ run = .ok a := by
  cases run with
  | error e => simp [Except.mapError]
  | ok b => simp [Except.mapError]

/-- A run over a list gives the list of the results of its elements. -/
theorem mapM_eq_ok_iff {f : α → Except ε β} {xs : List α} {ys : List β} :
    xs.mapM f = .ok ys ↔ List.Forall₂ (fun x y => f x = .ok y) xs ys := by
  induction xs generalizing ys with
  | nil =>
    rw [List.mapM_nil]
    constructor
    · intro h
      cases h
      exact .nil
    · intro h
      cases h
      rfl
  | cons x rest ih =>
    rw [List.mapM_cons, bind_eq_ok_iff]
    constructor
    · rintro ⟨y, hx, h⟩
      obtain ⟨tail, hrest, h⟩ := bind_eq_ok_iff.mp h
      cases h
      exact .cons hx (ih.mp hrest)
    · intro h
      cases h with
      | cons hx hrest => exact ⟨_, hx, bind_eq_ok_iff.mpr ⟨_, ih.mpr hrest, rfl⟩⟩

/-- Two runs over lists whose elements give the same side by side give the same. -/
theorem mapM_eq_of_forall₂ {γ : Type} {f : α → Except ε β} {g : γ → Except ε β} {xs : List α}
    {ys : List γ} (h : List.Forall₂ (fun x y => f x = g y) xs ys) : xs.mapM f = ys.mapM g := by
  induction h with
  | nil => rfl
  | cons hxy _ ih => rw [List.mapM_cons, List.mapM_cons, hxy, ih]

theorem exists_left_of_forall₂ {R : α → β → Prop} {xs : List α} {ys : List β}
    (h : List.Forall₂ R xs ys) : ∀ y ∈ ys, ∃ x ∈ xs, R x y := by
  induction h with
  | nil =>
    intro y hy
    exact absurd hy List.not_mem_nil
  | cons hxy _ ih =>
    intro y hy
    rcases List.mem_cons.mp hy with rfl | hy
    · exact ⟨_, List.mem_cons_self, hxy⟩
    · obtain ⟨x, hx, hR⟩ := ih y hy
      exact ⟨x, List.mem_cons_of_mem _ hx, hR⟩

theorem exists_right_of_forall₂ {R : α → β → Prop} {xs : List α} {ys : List β}
    (h : List.Forall₂ R xs ys) {i : Nat} {x : α} (hx : xs[i]? = some x) :
    ∃ y, ys[i]? = some y ∧ R x y := by
  obtain ⟨hi, rfl⟩ := List.getElem?_eq_some_iff.mp hx
  have hlength : i < ys.length := h.length_eq ▸ hi
  exact ⟨ys[i], List.getElem?_eq_getElem hlength, h.get hi hlength⟩

/-- Two lists that are related to one list are related to each other, if their elements are. -/
theorem forall₂_of_common {γ : Type} {R : α → β → Prop} {S : α → γ → Prop} {T : β → γ → Prop}
    {xs : List α} {ys : List β} {zs : List γ} (hR : List.Forall₂ R xs ys)
    (hS : List.Forall₂ S xs zs) (h : ∀ x ∈ xs, ∀ y z, R x y → S x z → T y z) :
    List.Forall₂ T ys zs := by
  induction hR generalizing zs with
  | nil =>
    cases hS
    exact .nil
  | cons hxy _ ih =>
    cases hS with
    | cons hxz hrest =>
      obtain ⟨hfirst, h⟩ := List.forall_mem_cons.mp h
      exact .cons (hfirst _ _ hxy hxz) (ih hrest h)

/-- A list is related to some list when each of its elements is related to something. -/
theorem exists_forall₂_iff {R : α → β → Prop} {xs : List α} :
    (∃ ys, List.Forall₂ R xs ys) ↔ ∀ x ∈ xs, ∃ y, R x y := by
  induction xs with
  | nil => exact iff_of_true ⟨[], .nil⟩ fun _ h => absurd h List.not_mem_nil
  | cons x rest ih =>
    rw [List.forall_mem_cons, ← ih]
    constructor
    · rintro ⟨_, h⟩
      cases h with
      | cons hx hrest => exact ⟨⟨_, hx⟩, _, hrest⟩
    · rintro ⟨⟨y, hx⟩, ys, hrest⟩
      exact ⟨y :: ys, .cons hx hrest⟩

/-! ## Faults -/

/-- The fault that a run ends with; a run with a result has none. -/
def fault? : Except ε α → Option ε
  | .ok _ => none
  | .error e => some e

theorem fault?_eq_some_iff {run : Except ε α} {e : ε} : fault? run = some e ↔ run = .error e := by
  cases run with
  | ok a => simp [fault?]
  | error e' => simp [fault?]

theorem fault?_eq_none_iff {run : Except ε α} : fault? run = none ↔ ∃ a, run = .ok a := by
  cases run with
  | ok a => simp [fault?]
  | error e => simp [fault?]

/-- A run with a fault is one without a result. -/
theorem exists_error_iff {run : Except ε α} : (∃ e, run = .error e) ↔ (fault? run).isSome := by
  cases run with
  | ok a => simp [fault?]
  | error e => simp [fault?]

theorem fault?_map (f : α → β) (run : Except ε α) : fault? (run.map f) = fault? run := by
  cases run <;> rfl

/-- **Faults come in the order of the runs.** If the second run, once it is reached, ends with
    `fault` whatever the first result was, both together end with the first fault of the two. -/
theorem fault?_bind {run : Except ε α} {next : α → Except ε β} {fault : Option ε}
    (h : ∀ a, run = .ok a → fault? (next a) = fault) :
    fault? (run >>= next) = (fault? run).or fault := by
  cases run with
  | ok a =>
    show fault? (next a) = fault
    exact h a rfl
  | error e => rfl

/-- A last step that cannot fail adds no fault. -/
theorem fault?_bind_pure (run : Except ε α) (f : α → β) :
    fault? (run >>= fun a => (pure (f a) : Except ε β)) = fault? run := by
  cases run <;> rfl

theorem findSome?_cons_or (f : α → Option β) (x : α) (rest : List α) :
    (x :: rest).findSome? f = (f x).or (rest.findSome? f) := by
  rw [List.findSome?_cons]
  cases f x <;> rfl

theorem findSome?_flatMap (f : β → Option ε) (g : α → List β) (xs : List α) :
    (xs.flatMap g).findSome? f = xs.findSome? fun x => (g x).findSome? f := by
  induction xs with
  | nil => rfl
  | cons x rest ih => rw [List.flatMap_cons, List.findSome?_append, ih, findSome?_cons_or]

theorem findSome?_congr {f g : α → Option β} {xs : List α} (h : ∀ x ∈ xs, f x = g x) :
    xs.findSome? f = xs.findSome? g := by
  induction xs with
  | nil => rfl
  | cons x rest ih =>
    obtain ⟨hx, hrest⟩ := List.forall_mem_cons.mp h
    rw [findSome?_cons_or, findSome?_cons_or, hx, ih hrest]

/-- A run over a list ends with the first fault of an element. -/
theorem fault?_mapM (f : α → Except ε β) (xs : List α) :
    fault? (xs.mapM f) = xs.findSome? fun x => fault? (f x) := by
  induction xs with
  | nil => rfl
  | cons x rest ih =>
    -- what follows the first element ends with the fault of the rest, whatever the element gives
    have htail : ∀ y, fault? (rest.mapM f >>= fun ys => (pure (y :: ys) : Except ε (List β))) =
        rest.findSome? fun x => fault? (f x) := by
      intro y
      rw [fault?_bind_pure, ih]
    rw [List.mapM_cons, fault?_bind fun y _ => htail y, findSome?_cons_or]

end Winnow
