import Mathlib.Data.List.Basic
import Winnow.Proofs.Cell.Order

/-!
# `Winnow.Proofs.Cell.Stable` — stable sorting by places

Sorting is stable: among things of one place it keeps the order in which they came. So a sorted list
is determined by its fibres, the things of each place in their order, and these sorting leaves
alone. It follows that sorting commutes with every filter, and that the head of a sorted list is the
first of the least things, which can be found part by part.

## Contents
- **`Sorted`**, **`sortBy`**: sorting by places.
- **`fibre`**, **`eq_of_fibres`**: sorted lists of the same fibres are equal.
- **`fibre_sortBy`**, **`filter_sortBy`**: stability, and filters in general.
- **`least?`** with **`least?_of_same`**, **`least?_le`**, **`least?_append`**, **`least?_flatten`**:
  the first of the least things.
-/

namespace Winnow.Place

theorem le_self (a : Place) : a.le a = true := by
  rw [le, order_self]
  rfl

theorem eq_of_le_of_le {a b : Place} (hab : a.le b = true) (hba : b.le a = true) : a = b := by
  rw [le] at hab hba
  rw [order_swap b a] at hba
  have horder : order a b = .eq := by
    cases horder : order a b with
    | eq => rfl
    | lt => rw [horder] at hba; cases hba
    | gt => rw [horder] at hab; cases hab
  exact Std.LawfulEqCmp.eq_of_compare horder

variable {α : Type} {p : α → Place}

/-- Things stand in the order of their places. -/
def Sorted (p : α → Place) (xs : List α) : Prop := xs.Pairwise fun a b => (p a).le (p b) = true

/-- Things sorted by their places. -/
def sortBy (p : α → Place) (xs : List α) : List α := xs.mergeSort fun a b => (p a).le (p b)

theorem mem_sortBy {a : α} {xs : List α} : a ∈ sortBy p xs ↔ a ∈ xs := List.mem_mergeSort

theorem sorted_sortBy (p : α → Place) (xs : List α) : Sorted p (sortBy p xs) :=
  List.pairwise_mergeSort (fun a b c => le_trans (p a) (p b) (p c))
    (fun a b => le_total (p a) (p b)) xs

/-! ## Fibres -/

/-- The things of a place, in their order. -/
def fibre (p : α → Place) (k : Place) (xs : List α) : List α := xs.filter fun a => p a = k

theorem mem_fibre {k : Place} {a : α} {xs : List α} : a ∈ fibre p k xs ↔ a ∈ xs ∧ p a = k := by
  rw [fibre, List.mem_filter, decide_eq_true_iff]

theorem fibre_cons_of_eq {k : Place} {a : α} (h : p a = k) (xs : List α) :
    fibre p k (a :: xs) = a :: fibre p k xs :=
  List.filter_cons_of_pos (decide_eq_true h)

theorem fibre_cons_of_ne {k : Place} {a : α} (h : p a ≠ k) (xs : List α) :
    fibre p k (a :: xs) = fibre p k xs :=
  List.filter_cons_of_neg fun hk => h (of_decide_eq_true hk)

theorem mem_of_fibres {xs ys : List α} (h : ∀ k, fibre p k xs = fibre p k ys) {a : α}
    (ha : a ∈ xs) : a ∈ ys := by
  have hmem : a ∈ fibre p (p a) xs := mem_fibre.mpr ⟨ha, rfl⟩
  rw [h] at hmem
  exact (mem_fibre.mp hmem).1

/-- **Sorted lists of the same fibres are equal.** -/
theorem eq_of_fibres {xs : List α} : ∀ {ys : List α}, Sorted p xs → Sorted p ys →
    (∀ k, fibre p k xs = fibre p k ys) → xs = ys := by
  induction xs with
  | nil =>
    intro ys _ _ h
    refine (List.eq_nil_iff_forall_not_mem.mpr fun y hy => ?_).symm
    exact List.not_mem_nil (mem_of_fibres (fun k => (h k).symm) hy)
  | cons x xs ih =>
    intro ys hxs hys h
    cases ys with
    | nil => exact absurd (mem_of_fibres h List.mem_cons_self) List.not_mem_nil
    | cons y ys =>
      obtain ⟨hleast, hxtail⟩ := List.pairwise_cons.mp hxs
      obtain ⟨hleast', hytail⟩ := List.pairwise_cons.mp hys
      -- each list has the head of the other one, so that neither head is below the other
      have hplace : p y = p x := by
        have hy := mem_of_fibres (fun k => (h k).symm) (List.mem_cons_self : y ∈ y :: ys)
        rcases List.mem_cons.mp hy with rfl | hy
        · rfl
        · rcases List.mem_cons.mp (mem_of_fibres h List.mem_cons_self) with rfl | hx
          · rfl
          · exact eq_of_le_of_le (hleast' x hx) (hleast y hy)
      have hheads := h (p x)
      rw [fibre_cons_of_eq rfl, fibre_cons_of_eq hplace] at hheads
      obtain ⟨rfl, _⟩ := List.cons.inj hheads
      refine congrArg (x :: ·) (ih hxtail hytail fun k => ?_)
      have hk := h k
      by_cases hx : p x = k
      · rw [fibre_cons_of_eq hx, fibre_cons_of_eq hx] at hk
        exact (List.cons.inj hk).2
      · rwa [fibre_cons_of_ne hx, fibre_cons_of_ne hx] at hk

/-- **Sorting is stable.** -/
theorem fibre_sortBy (xs : List α) (k : Place) : fibre p k (sortBy p xs) = fibre p k xs := by
  have hsame : ∀ a ∈ fibre p k xs, p a = k := fun a ha => (mem_fibre.mp ha).2
  have hsorted : (fibre p k xs).Pairwise fun a b => (p a).le (p b) = true :=
    List.pairwise_of_forall_mem_list fun a ha b hb => by rw [hsame a ha, hsame b hb, le_self]
  have hsub : (fibre p k xs).Sublist (sortBy p xs) :=
    List.sublist_mergeSort (fun a b c => le_trans (p a) (p b) (p c))
      (fun a b => le_total (p a) (p b)) hsorted List.filter_sublist
  have hfibre : (fibre p k (fibre p k xs)).Sublist (fibre p k (sortBy p xs)) := hsub.filter _
  have hagain : fibre p k (fibre p k xs) = fibre p k xs :=
    List.filter_eq_self.mpr fun a ha => decide_eq_true (hsame a ha)
  rw [hagain] at hfibre
  exact (hfibre.eq_of_length ((List.mergeSort_perm xs _).filter _).length_eq.symm).symm

/-- Sorting commutes with filters. -/
theorem filter_sortBy (xs : List α) (keep : α → Bool) :
    (sortBy p xs).filter keep = sortBy p (xs.filter keep) := by
  refine eq_of_fibres ((sorted_sortBy p xs).sublist List.filter_sublist)
    (sorted_sortBy p _) fun k => ?_
  rw [fibre_sortBy, fibre, fibre, List.filter_comm]
  exact (congrArg (List.filter keep) (fibre_sortBy xs k)).trans (List.filter_comm _ _ _)

/-- Things of one place stay as they are. -/
theorem sortBy_of_same {xs : List α} {k : Place} (h : ∀ a ∈ xs, p a = k) : sortBy p xs = xs :=
  List.mergeSort_of_pairwise (List.pairwise_of_forall_mem_list fun a ha b hb => by
    rw [h a ha, h b hb, le_self])

/-! ## The first of the least things -/

/-- The one of a lower place, or else the first one. -/
def lower (p : α → Place) : Option α → Option α → Option α
  | none, b => b
  | a, none => a
  | some a, some b => if (p a).le (p b) then some a else some b

theorem lower_none (a : Option α) : lower p a none = a := by cases a <;> rfl

theorem lower_assoc (a b c : Option α) :
    lower p (lower p a b) c = lower p a (lower p b c) := by
  cases a with
  | none => rfl
  | some a =>
    cases b with
    | none => rfl
    | some b =>
      cases c with
      | none => rw [lower_none, lower_none]
      | some c =>
        simp only [lower]
        by_cases hab : (p a).le (p b) = true <;> by_cases hbc : (p b).le (p c) = true
        · simp [hab, hbc, le_trans _ _ _ hab hbc]
        · simp [hab, hbc]
        · simp [hab, hbc]
        · have hcb : (p c).le (p b) = true := by simpa [hbc] using le_total (p b) (p c)
          have hac : ¬ (p a).le (p c) = true := fun hac => hab (le_trans _ _ _ hac hcb)
          simp [hab, hbc, hac]

/-- The first of the things of the least place. -/
def least? (p : α → Place) (xs : List α) : Option α := (sortBy p xs).head?

/-- Of things of one place it is the first one. -/
theorem least?_of_same {xs : List α} {k : Place} (h : ∀ a ∈ xs, p a = k) :
    least? p xs = xs.head? := by
  rw [least?, sortBy_of_same h]

theorem mem_of_least? {xs : List α} {a : α} (h : least? p xs = some a) : a ∈ xs :=
  mem_sortBy.mp (List.mem_of_mem_head? h)

theorem least?_le {xs : List α} {a : α} (h : least? p xs = some a) :
    ∀ b ∈ xs, (p a).le (p b) = true := by
  intro b hb
  obtain ⟨rest, hsort⟩ := List.head?_eq_some_iff.mp h
  have hsorted := sorted_sortBy p xs
  rw [Sorted, hsort] at hsorted
  rw [← mem_sortBy, hsort] at hb
  rcases List.mem_cons.mp hb with rfl | hb
  · exact le_self (p b)
  · exact (List.pairwise_cons.mp hsorted).1 b hb

theorem least?_eq_none_iff {xs : List α} : least? p xs = none ↔ xs = [] := by
  rw [least?, List.head?_eq_none_iff, sortBy, ← List.length_eq_zero_iff, List.length_mergeSort,
    List.length_eq_zero_iff]

theorem exists_least? {xs : List α} {a : α} (h : a ∈ xs) : ∃ b, least? p xs = some b :=
  Option.ne_none_iff_exists'.mp fun hnone => List.ne_nil_of_mem h (least?_eq_none_iff.mp hnone)

theorem least?_cons (x : α) (xs : List α) :
    least? p (x :: xs) = lower p (some x) (least? p xs) := by
  obtain ⟨below, others, hcons, htail, hbelow⟩ :=
    List.mergeSort_cons (fun a b c => le_trans (p a) (p b) (p c))
      (fun a b => le_total (p a) (p b)) x xs
  have hsorted := sorted_sortBy p (x :: xs)
  unfold least? sortBy
  rw [sortBy, hcons] at hsorted
  rw [hcons, htail]
  cases below with
  | nil =>
    cases others with
    | nil => rfl
    | cons y others =>
      have hxy := (List.pairwise_cons.mp hsorted).1 y List.mem_cons_self
      show some x = if (p x).le (p y) then some x else some y
      rw [if_pos hxy]
  | cons y below =>
    have hyx := hbelow y List.mem_cons_self
    show some y = if (p x).le (p y) then some x else some y
    rw [if_neg (by simpa using hyx)]

theorem least?_append (xs ys : List α) :
    least? p (xs ++ ys) = lower p (least? p xs) (least? p ys) := by
  induction xs with
  | nil =>
    rw [least?, sortBy, List.nil_append]
    simp [least?, sortBy, lower]
  | cons x xs ih => rw [List.cons_append, least?_cons, ih, ← lower_assoc, ← least?_cons]

/-- The first of the least things is found among those of the parts. -/
theorem least?_flatten (lists : List (List α)) :
    least? p (lists.map fun xs => (least? p xs).toList).flatten = least? p lists.flatten := by
  induction lists with
  | nil => rfl
  | cons xs rest ih =>
    have hone : ∀ a : Option α, least? p a.toList = a := by
      intro a
      cases a <;> simp [least?, sortBy]
    rw [List.map_cons, List.flatten_cons, least?_append, ih, hone, List.flatten_cons, least?_append]

end Winnow.Place
