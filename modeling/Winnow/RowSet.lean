import Winnow.Error
import Winnow.RowSet.Bounds

/-!
# `Winnow.RowSet` — sets of row positions

A set of positions is held by its boundaries: the ascending positions at which membership changes.
Long runs cost two numbers, and since no boundary is redundant, a set has one representation only.

## Contents
- **`RowSet`**, **`rowId`**, **`contains`**, **`positions`**, **`runs`**, **`size`**.
- **`union`**, **`intersect`**, **`difference`**, **`insert`**, **`ofList`**, **`ofFlags`**,
  **`full?`**.
- **`keep`**: the elements of a list at the positions of a set.
-/

namespace Winnow

/-- A set of row positions, as the ascending positions at which membership changes. Behind the last
    of them nothing is in the set. -/
structure RowSet where
  bounds : List Nat
  ascending : bounds.Pairwise (· < ·)
  even : RowSet.Bounds.odd bounds.length = false
  deriving DecidableEq

namespace RowSet

/-- The set without positions. -/
def empty : RowSet := ⟨[], List.Pairwise.nil, rfl⟩

/-- The positions from `first` up to but not including `stop`. -/
def interval (first stop : Nat) : RowSet :=
  if h : first < stop then ⟨[first, stop], by simpa using h, by simp [Bounds.odd]⟩ else empty

/-- The position of a row in a set, which is a 32-bit word. -/
def rowId (position : Nat) : Except Error Nat :=
  if position ≤ maxRowId then .ok position else .error (.badRequest .tooManyRows)

/-- Every position below `length`; the length is subject to the bound of positions. -/
def full? (length : Nat) : Except Error RowSet := do
  let stop ← rowId length
  return interval 0 stop

/-- The positions of the flags that are set. -/
def ofFlags (flags : List Bool) : RowSet :=
  ⟨Bounds.ofFlags flags, Bounds.ofFlags_ascending flags, Bounds.ofFlags_even flags⟩

/-- A position is in the set when an odd number of boundaries lies at or below it. -/
def contains (s : RowSet) (row : Nat) : Bool := Bounds.odd (s.bounds.countP (· ≤ row))

/-! ## Boolean operations -/

/-- The set whose membership is `op` of the memberships in two sets, for an `op` that keeps outside
    what is outside of both. -/
def combine (op : Bool → Bool → Bool) (outside : op false false = false) (s t : RowSet) : RowSet :=
  ⟨Bounds.combine op s.bounds t.bounds, Bounds.combine_ascending op s.ascending t.ascending,
    Bounds.combine_even outside s.even t.even⟩

/-- The positions in both sets. -/
def intersect (s t : RowSet) : RowSet := combine (fun a b => a && b) rfl s t

/-- The positions in at least one of the sets. -/
def union (s t : RowSet) : RowSet := combine (fun a b => a || b) rfl s t

/-- The positions in the first set that are not in the second. -/
def difference (s t : RowSet) : RowSet := combine (fun a b => a && !b) rfl s t

/-- The set with one more position. -/
def insert (s : RowSet) (row : Nat) : RowSet := union s (interval row (row + 1))

/-- The set of positions in any order. -/
def ofList (rows : List Nat) : RowSet := rows.foldl insert empty

/-! ## Views -/

/-- The runs of neighbouring positions, ascending, each by its first and last position. -/
def runs (s : RowSet) : List (Nat × Nat) := go [] s.bounds
where
  go (found : List (Nat × Nat)) : List Nat → List (Nat × Nat)
    | first :: stop :: rest => go ((first, stop - 1) :: found) rest
    | _ => found.reverse

/-- The number of positions. -/
def size (s : RowSet) : Nat := s.runs.foldl (fun total run => total + (run.2 + 1 - run.1)) 0

/-- Whether the set has no position. -/
def isEmpty (s : RowSet) : Bool := s.bounds.isEmpty

/-- The positions, ascending. -/
def positions (s : RowSet) : List Nat :=
  s.runs.flatMap fun run => List.range' run.1 (run.2 + 1 - run.1)

/-- The elements of a list at the positions of a set, in one pass: `position` is that of the first
    element left, and `inside` tells whether the boundaries passed leave it in the set. -/
def keepFrom {α : Type} (position : Nat) (inside : Bool) (bounds : List Nat) (kept : List α) :
    List α → List α
  | [] => kept.reverse
  | x :: rest =>
    let (inside, bounds) := Bounds.cross position inside bounds
    keepFrom (position + 1) inside bounds (if inside then x :: kept else kept) rest

/-- The elements of a list at the positions of a set, in order. -/
def keep {α : Type} (s : RowSet) (xs : List α) : List α := keepFrom 0 false s.bounds [] xs

end RowSet

end Winnow
