import Winnow.Proofs.Spec.Nodes

/-!
# `Winnow.Proofs.Spec.Rejection` — failures that lie in the request

A failure tells whose it is: that of the request, or that of the store behind it. Whatever a tree
looks like, reading it as a specification fails by the fault of the request. A run is described by
what it may fail with, and runs that are put together keep to it.

## Contents
- **`Error.IsRejection`**, **`OnlyRejects`**: failures that lie in the request, and runs that have
  no others.
- **`OnlyRejects.bind`**, **`onlyRejects_mapM`**: composed runs.
- **`onlyRejects_checkNode`**, **`onlyRejects_ofJson`**: the reader of specifications.
-/

namespace Winnow

/-- A failure that lies in the request: no failure of the store, and no row of a wrong length. -/
def Error.IsRejection (e : Error) : Prop :=
  e.isClientError = true ∧ ∀ row length column, e ≠ .rowShape row length column

/-- Whenever a run fails, the failure lies in the request. -/
def OnlyRejects {α : Type} (run : Except Error α) : Prop := ∀ e, run = .error e → e.IsRejection

section Runs

variable {α β : Type}

theorem onlyRejects_ok (x : α) : OnlyRejects (.ok x) := nofun

theorem onlyRejects_error {e : Error} (h : e.IsRejection) :
    OnlyRejects (.error e : Except Error α) := by
  rintro _ ⟨⟩
  exact h

theorem OnlyRejects.bind {run : Except Error α} {next : α → Except Error β} (h : OnlyRejects run)
    (hnext : ∀ x, run = .ok x → OnlyRejects (next x)) : OnlyRejects (run >>= next) := by
  cases run with
  | error e => exact onlyRejects_error (h e rfl)
  | ok x => exact hnext x rfl

theorem onlyRejects_mapM {f : α → Except Error β} {xs : List α}
    (h : ∀ x ∈ xs, OnlyRejects (f x)) : OnlyRejects (xs.mapM f) := by
  induction xs with
  | nil => exact onlyRejects_ok []
  | cons x rest ih =>
    obtain ⟨hx, hrest⟩ := List.forall_mem_cons.mp h
    rw [List.mapM_cons]
    exact hx.bind fun _ _ => (ih hrest).bind fun _ _ => onlyRejects_ok _

end Runs

/-! ## Reading specifications -/

namespace Spec

theorem onlyRejects_readOperator (fields : List (String × Json)) :
    OnlyRejects (readOperator fields) := by
  unfold readOperator
  split
  · exact onlyRejects_error ⟨rfl, nofun⟩
  · split
    · exact onlyRejects_ok _
    · exact onlyRejects_error ⟨rfl, nofun⟩
  · exact onlyRejects_error ⟨rfl, nofun⟩

theorem onlyRejects_requireFields (op : Operator) (fields : List (String × Json)) :
    OnlyRejects (requireFields op fields) := by
  unfold requireFields
  split
  · exact onlyRejects_ok _
  · exact onlyRejects_error ⟨rfl, nofun⟩

theorem onlyRejects_readColumn (op : Operator) (column : Json) :
    OnlyRejects (readColumn op column) := by
  unfold readColumn
  split
  · exact onlyRejects_ok _
  · exact onlyRejects_ok _
  · exact onlyRejects_error ⟨rfl, nofun⟩

theorem onlyRejects_readValues (values : Json) : OnlyRejects (readValues values) := by
  unfold readValues
  split
  · split
    · exact onlyRejects_ok _
    · exact onlyRejects_error ⟨rfl, nofun⟩
  · exact onlyRejects_error ⟨rfl, nofun⟩

theorem onlyRejects_readBound (name : String) (bound : Json) :
    OnlyRejects (readBound name bound) := by
  unfold readBound
  split
  · exact onlyRejects_ok _
  · exact onlyRejects_error ⟨rfl, nofun⟩

/-- The local check of a node fails by the fault of the request. -/
theorem onlyRejects_checkNode (fields : List (String × Json)) :
    OnlyRejects (checkNode fields) := by
  unfold checkNode
  refine (onlyRejects_readOperator fields).bind fun op _ => ?_
  refine (onlyRejects_requireFields op fields).bind fun _ _ => ?_
  split
  · -- a combinator
    split
    · exact onlyRejects_ok _
    · exact onlyRejects_error ⟨rfl, nofun⟩
  · -- a leaf
    refine (onlyRejects_readColumn op _).bind fun column _ => ?_
    split
    · exact (onlyRejects_readValues _).bind fun values _ => onlyRejects_ok _
    · refine (onlyRejects_readBound _ _).bind fun max _ => ?_
      exact (onlyRejects_readBound _ _).bind fun min _ => onlyRejects_ok _

/-- **Reading a specification fails by the fault of the request**, whatever the tree. -/
theorem onlyRejects_ofJson (tree : Json) : OnlyRejects (ofJson tree) := by
  induction tree using nodeInduction with
  | other tree h =>
    rw [ofJson_other h]
    exact onlyRejects_error ⟨rfl, nofun⟩
  | node fields ih =>
    rw [ofJson_object]
    refine (onlyRejects_checkNode fields).bind fun head hhead => ?_
    cases checkNode_eq_ok_iff.mp hhead with
    | leaf form => exact onlyRejects_ok _
    | combinator operator arguments =>
      rw [ofArguments_of_lookup arguments]
      exact (onlyRejects_mapM (ih _ arguments)).bind fun _ _ => onlyRejects_ok _

end Spec

end Winnow
