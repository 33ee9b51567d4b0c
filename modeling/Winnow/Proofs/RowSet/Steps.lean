import Mathlib.Data.Finset.Card
import Mathlib.Data.Finset.Range
import Mathlib.Data.List.Induction
import Winnow.RowSet.Lemmas

/-!
# `Winnow.Proofs.RowSet.Steps` — row sets and the sets they stand for

Row sets are made and combined step by step, each under a name. Beside them the same steps are taken
on finite sets of numbers, where they are the operations of set theory. One step keeps the two
alike, and so does every run: what a row set lists, counts and equals can be told from the members
that it stands for, whatever the steps were that made it.

## Contents
- **`Denotes`** with **`Denotes.insert`**, **`Denotes.union`** and its siblings: a row set and its
  members.
- **`Denotes.mem_positions`**, **`Denotes.size_eq`**, **`Denotes.isEmpty_iff`**, **`Denotes.eq_iff`**:
  what the members decide.
- **`Step`**, **`Step.on`**, **`setsAfter`**: row sets under names; **`Step.onMembers`**,
  **`membersAfter`**: the same steps on finite sets.
- **`denotes_step`**, **`denotes_setsAfter`**, **`setsAfter_members`**.
-/

namespace Winnow.RowSet

/-! ## Members -/

/-- A row set has the members of a finite set. -/
def Denotes (s : RowSet) (members : Finset ℕ) : Prop :=
  ∀ row, s.contains row = true ↔ row ∈ members

theorem denotes_empty : empty.Denotes ∅ := by
  intro row
  rw [contains_empty]
  simp

theorem denotes_interval (length : ℕ) : (interval 0 length).Denotes (Finset.range length) := by
  intro row
  rw [contains_interval, Finset.mem_range]
  simp

theorem denotes_ofList (rows : List ℕ) : (ofList rows).Denotes rows.toFinset := by
  intro row
  rw [contains_ofList, List.mem_toFinset, decide_eq_true_iff]

section Denoted

variable {s t : RowSet} {members others : Finset ℕ}

theorem Denotes.insert (h : s.Denotes members) (new : ℕ) :
    (s.insert new).Denotes (Insert.insert new members) := by
  intro row
  rw [contains_insert, Bool.or_eq_true, decide_eq_true_iff, h row, Finset.mem_insert, or_comm]

theorem Denotes.intersect (h : s.Denotes members) (h' : t.Denotes others) :
    (s.intersect t).Denotes (members ∩ others) := by
  intro row
  rw [contains_intersect, Bool.and_eq_true, h row, h' row, Finset.mem_inter]

theorem Denotes.union (h : s.Denotes members) (h' : t.Denotes others) :
    (s.union t).Denotes (members ∪ others) := by
  intro row
  rw [contains_union, Bool.or_eq_true, h row, h' row, Finset.mem_union]

theorem Denotes.difference (h : s.Denotes members) (h' : t.Denotes others) :
    (s.difference t).Denotes (members \ others) := by
  intro row
  rw [contains_difference, Bool.and_eq_true, Bool.not_eq_true', ← Bool.not_eq_true, h row, h' row,
    Finset.mem_sdiff]

/-! ## What the members decide -/

/-- The positions listed are the members. -/
theorem Denotes.mem_positions (h : s.Denotes members) (row : ℕ) :
    row ∈ s.positions ↔ row ∈ members := by
  rw [RowSet.mem_positions]
  exact h row

/-- The size is the number of members. -/
theorem Denotes.size_eq (h : s.Denotes members) : s.size = members.card := by
  have hlisted : s.positions.toFinset = members := by
    ext row
    rw [List.mem_toFinset]
    exact h.mem_positions row
  have honce : s.positions.Nodup := (positions_ascending s).imp fun hlt => Nat.ne_of_lt hlt
  rw [← length_positions, ← List.toFinset_card_of_nodup honce, hlisted]

/-- Two row sets are equal if they have the same members. -/
theorem Denotes.eq_iff (h : s.Denotes members) (h' : t.Denotes others) :
    s = t ↔ members = others := by
  constructor
  · rintro rfl
    ext row
    exact (h row).symm.trans (h' row)
  · rintro rfl
    refine ext_contains fun row => ?_
    rw [Bool.eq_iff_iff]
    exact (h row).trans (h' row).symm

theorem Denotes.isEmpty_iff (h : s.Denotes members) : s.isEmpty = true ↔ members = ∅ := by
  rw [← h.eq_iff denotes_empty, isEmpty, List.isEmpty_iff]
  constructor
  · intro hbounds
    cases s
    cases hbounds
    rfl
  · rintro rfl
    rfl

end Denoted

/-- There is a set of all positions below a length up to the highest position, and it has exactly
    these members. -/
theorem exists_full?_iff {length : ℕ} :
    (∃ set, full? length = .ok set ∧ set.Denotes (Finset.range length)) ↔ length ≤ maxRowId := by
  constructor
  · rintro ⟨set, hset, _⟩
    by_contra hlong
    rw [full?_of_lt (Nat.lt_of_not_le hlong)] at hset
    cases hset
  · intro hle
    exact ⟨interval 0 length, full?_of_le hle, denotes_interval length⟩

/-! ## Steps -/

/-- A step makes a row set and puts it under a name, in place of the one held there. Positions are
    32-bit words. -/
inductive Step (ν : Type) where
  | new (target : ν)
  | ofList (target : ν) (rows : List UInt32)
  | full (target : ν) (length : ℕ)
  | insert (target : ν) (row : UInt32)
  | intersect (target left right : ν)
  | union (target left right : ν)
  | difference (target left right : ν)
  deriving Repr

namespace Step

variable {ν : Type}

/-- The name whose set a step replaces. -/
def target : Step ν → ν
  | new target | ofList target _ | full target _ | insert target _ => target
  | intersect target _ _ | union target _ _ | difference target _ _ => target

/-- The row set that a step makes. -/
def made (sets : ν → RowSet) : Step ν → Except Error RowSet
  | new _ => .ok .empty
  | ofList _ rows => .ok (.ofList (rows.map UInt32.toNat))
  | full _ length => full? length
  | insert target row => .ok ((sets target).insert row.toNat)
  | intersect _ left right => .ok ((sets left).intersect (sets right))
  | union _ left right => .ok ((sets left).union (sets right))
  | difference _ left right => .ok ((sets left).difference (sets right))

/-- The finite set that a step means, if it means one. -/
def meant (members : ν → Finset ℕ) : Step ν → Option (Finset ℕ)
  | new _ => some ∅
  | ofList _ rows => some (rows.map UInt32.toNat).toFinset
  | full _ length => if length ≤ maxRowId then some (Finset.range length) else none
  | insert target row => some (Insert.insert row.toNat (members target))
  | intersect _ left right => some (members left ∩ members right)
  | union _ left right => some (members left ∪ members right)
  | difference _ left right => some (members left \ members right)

variable [DecidableEq ν]

/-- The row sets after a step. A step that fails changes none. -/
def on (sets : ν → RowSet) (step : Step ν) : ν → RowSet :=
  match step.made sets with
  | .ok set => Function.update sets step.target set
  | .error _ => sets

/-- The finite sets after a step. -/
def onMembers (members : ν → Finset ℕ) (step : Step ν) : ν → Finset ℕ :=
  match step.meant members with
  | some set => Function.update members step.target set
  | none => members

end Step

section Runs

variable {ν : Type}

/-- **What a step makes is what it means**, and a step that means nothing fails, as there is no set
    of so many positions. -/
theorem made_denotes {sets : ν → RowSet} {members : ν → Finset ℕ}
    (h : ∀ name, (sets name).Denotes (members name)) (step : Step ν) :
    (∃ set new, step.made sets = .ok set ∧ step.meant members = some new ∧ set.Denotes new) ∨
      step.made sets = .error (.badRequest .tooManyRows) ∧ step.meant members = none := by
  cases step with
  | new target => exact Or.inl ⟨_, _, rfl, rfl, denotes_empty⟩
  | ofList target rows => exact Or.inl ⟨_, _, rfl, rfl, denotes_ofList _⟩
  | full target length =>
    by_cases hle : length ≤ maxRowId
    · exact Or.inl ⟨_, _, full?_of_le hle, if_pos hle, denotes_interval length⟩
    · exact Or.inr ⟨full?_of_lt (Nat.lt_of_not_le hle), if_neg hle⟩
  | insert target row => exact Or.inl ⟨_, _, rfl, rfl, (h target).insert row.toNat⟩
  | intersect target left right => exact Or.inl ⟨_, _, rfl, rfl, (h left).intersect (h right)⟩
  | union target left right => exact Or.inl ⟨_, _, rfl, rfl, (h left).union (h right)⟩
  | difference target left right => exact Or.inl ⟨_, _, rfl, rfl, (h left).difference (h right)⟩

variable [DecidableEq ν]

/-- The row sets after steps, where all names hold the empty set at first. -/
def setsAfter (steps : List (Step ν)) : ν → RowSet := steps.foldl Step.on fun _ => empty

/-- The finite sets after the same steps. -/
def membersAfter (steps : List (Step ν)) : ν → Finset ℕ := steps.foldl Step.onMembers fun _ => ∅

theorem setsAfter_concat (steps : List (Step ν)) (step : Step ν) :
    setsAfter (steps ++ [step]) = step.on (setsAfter steps) := List.foldl_concat ..

theorem membersAfter_concat (steps : List (Step ν)) (step : Step ν) :
    membersAfter (steps ++ [step]) = step.onMembers (membersAfter steps) := List.foldl_concat ..

/-- **One step** keeps row sets and their members alike. -/
theorem denotes_step {sets : ν → RowSet} {members : ν → Finset ℕ}
    (h : ∀ name, (sets name).Denotes (members name)) (step : Step ν) (name : ν) :
    (step.on sets name).Denotes (step.onMembers members name) := by
  unfold Step.on Step.onMembers
  rcases made_denotes h step with ⟨set, new, hmade, hmeant, hdenotes⟩ | ⟨hmade, hmeant⟩
  · rw [hmade, hmeant]
    show (Function.update sets step.target set name).Denotes
      (Function.update members step.target new name)
    by_cases hname : name = step.target
    · rw [hname, Function.update_self, Function.update_self]
      exact hdenotes
    · rw [Function.update_of_ne hname, Function.update_of_ne hname]
      exact h name
  · rw [hmade, hmeant]
    exact h name

/-- **Every run** does. -/
theorem denotes_setsAfter (steps : List (Step ν)) :
    ∀ name, (setsAfter steps name).Denotes (membersAfter steps name) := by
  induction steps using List.reverseRecOn with
  | nil =>
    intro name
    exact denotes_empty
  | append_singleton steps step ih =>
    rw [setsAfter_concat, membersAfter_concat]
    exact denotes_step ih step

/-- A step leaves the sets of all other names as they are, those that it reads included. -/
theorem on_of_ne (sets : ν → RowSet) {step : Step ν} {name : ν} (h : name ≠ step.target) :
    step.on sets name = sets name := by
  unfold Step.on
  cases step.made sets with
  | ok set => exact Function.update_of_ne h set sets
  | error e => rfl

theorem toNat_le_maxRowId (row : UInt32) : row.toNat ≤ maxRowId :=
  Nat.le_of_lt_succ row.toNat_lt

/-- No step leads beyond the highest position. -/
theorem le_maxRowId_step {members : ν → Finset ℕ}
    (h : ∀ name, ∀ row ∈ members name, row ≤ maxRowId) (step : Step ν) (name : ν) :
    ∀ row ∈ step.onMembers members name, row ≤ maxRowId := by
  have hmeant : ∀ new, step.meant members = some new → ∀ row ∈ new, row ≤ maxRowId := by
    intro new hnew row hrow
    cases step with
    | new target =>
      obtain rfl := Option.some.inj hnew
      exact absurd hrow (Finset.notMem_empty row)
    | ofList target rows =>
      obtain rfl := Option.some.inj hnew
      obtain ⟨word, _, rfl⟩ := List.mem_map.mp (List.mem_toFinset.mp hrow)
      exact toNat_le_maxRowId word
    | full target length =>
      obtain ⟨hle, hnew⟩ := Option.ite_none_right_eq_some.mp hnew
      obtain rfl := Option.some.inj hnew
      exact Nat.le_trans (Nat.le_of_lt (Finset.mem_range.mp hrow)) hle
    | insert target word =>
      obtain rfl := Option.some.inj hnew
      rcases Finset.mem_insert.mp hrow with rfl | hrow
      · exact toNat_le_maxRowId word
      · exact h target row hrow
    | intersect target left right =>
      obtain rfl := Option.some.inj hnew
      exact h left row (Finset.mem_inter.mp hrow).1
    | union target left right =>
      obtain rfl := Option.some.inj hnew
      exact (Finset.mem_union.mp hrow).elim (h left row) (h right row)
    | difference target left right =>
      obtain rfl := Option.some.inj hnew
      exact h left row (Finset.mem_sdiff.mp hrow).1
  unfold Step.onMembers
  cases hnew : step.meant members with
  | none => exact h name
  | some new =>
    show ∀ row ∈ Function.update members step.target new name, row ≤ maxRowId
    by_cases hname : name = step.target
    · rw [hname, Function.update_self]
      exact hmeant new hnew
    · rw [Function.update_of_ne hname]
      exact h name

theorem le_maxRowId_of_mem (steps : List (Step ν)) :
    ∀ name, ∀ row ∈ membersAfter steps name, row ≤ maxRowId := by
  induction steps using List.reverseRecOn with
  | nil =>
    intro name row hrow
    exact absurd hrow (Finset.notMem_empty row)
  | append_singleton steps step ih =>
    rw [membersAfter_concat]
    exact le_maxRowId_step ih step

/-- **Row sets are finite sets of positions.** After any steps, every name holds a row set with the
    members that the steps mean: it contains them and no other position, lists them ascending, each
    once, and counts them, and none lies beyond the highest position. Two row sets are equal if they
    have the same members, whatever the steps were that made them. A step changes the set of its
    own name alone. The set of all positions below a length is there up to the highest position;
    beyond that the step fails as a bad request and changes nothing. -/
theorem setsAfter_members (steps : List (Step ν)) :
    (∀ name,
      (∀ row, (setsAfter steps name).contains row = true ↔ row ∈ membersAfter steps name) ∧
      (setsAfter steps name).positions.Pairwise (· < ·) ∧
      (∀ row, row ∈ (setsAfter steps name).positions ↔ row ∈ membersAfter steps name) ∧
      (setsAfter steps name).size = (membersAfter steps name).card ∧
      ((setsAfter steps name).isEmpty = true ↔ membersAfter steps name = ∅) ∧
      ∀ row ∈ membersAfter steps name, row ≤ maxRowId) ∧
    (∀ (others : List (Step ν)) name other,
      (setsAfter steps name == setsAfter others other) = true ↔
        membersAfter steps name = membersAfter others other) ∧
    (∀ step : Step ν, ∀ name ≠ step.target,
      setsAfter (steps ++ [step]) name = setsAfter steps name) ∧
    (∀ length, (∃ set, full? length = .ok set ∧ set.Denotes (Finset.range length)) ↔
      length ≤ maxRowId) ∧
    ∀ target length, maxRowId < length →
      full? length = .error (.badRequest .tooManyRows) ∧
      setsAfter (steps ++ [.full target length]) = setsAfter steps := by
  have hdenotes := denotes_setsAfter steps
  refine ⟨fun name => ⟨hdenotes name, positions_ascending _, (hdenotes name).mem_positions,
    (hdenotes name).size_eq, (hdenotes name).isEmpty_iff, le_maxRowId_of_mem steps name⟩,
    fun others name other => ?_, fun step name hname => ?_, fun length => exists_full?_iff,
    fun target length hlong => ?_⟩
  · rw [beq_iff_eq]
    exact (hdenotes name).eq_iff (denotes_setsAfter others other)
  · rw [setsAfter_concat]
    exact on_of_ne _ hname
  · have hfull := full?_of_lt hlong
    refine ⟨hfull, ?_⟩
    rw [setsAfter_concat, Step.on, Step.made, hfull]

/-- The highest position is a member like any other. -/
example : (setsAfter [.full "a" 3, .insert "a" 0xffffffff, .ofList "b" [1, 2],
    .difference "c" "a" "b"] "c").positions = [0, 4294967295] := by decide

end Runs

end Winnow.RowSet
