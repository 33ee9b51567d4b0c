import Winnow.Filter.Edit
import Winnow.Proofs.Filter.Binding
import Winnow.Proofs.Filter.Context

/-!
# `Winnow.Proofs.Filter.Laws` — equations between filters

Combinators obey the laws of the connectives that they stand for, and they do so with failures
included: each law keeps the order in which the leaves are read, so that it keeps the first fault.
What changes that order, such as another order of the arguments, may change which fault is reported,
but neither whether there is one nor the set.

## Contents
- **`sameReading_flatten_all`**, **`sameReading_flatten_any`**, **`sameReading_flatten_none`**:
  combinators within combinators.
- **`sameReading_none_none`**, **`sameReading_none_each`**, **`sameReading_inList_append`**:
  negations and lists of values.
- **`sameReading_wrap_all`**, **`sameReading_wrap_any`**, **`sameReading_wrap_none`**: combinators
  over one argument, any number of times; **`index_negation`**: the complement.
- **`combinator_laws`**: all of them, at every place.
-/

namespace Winnow.Filter

open RowSet

/-! ## Combinators within combinators -/

/-- The leaves are read in the same order with the arguments of a combinator in its place. -/
theorem leaves_flatten (outer inner : Combinator) (xs ys zs : List Filter) :
    (combine outer (xs ++ combine inner ys :: zs)).leaves =
      (combine outer (xs ++ ys ++ zs)).leaves := by
  rw [leaves, leaves, leavesAll_append, leavesAll_cons_combine, List.append_assoc,
    leavesAll_append xs]

theorem sameReading_flatten_all (xs ys zs : List Filter) :
    SameReading (combine .all (xs ++ combine .all ys :: zs)) (combine .all (xs ++ ys ++ zs)) := by
  refine .of_leaves (leaves_flatten ..) fun row => ?_
  simp only [combine_all_holds, List.forall_mem_append, List.forall_mem_cons, and_assoc]

theorem sameReading_flatten_any (xs ys zs : List Filter) :
    SameReading (combine .any (xs ++ combine .any ys :: zs)) (combine .any (xs ++ ys ++ zs)) := by
  refine .of_leaves (leaves_flatten ..) fun row => ?_
  simp only [combine_any_holds, List.mem_append, List.mem_cons, or_and_right, exists_or,
    exists_eq_left, or_assoc]

/-- Nothing holds of arguments among which something may hold when nothing holds of them all. -/
theorem sameReading_flatten_none (xs ys zs : List Filter) :
    SameReading (combine .none (xs ++ combine .any ys :: zs)) (combine .none (xs ++ ys ++ zs)) := by
  refine .of_leaves (leaves_flatten ..) fun row => ?_
  simp only [combine_none_holds, combine_any_holds, List.forall_mem_append, List.forall_mem_cons,
    not_exists, not_and, and_assoc]

/-! ## Negations and lists of values -/

theorem leavesAll_singleton (filter : Filter) : leavesAll [filter] = filter.leaves := by
  rw [leavesAll, leavesAll, List.append_nil]

theorem leaves_wrapped (combinator : Combinator) (filter : Filter) :
    (combine combinator [filter]).leaves = filter.leaves := by
  rw [leaves, leavesAll_singleton]

/-- A negated negation holds where some argument does. -/
theorem sameReading_none_none (xs : List Filter) :
    SameReading (combine .none [combine .none xs]) (combine .any xs) := by
  refine .of_leaves ?_ fun row => ?_
  · rw [leaves_wrapped, leaves, leaves]
  · rw [holds_negation_iff, combine_none_holds, combine_any_holds]
    simp only [not_forall, not_not, exists_prop]

theorem leavesAll_map_wrapped (combinator : Combinator) (xs : List Filter) :
    leavesAll (xs.map fun x => combine combinator [x]) = leavesAll xs := by
  induction xs with
  | nil => rfl
  | cons x rest ih => rw [List.map_cons, leavesAll, leavesAll, ih, leaves_wrapped]

/-- A negation of several arguments negates each of them. -/
theorem sameReading_none_each (xs : List Filter) :
    SameReading (combine .none xs) (combine .all (xs.map fun x => combine .none [x])) := by
  refine .of_leaves ?_ fun row => ?_
  · rw [leaves, leaves, leavesAll_map_wrapped]
  · rw [combine_none_holds, combine_all_holds, List.forall_mem_map]
    simp only [holds_negation_iff]

/-- Values may be listed apart. The column is read twice then, and the second reading meets no fault
    that the first one did not meet. -/
theorem sameReading_inList_append (column : Nat) (a b : List Cell) :
    SameReading (inList column (a ++ b)) (combine .any [inList column a, inList column b]) := by
  refine ⟨fun row => ?_, fun rows => ?_⟩
  · rw [combine_any_holds]
    simp only [List.exists_mem_cons_iff, List.not_mem_nil, false_and, exists_false, or_false, Holds,
      List.mem_append, or_and_right, exists_or, and_or_left]
  · simp only [firstFault?, leaves, leavesAll, List.append_nil, List.cons_append, List.nil_append,
      List.findSome?_cons, List.findSome?_nil]
    cases Leaf.firstFault? ⟨column, []⟩ 0 rows <;> rfl

/-! ## Combinators over one argument -/

theorem sameReading_all_one (filter : Filter) : SameReading (combine .all [filter]) filter := by
  refine .of_leaves (leaves_wrapped _ _) fun row => ?_
  rw [combine_all_holds, List.forall_mem_singleton]

theorem sameReading_any_one (filter : Filter) : SameReading (combine .any [filter]) filter := by
  refine .of_leaves (leaves_wrapped _ _) fun row => ?_
  rw [combine_any_holds, List.exists_mem_cons_iff]
  simp

theorem sameReading_wrap_all (times : Nat) (filter : Filter) :
    SameReading (wrap .all times filter) filter := by
  induction times generalizing filter with
  | zero => exact .refl filter
  | succ times ih => exact (ih (combine .all [filter])).trans (sameReading_all_one filter)

theorem sameReading_wrap_any (times : Nat) (filter : Filter) :
    SameReading (wrap .any times filter) filter := by
  induction times generalizing filter with
  | zero => exact .refl filter
  | succ times ih => exact (ih (combine .any [filter])).trans (sameReading_any_one filter)

/-- An even number of negations is none. -/
theorem sameReading_wrap_none (times : Nat) (filter : Filter) :
    SameReading (wrap .none (2 * times) filter) filter := by
  induction times generalizing filter with
  | zero => exact .refl filter
  | succ times ih =>
    have htwice : SameReading (combine .none [combine .none [filter]]) filter :=
      (sameReading_none_none [filter]).trans (sameReading_any_one filter)
    exact (ih (combine .none [combine .none [filter]])).trans htwice

/-- A negation selects the complement within the positions that have a row. -/
theorem index_negation (filter : Filter) (rows : List Row) :
    (combine .none [filter]).index rows =
      (filter.index rows).map (interval 0 rows.length).difference := by
  by_cases hle : rows.length ≤ maxRowId
  · rw [index_of_le hle, index_of_le hle, indexWithin, indexAll, indexAll]
    cases filter.indexWithin rows (interval 0 rows.length) with
    | error e => rfl
    | ok set =>
      show Except.ok ((interval 0 rows.length).difference (RowSet.empty.union set)) = .ok _
      have hunion : RowSet.empty.union set = set :=
        ext_contains fun i => by rw [contains_union, contains_empty, Bool.false_or]
      rw [hunion]
  · have hlt := Nat.lt_of_not_le hle
    rw [index_of_lt hlt, index_of_lt hlt]
    rfl

/-! ## Orders of arguments -/

/-- At every place, it only matters which arguments there are. -/
theorem toOption_index_arguments {xs ys : List Filter} (h : ∀ x, x ∈ xs ↔ x ∈ ys)
    (combinator : Combinator) (context : Context) (rows : List Row) :
    ((context.fill (combine combinator xs)).index rows).toOption =
      ((context.fill (combine combinator ys)).index rows).toOption := by
  refine toOption_index_congr (fun leaf => ?_) fun row => Context.holds_fill_congr ?_ context
  · obtain ⟨before, after, hleaves⟩ := context.leaves_fill
    simp only [hleaves, leaves, List.mem_append, mem_leavesAll, h]
  · cases combinator with
    | all => simp only [combine_all_holds, h]
    | any => simp only [combine_any_holds, h]
    | none => simp only [combine_none_holds, h]

/-- **The laws of combinators.** At every place in a filter and on all rows, with the same failure
    if there is one: combinators of one kind may be nested or not, and so may alternatives below a
    negation; a negated negation is an alternative; a negation of several arguments negates each; a
    list of values may be split. So conjunctions and alternatives of one argument change nothing in
    any number, and negations cancel in pairs, a single one being the complement. Which arguments a
    combinator has decides whether there is a result, and the set, whatever their order and
    number. -/
theorem combinator_laws :
    (∀ xs ys zs, Interchangeable
      (combine .all (xs ++ combine .all ys :: zs)) (combine .all (xs ++ ys ++ zs))) ∧
    (∀ xs ys zs, Interchangeable
      (combine .any (xs ++ combine .any ys :: zs)) (combine .any (xs ++ ys ++ zs))) ∧
    (∀ xs ys zs, Interchangeable
      (combine .none (xs ++ combine .any ys :: zs)) (combine .none (xs ++ ys ++ zs))) ∧
    (∀ xs, Interchangeable (combine .none [combine .none xs]) (combine .any xs)) ∧
    (∀ xs : List Filter, Interchangeable
      (combine .none xs) (combine .all (xs.map fun x => combine .none [x]))) ∧
    (∀ column a b, Interchangeable
      (inList column (a ++ b)) (combine .any [inList column a, inList column b])) ∧
    (∀ times filter, Interchangeable (wrap .all times filter) filter ∧
      Interchangeable (wrap .any times filter) filter ∧
      Interchangeable (wrap .none (2 * times) filter) filter ∧
      Interchangeable (wrap .none (2 * times + 1) filter) (combine .none [filter])) ∧
    (∀ (filter : Filter) (rows : List Row), (combine .none [filter]).index rows =
      (filter.index rows).map (interval 0 rows.length).difference) ∧
    ∀ (combinator : Combinator) (xs ys : List Filter), (∀ x, x ∈ xs ↔ x ∈ ys) →
      ∀ (context : Context) (rows : List Row),
        ((context.fill (combine combinator xs)).index rows).toOption =
          ((context.fill (combine combinator ys)).index rows).toOption := by
  refine ⟨fun xs ys zs => ?_, fun xs ys zs => ?_, fun xs ys zs => ?_, fun xs => ?_, fun xs => ?_,
    fun column a b => ?_, fun times filter => ⟨?_, ?_, ?_, ?_⟩, index_negation, ?_⟩
  · exact (sameReading_flatten_all xs ys zs).interchangeable
  · exact (sameReading_flatten_any xs ys zs).interchangeable
  · exact (sameReading_flatten_none xs ys zs).interchangeable
  · exact (sameReading_none_none xs).interchangeable
  · exact (sameReading_none_each xs).interchangeable
  · exact (sameReading_inList_append column a b).interchangeable
  · exact (sameReading_wrap_all times filter).interchangeable
  · exact (sameReading_wrap_any times filter).interchangeable
  · exact (sameReading_wrap_none times filter).interchangeable
  · exact (sameReading_wrap_none times (combine .none [filter])).interchangeable
  · exact fun combinator xs ys h => toOption_index_arguments h combinator

/-- A range over the first column, where the only row has no number. -/
def smallSizes : Filter := .inRange 0 (.integer 1) (.integer 3)

/-- A list over the second column, which the row does not have. -/
def firstNames : Filter := .inList 1 [.string "a"]

/-- Below a negation, the same arguments in another order, one of them twice, fail as well, but with
    the fault of another leaf. -/
theorem combinator_laws_reordered :
    ((combine .none [combine .any [smallSizes, firstNames]]).index [[.string "x"]]).toOption =
      ((combine .none [combine .any [firstNames, smallSizes, firstNames]]).index
        [[.string "x"]]).toOption ∧
    (combine .none [combine .any [smallSizes, firstNames]]).index [[.string "x"]] =
      .error (.incomparable (.string "x") (.integer 1)) ∧
    (combine .none [combine .any [firstNames, smallSizes, firstNames]]).index [[.string "x"]] =
      .error (.rowShape 0 1 1) := by
  have hsame : ∀ x, x ∈ [smallSizes, firstNames] ↔ x ∈ [firstNames, smallSizes, firstNames] := by
    intro x
    simp only [List.mem_cons, List.not_mem_nil, or_false]
    exact ⟨Or.inr, fun h => h.elim Or.inr id⟩
  obtain ⟨-, -, -, -, -, -, -, -, hlaw⟩ := combinator_laws
  exact ⟨hlaw .any _ _ hsame (.argument .none [] .whole []) _, rfl, rfl⟩

end Winnow.Filter
