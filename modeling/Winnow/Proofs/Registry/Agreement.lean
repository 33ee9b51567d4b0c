import Winnow.Filter.Edit
import Winnow.Proofs.Registry.Answers
import Winnow.Proofs.Registry.Pulls

/-!
# `Winnow.Proofs.Registry.Agreement` — one selection, whichever way it is asked for

The rows of a table that satisfy a specification may be asked of a registry, by a text, or of the
source of the table, by the specification that the text stands for, or they may be looked up with
the filter of the decoded tree. All of these bind the specification to the columns of the source,
pull its rows only if that succeeds, and end in the same result. A request without a text stands for
the specification that every row satisfies, as long as the rows can be counted.

## Contents
- **`Source.lookedUp`**: the rows looked up with the filter of a tree.
- **`Source.selectedAt`**, **`Source.ends_bound`**: what a specification selects at a pull.
- **`Source.ends_filteredRows`**, **`Source.ends_lookedUp`**, **`ends_filteredRows_of_reads`**: the
  three ways.
- **`retain_everything`**, **`exists_everyRow`**: the filter and the text without conditions.
- **`filteredRows_agree`**: all ways agree; **`filteredRows_agree_daily`**: a source that fails at
  its second pull.
-/

namespace Winnow

open Winnow.Action

namespace Source

variable {source : Source} {session : Session}

/-! ## Three ways to ask -/

/-- The rows that the filter of a tree selects, looked up in the rows of one pull. -/
def lookedUp (source : Source) (tree : Json) : Action (List Row) := do
  let filter ← Action.ofExcept (Filter.ofJson source.schema.names tree)
  let rows ← source.rows
  Action.ofExcept (filter.apply rows)

/-- What a specification selects at a pull, and the pulls that it takes: none if the source does not
    have its columns. -/
def selectedAt (source : Source) (spec : Spec) (files : Files) (pull : Nat) :
    Except Error (List Row) × List Nat :=
  match Filter.compile source.schema.names spec with
  | .error e => (.error e, [])
  | .ok filter => (source.batch files pull >>= filter.retain, [source.id])

/-- A request that binds the specification first and then runs the filter on one pull. -/
theorem ends_bound {spec : Spec} {run : Filter → Action (List Row)}
    (h : ∀ filter, (run filter).Ends session
      (source.batch session.files (session.pulls.count source.id) >>= filter.retain) [source.id]) :
    (Action.ofExcept (Filter.compile source.schema.names spec) >>= run).Ends session
      (source.selectedAt spec session.files (session.pulls.count source.id)).1
      (source.selectedAt spec session.files (session.pulls.count source.id)).2 := by
  unfold selectedAt
  cases Filter.compile source.schema.names spec with
  | error e => exact Ends.of_error
  | ok filter => exact (h filter).of_ok

theorem ends_filteredRows (spec : Spec) :
    (source.filteredRows spec).Ends session
      (source.selectedAt spec session.files (session.pulls.count source.id)).1
      (source.selectedAt spec session.files (session.pulls.count source.id)).2 :=
  ends_bound ends_retained

theorem ends_lookedUp {tree : Json} {spec : Spec} (h : Spec.ofJson tree = .ok spec) :
    (source.lookedUp tree).Ends session
      (source.selectedAt spec session.files (session.pulls.count source.id)).1
      (source.selectedAt spec session.files (session.pulls.count source.id)).2 := by
  have hfilter : Filter.ofJson source.schema.names tree =
      Filter.compile source.schema.names spec := by
    rw [Filter.ofJson, h]
    rfl
  rw [lookedUp, hfilter]
  refine ends_bound fun filter => ends_rows.bind_quiet fun rows after => ?_
  -- looking up and going through the rows once leave the same
  rw [← Filter.apply_eq_retain]
  exact ends_ofExcept _

end Source

/-- Every row satisfies the filter without conditions. -/
theorem Filter.retain_everything {rows : List Row} (h : rows.length ≤ maxRowId) :
    everything.retain rows = .ok rows := by
  obtain ⟨set, hset⟩ : ∃ set, everything.index rows = .ok set := by
    refine exists_index_iff.mpr ⟨h, fun leaf hleaf => ?_⟩
    exact absurd hleaf List.not_mem_nil
  have hholds : ∀ row ∈ rows, decide (everything.Holds row) = true :=
    fun row _ => decide_eq_true trivial
  rw [retain_eq_map, hset, List.filter_eq_self.mpr hholds]
  rfl

namespace Registry

variable {registry : Registry} {source : Source} {table : String} {dashboard : Option String}
  {session : Session}

theorem ends_filteredRows_of_reads (hserver : registry.server table dashboard = .ok source)
    {text : String} {tree : Json} {spec : Spec} (htree : Json.parse text = .ok tree)
    (hspec : Spec.ofJson tree = .ok spec) :
    (registry.filteredRows table dashboard (some text)).Ends session
      (source.selectedAt spec session.files (session.pulls.count source.id)).1
      (source.selectedAt spec session.files (session.pulls.count source.id)).2 := by
  have hfilter : filterOf source text = Filter.compile source.schema.names spec := by
    unfold filterOf
    rw [htree]
    dsimp only
    rw [hspec]
    rfl
  refine Ends.logged ?_ .filteredRows
  rw [hserver]
  refine Ends.of_ok ?_
  dsimp only
  rw [hfilter]
  exact Source.ends_bound Source.ends_retained

theorem ends_filteredRows_none (hserver : registry.server table dashboard = .ok source) :
    (registry.filteredRows table dashboard none).Ends session
      (source.batch session.files (session.pulls.count source.id)) [source.id] := by
  refine Ends.logged ?_ .filteredRows
  rw [hserver]
  exact Source.ends_rows.of_ok

/-! ## A specification or none -/

/-- The text of the specification without conditions. -/
def everyRowText : String := "\x7b\"operator\":\"ALL\",\"arguments\":[]\x7d"

/-- Whether a specification is the one without conditions, a conjunction of nothing. -/
def isUnconditional : Spec → Bool
  | .combine .all [] => true
  | _ => false

theorem isUnconditional_iff {spec : Spec} :
    isUnconditional spec = true ↔ spec = .combine .all [] := by
  unfold isUnconditional
  split
  · simp
  · rename_i hother
    exact iff_of_false Bool.false_ne_true hother

theorem exists_everyRow : ∃ tree, Json.parse everyRowText = .ok tree ∧
    Spec.ofJson tree = .ok (.combine .all []) := by
  have hread : ((Json.parse everyRowText).toOption.bind fun tree =>
      (Spec.ofJson tree).toOption).any isUnconditional = true := by decide +kernel
  obtain ⟨spec, hread, hspec⟩ := (Option.any_eq_true _ _).mp hread
  obtain ⟨tree, htree, hread⟩ := Option.bind_eq_some_iff.mp hread
  rw [isUnconditional_iff.mp hspec] at hread
  exact ⟨tree, toOption_eq_some_iff.mp htree, toOption_eq_some_iff.mp hread⟩

/-- The specification without conditions selects what the source supplies. -/
theorem selectedAt_everyRow {files : Files} {pull : Nat}
    (hfew : ∀ rows, source.batch files pull = .ok rows → rows.length ≤ maxRowId) :
    source.selectedAt (.combine .all []) files pull = (source.batch files pull, [source.id]) := by
  have hcompile : Filter.compile source.schema.names (.combine .all []) = .ok Filter.everything :=
    rfl
  rw [Source.selectedAt, hcompile]
  dsimp only
  cases hbatch : source.batch files pull with
  | error e => rfl
  | ok rows =>
    have hretain := Filter.retain_everything (hfew rows hbatch)
    exact congrArg (·, [source.id]) hretain

/-- **All ways of asking agree.** For a registered table and a text that stands for a specification,
    the request by the text, the request to the source by the specification and the rows looked up
    with the filter of the tree end on every session in the same result after the same pulls:
    nothing is pulled if the specification does not fit the columns, otherwise the source is pulled
    once. Without a text, the request ends like the one for the specification that every row
    satisfies, if the source fails or its rows can be counted. -/
theorem filteredRows_agree (hserver : registry.server table dashboard = .ok source)
    (session : Session) :
    (∀ text tree spec, Json.parse text = .ok tree → Spec.ofJson tree = .ok spec →
      ∃ result pulled,
        (registry.filteredRows table dashboard (some text)).Ends session result pulled ∧
        (source.filteredRows spec).Ends session result pulled ∧
        (source.lookedUp tree).Ends session result pulled ∧
        (result, pulled) =
          source.selectedAt spec session.files (session.pulls.count source.id)) ∧
    ((∀ rows, source.batch session.files (session.pulls.count source.id) = .ok rows →
        rows.length ≤ maxRowId) →
      ∃ result,
        (registry.filteredRows table dashboard none).Ends session result [source.id] ∧
        (registry.filteredRows table dashboard (some everyRowText)).Ends session result
          [source.id] ∧
        result = source.batch session.files (session.pulls.count source.id)) := by
  constructor
  · intro text tree spec htree hspec
    exact ⟨_, _, ends_filteredRows_of_reads hserver htree hspec, Source.ends_filteredRows spec,
      Source.ends_lookedUp hspec, rfl⟩
  · intro hfew
    -- the text without conditions is one of those of the first part
    obtain ⟨tree, htree, hspec⟩ := exists_everyRow
    have hevery : (registry.filteredRows table dashboard (some everyRowText)).Ends session _ _ :=
      ends_filteredRows_of_reads hserver htree hspec
    rw [selectedAt_everyRow hfew] at hevery
    exact ⟨_, ends_filteredRows_none hserver, hevery, rfl⟩

/-- A live source that supplies two rows at first and then fails. -/
def failingSource : Source :=
  Source.ofBatches 0 [⟨"size", .number⟩]
    (Source.lastForEver [.ok [[.integer 4], [.integer 9]], .error (.badData "size")])

/-- A registry with a table of this source. -/
def daily : Registry := empty.insert ⟨some "east", "daily"⟩ failingSource

/-- On a fresh session a range is found in every way, and the specification that every row satisfies
    finds all rows. On a session with a pull before, all rows are asked for, and the failure of the
    source is the answer. -/
theorem filteredRows_agree_daily :
    (∃ tree spec, Json.parse (rangeText "size") = .ok tree ∧ Spec.ofJson tree = .ok spec ∧
      ∃ pulled,
        (daily.filteredRows "daily" (some "east") (some (rangeText "size"))).Ends Session.fresh
          (.ok [[.integer 4]]) pulled ∧
        (failingSource.filteredRows spec).Ends Session.fresh (.ok [[.integer 4]]) pulled ∧
        (failingSource.lookedUp tree).Ends Session.fresh (.ok [[.integer 4]]) pulled) ∧
    (daily.filteredRows "daily" (some "east") (some everyRowText)).Ends Session.fresh
      (.ok [[.integer 4], [.integer 9]]) [0] ∧
    let session := { Session.fresh with pulls := [0] }
    (daily.filteredRows "daily" (some "east") none).Ends session (.error (.badData "size")) [0] ∧
      (daily.filteredRows "daily" (some "east") (some everyRowText)).Ends session
        (.error (.badData "size")) [0] := by
  have hserver : daily.server "daily" (some "east") = .ok failingSource := rfl
  refine ⟨?_, ?_, ?_⟩
  · have hreads : (fault? (filterOf failingSource (rangeText "size"))).isNone = true := by
      decide +kernel
    obtain ⟨filter, hfilter⟩ := fault?_eq_none_iff.mp (Option.isNone_iff_eq_none.mp hreads)
    obtain ⟨tree, spec, htree, hmirrors, _⟩ := filterOf_eq_ok_iff.mp hfilter
    have hspec := Spec.ofJson_eq_ok_iff.mpr hmirrors
    obtain ⟨result, pulled, hregistry, hsource, hlookedUp, _⟩ :=
      (filteredRows_agree hserver Session.fresh).1 _ tree spec htree hspec
    obtain rfl : result = .ok [[.integer 4]] :=
      hregistry.result.symm.trans (toOption_eq_some_iff.mp (by decide +kernel))
    exact ⟨tree, spec, htree, hspec, pulled, hregistry, hsource, hlookedUp⟩
  · have hfew : ∀ rows, failingSource.batch Session.fresh.files 0 = .ok rows →
        rows.length ≤ maxRowId := by
      intro rows hrows
      obtain rfl : [[.integer 4], [.integer 9]] = rows := Except.ok.inj hrows
      decide
    obtain ⟨result, _, hevery, rfl⟩ := (filteredRows_agree hserver Session.fresh).2 hfew
    exact hevery
  · intro session
    have hfails : failingSource.batch session.files (session.pulls.count failingSource.id) =
        .error (.badData "size") := rfl
    obtain ⟨result, hnone, hevery, rfl⟩ := (filteredRows_agree hserver session).2 fun rows hrows =>
      nomatch hfails.symm.trans hrows
    exact ⟨hnone, hevery⟩

end Registry

end Winnow
