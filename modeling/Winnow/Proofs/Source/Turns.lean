import Winnow.Proofs.Session.Pulls
import Winnow.Proofs.Source.Steady

/-!
# `Winnow.Proofs.Source.Turns` — sources that are asked in turn

The rows of a source may differ from pull to pull, so that an answer depends on how often the source
was pulled before. Where sources are asked one after the other, each has its turn: the source with
the number of its pull, which counts the turns that the same source had before, also under other
keys. Asking in turn ends with the first turn that fails.

## Contents
- **`batch`**, **`valuesAt`**, **`specAt`**: what a source gives at a pull.
- **`ends_rows`**, **`ends_allValues`**, **`ends_numericSpec`**, **`ends_retained`**: requests on a
  source pull it once.
- **`turns`**, **`pulledIn`**, **`exists_entry_of_mem_turns`**: the turns of sources.
- **`Asked`**, **`ends_mapM`**: what asking in turn comes to.
-/

namespace Winnow

open Winnow.Action

/-! ## One source -/

namespace Source

variable {source : Source} {session : Session}

/-- The rows that a source gives at a pull, counted from zero. -/
def batch (source : Source) (files : Files) (pull : Nat) : Except Error (List Row) :=
  source.supply.read source.schema files pull

/-- The distinct values of a column at a pull. -/
def valuesAt (source : Source) (column : String) (files : Files) (pull : Nat) :
    Except Error (List Cell) :=
  match source.schema.find? column with
  | none => .error (noColumn column)
  | some (position, _) =>
    source.batch files pull >>= fun rows => Summary.distinctValues rows position

/-- The range of a column of numbers at a pull. -/
def specAt (source : Source) (column : String) (files : Files) (pull : Nat) :
    Except Error NumericSpec :=
  (source.valuesAt column files pull).mapError (asBadData column) >>= Summary.numericSpec column

theorem ends_rows :
    source.rows.Ends session (source.batch session.files (session.pulls.count source.id))
      [source.id] := by
  have hrun := runOn_rows source session
  exact ⟨congrArg Prod.fst hrun, congrArg (·.2.pulls) hrun, congrArg (·.2.files) hrun⟩

theorem ends_allValues {column : String} (h : (source.schema.typeOf? column).isSome = true) :
    (source.allValues column).Ends session
      (source.valuesAt column session.files (session.pulls.count source.id)) [source.id] := by
  rw [allValues_eq]
  unfold valuesAt
  cases hfind : source.schema.find? column with
  | none =>
    rw [Schema.typeOf?, hfind] at h
    cases h
  | some found => exact ends_rows.bind_quiet fun rows after => ends_ofExcept _

theorem ends_numericSpec {column : String} (h : source.schema.typeOf? column = some .number) :
    (source.numericSpec column).Ends session
      (source.specAt column session.files (session.pulls.count source.id)) [source.id] := by
  have hhas : (source.schema.typeOf? column).isSome = true := by rw [h]; rfl
  rw [numericSpec_eq, h]
  unfold specAt
  exact ((ends_allValues hhas).adapt _).bind_quiet fun values after => ends_ofExcept _

/-- A filter is run on the rows of one pull; what is logged of it changes nothing. -/
theorem ends_retained (filter : Filter) :
    (source.retained filter).Ends session
      (source.batch session.files (session.pulls.count source.id) >>= filter.retain)
      [source.id] := by
  refine ends_rows.bind_quiet fun rows after => ?_
  have hreport : ∀ (kept : List Row) (session : Session), Ends (do
      report (.filterApplied rows.length kept.length)
      return kept) session (Except.ok () >>= fun _ => .ok kept) [] :=
    fun kept _ => (ends_report _).bind_quiet fun _ _ => ends_pure kept
  have hretain : (Action.ofExcept (filter.retain rows)).Ends after (filter.retain rows) [] :=
    ends_ofExcept _
  have hends := hretain.bind_quiet hreport
  cases hkept : filter.retain rows <;> rw [hkept] at hends <;> exact hends

end Source

/-! ## Sources in turn -/

/-- The turns of sources that are asked one after the other, after some pulls: each source with the
    number of its pull. -/
def turns (pulls : List Nat) : List (TableKey × Source) → List (Source × Nat)
  | [] => []
  | (_, source) :: rest => (source, pulls.count source.id) :: turns (source.id :: pulls) rest

/-- Every turn is that of a source among the entries. -/
theorem exists_entry_of_mem_turns {pulls : List Nat} {entries : List (TableKey × Source)} :
    ∀ {turn}, turn ∈ turns pulls entries → ∃ entry ∈ entries, entry.2 = turn.1 := by
  induction entries generalizing pulls with
  | nil => exact fun h => absurd h List.not_mem_nil
  | cons entry rest ih =>
    intro turn h
    rcases List.mem_cons.mp h with rfl | h
    · exact ⟨entry, List.mem_cons_self, rfl⟩
    · obtain ⟨other, hother, heq⟩ := ih h
      exact ⟨other, List.mem_cons_of_mem _ hother, heq⟩

/-- The pulls made in some turns, the latest first. -/
def pulledIn (turns : List (Source × Nat)) : List Nat := (turns.map (·.1.id)).reverse

section Asking

variable {β : Type} {answer : Source → Nat → Except Error β}

/-- **What asking in turn comes to.** Every turn is answered, or the turns are taken up to the first
    one that fails, and then its failure is the result. -/
inductive Asked (answer : Source → Nat → Except Error β) (turns : List (Source × Nat)) :
    Except Error (List β) → List Nat → Prop where
  | all {answers : List β}
      (each : List.Forall₂ (fun turn a => answer turn.1 turn.2 = .ok a) turns answers) :
      Asked answer turns (.ok answers) (pulledIn turns)
  | failed {before after : List (Source × Nat)} {turn : Source × Nat} {answers : List β} {e : Error}
      (split : turns = before ++ turn :: after)
      (each : List.Forall₂ (fun turn a => answer turn.1 turn.2 = .ok a) before answers)
      (fault : answer turn.1 turn.2 = .error e) :
      Asked answer turns (.error e) (pulledIn (before ++ [turn]))

theorem pulledIn_cons (turn : Source × Nat) (rest : List (Source × Nat)) :
    pulledIn (turn :: rest) = pulledIn rest ++ [turn.1.id] := by
  rw [pulledIn, List.map_cons, List.reverse_cons]
  rfl

theorem Asked.cons_error {turn : Source × Nat} {rest : List (Source × Nat)} {e : Error}
    (h : answer turn.1 turn.2 = .error e) :
    Asked answer (turn :: rest) (.error e) [turn.1.id] :=
  @Asked.failed _ _ _ [] rest turn [] e rfl .nil h

theorem Asked.cons_ok {turn : Source × Nat} {rest : List (Source × Nat)} {a : β}
    {result : Except Error (List β)} {pulled : List Nat} (h : answer turn.1 turn.2 = .ok a)
    (hrest : Asked answer rest result pulled) :
    Asked answer (turn :: rest) (result.map (a :: ·)) (pulled ++ [turn.1.id]) := by
  cases hrest with
  | all each =>
    rw [← pulledIn_cons]
    exact .all (.cons h each)
  | failed split each fault =>
    rw [← pulledIn_cons]
    exact .failed (by rw [split]; rfl) (.cons h each) fault

/-- The result of asking in turn is that of one run over the turns. -/
theorem Asked.result_eq {turns : List (Source × Nat)} {result : Except Error (List β)}
    {pulled : List Nat} (h : Asked answer turns result pulled) :
    result = turns.mapM fun turn => answer turn.1 turn.2 := by
  cases h with
  | all each => exact (mapM_eq_ok_iff.mpr each).symm
  | failed split each fault =>
    rw [split, List.mapM_append, mapM_eq_ok_iff.mpr each, List.mapM_cons, fault]
    rfl

/-- **Asking in turn.** A request that puts the same question to sources, of which each pulls its
    source once and is answered by what this pull gives, takes the turns of the sources. -/
theorem ends_mapM {query : Source → Action β} {files : Files} {entries : List (TableKey × Source)}
    (h : ∀ entry ∈ entries, ∀ session : Session, session.files = files →
      (query entry.2).Ends session (answer entry.2 (session.pulls.count entry.2.id)) [entry.2.id]) :
    ∀ session : Session, session.files = files → ∃ result pulled,
      Asked answer (turns session.pulls entries) result pulled ∧
        (entries.mapM fun entry => query entry.2).Ends session result pulled := by
  induction entries with
  | nil => exact fun session _ => ⟨.ok [], [], .all .nil, ends_pure []⟩
  | cons entry rest ih =>
    intro session hfiles
    obtain ⟨hfirst, hrest⟩ := List.forall_mem_cons.mp h
    have hends := hfirst session hfiles
    rw [List.mapM_cons]
    cases hanswer : answer entry.2 (session.pulls.count entry.2.id) with
    | error e =>
      rw [hanswer] at hends
      exact ⟨.error e, [entry.2.id], .cons_error hanswer, hends.bind_error⟩
    | ok a =>
      rw [hanswer] at hends
      -- the rest is asked with this pull made, and its turns count it
      obtain ⟨result, pulled, hasked, hrest⟩ := ih hrest _ (hends.files.trans hfiles)
      rw [hends.pulls] at hasked
      refine ⟨result.map (a :: ·), pulled ++ [entry.2.id], hasked.cons_ok hanswer, ?_⟩
      refine hends.bind ?_
      have hlast : ∀ others after, Ends (pure (a :: others)) after (.ok (a :: others)) [] :=
        fun others _ => ends_pure (a :: others)
      have hboth := hrest.bind_quiet hlast
      cases result <;> exact hboth

end Asking

end Winnow
