import Winnow.Proofs.Registry.Pulls
import Winnow.Proofs.Summary.Union

/-!
# `Winnow.Proofs.Registry.Union` — the distinct values of a column over tables

A request for the distinct values of a column takes those of each table that has it, and merges
them. As each table is asked in its turn, what counts is the batch that its source gives at that
pull. If all batches are there and every row reaches the column, the request is answered as if the
cells of all tables stood in one list.

## Contents
- **`having`**: the tables that take part.
- **`Supplies`**, **`valuesAt_of_supplies`**: the cells that a turn supplies.
- **`allValues_eq_bind`**: the lists of the tables, merged.
- **`allValues_union`**: one list for all tables; **`allValues_union_scores`**: a source that
  changes.
-/

namespace Winnow.Registry

open Winnow.Action Winnow.Summary

variable {registry : Registry} {session : Session} {column : String} {dashboard : Option String}

/-- The tables of a dashboard, or all tables, that have a column, in the order of their keys. -/
def having (registry : Registry) (column : String) (dashboard : Option String) :
    List (TableKey × Source) :=
  (registry.entries.filter fun entry => dashboard.isNone || entry.1.dashboard = dashboard).filter
    fun entry => (entry.2.schema.typeOf? column).isSome

/-- The cells that a source supplies in its turn: the rows are there, and each has a cell in the
    column. -/
def Supplies (column : String) (files : Files) (turn : Source × Nat) (cells : List Cell) : Prop :=
  ∃ rows, turn.1.batch files turn.2 = .ok rows ∧
    List.Forall₂ (fun row cell => turn.1.schema.cell? column row = some cell) rows cells

theorem valuesAt_of_supplies {files : Files} {turn : Source × Nat} {cells : List Cell}
    (hhas : (turn.1.schema.typeOf? column).isSome = true)
    (h : Supplies column files turn cells) :
    turn.1.valuesAt column files turn.2 = sortedDistinct cells := by
  obtain ⟨rows, hrows, hcells⟩ := h
  unfold Source.valuesAt
  cases hfind : turn.1.schema.find? column with
  | none =>
    rw [Schema.typeOf?, hfind] at hhas
    cases hhas
  | some found =>
    simp only [Schema.cell?_eq hfind] at hcells
    rw [hrows]
    exact distinctValues_of_cells hcells

theorem mapM_valuesAt {files : Files} {turns : List (Source × Nat)} {lists : List (List Cell)}
    (hhas : ∀ turn ∈ turns, (turn.1.schema.typeOf? column).isSome = true)
    (h : List.Forall₂ (Supplies column files) turns lists) :
    (turns.mapM fun turn => turn.1.valuesAt column files turn.2) = lists.mapM sortedDistinct := by
  have hboth := (List.forall₂_and_left _ _).mpr ⟨hhas, h⟩
  exact mapM_eq_of_forall₂ (hboth.imp fun _ _ hturn => valuesAt_of_supplies hturn.1 hturn.2)

/-- The lists of the tables that take part are merged. -/
theorem allValues_eq_bind (hsome : registry.having column dashboard ≠ []) :
    ((registry.allValues column none dashboard).runOn session).1 =
      (turns session.pulls (registry.having column dashboard)).mapM
          (fun turn => turn.1.valuesAt column session.files turn.2) >>= mergeValues := by
  obtain ⟨result, pulled, hend, hends⟩ := ends_allValues registry session column none dashboard
  rw [hends.result]
  -- the tables that take part are among those that the request consults
  cases hend with
  | noTables hservers =>
    rw [servers_none, orNoTables_eq_error_iff] at hservers
    rw [having, hservers.1] at hsome
    exact absurd rfl hsome
  | noneTakesPart hservers hnone =>
    rw [servers_none, orNoTables_eq_ok_iff] at hservers
    obtain ⟨_, rfl⟩ := hservers
    refine absurd (List.filter_eq_nil_iff.mpr fun entry hentry => ?_) hsome
    simp [hnone entry hentry]
  | asked hservers _ _ hasked =>
    rw [servers_none, orNoTables_eq_ok_iff] at hservers
    obtain ⟨_, rfl⟩ := hservers
    rw [hasked.result_eq]
    rfl

/-- **One list for all tables.** Whether the distinct values of several lists are merged or those of
    their concatenation are taken, the same cells are given, or both fail on cells that do not
    compare. So a request on a column is answered from the cells of all its tables, in the order of
    their keys, as if they stood in one table. -/
theorem allValues_union :
    (∀ lists : List (List Cell), Unmixed lists.flatten →
      Agree (lists.mapM sortedDistinct >>= mergeValues) (sortedDistinct lists.flatten)) ∧
    ∀ (registry : Registry) (session : Session) (column : String) (dashboard : Option String)
      (lists : List (List Cell)), registry.having column dashboard ≠ [] →
      List.Forall₂ (Supplies column session.files)
        (turns session.pulls (registry.having column dashboard)) lists →
      Unmixed lists.flatten →
      Agree ((registry.allValues column none dashboard).runOn session).1
        (sortedDistinct lists.flatten) := by
  refine ⟨fun lists hmix => mergeValues_agree hmix, ?_⟩
  intro registry session column dashboard lists hsome hsupplied hmix
  have hhas : ∀ turn ∈ turns session.pulls (registry.having column dashboard),
      (turn.1.schema.typeOf? column).isSome = true := by
    intro turn hturn
    obtain ⟨entry, hentry, heq⟩ := exists_entry_of_mem_turns hturn
    exact heq ▸ (List.mem_filter.mp hentry).2
  rw [allValues_eq_bind hsome, mapM_valuesAt hhas hsupplied]
  exact mergeValues_agree hmix

/-- A live source whose batches differ, with forms of one in both of them. -/
def scoreSource : Source :=
  Source.ofBatches 0 [⟨"score", .number⟩] <| Source.lastForEver
    [.ok [[.float Double.zero.neg], [.integer 0], [.integer 1]],
      .ok [[.float (Double.ofInt 1)], [.integer 7]]]

/-- One source under two keys of a dashboard. -/
def scores : Registry :=
  (empty.insert ⟨some "team", "home"⟩ scoreSource).insert ⟨some "team", "away"⟩ scoreSource

/-- The key that is asked first takes the first batch, and its form of one is the one given. A
    string beside a number makes both ways fail. -/
theorem allValues_union_scores :
    ((scores.allValues "score" none (some "team")).runOn Session.fresh).1 =
      .ok [.float Double.zero.neg, .integer 1, .integer 7] ∧
    ∃ a b, ([[.integer 1], [.string "large"]].mapM sortedDistinct >>= mergeValues) =
      .error (.incomparable a b) := by
  have hsupplied : List.Forall₂ (Supplies "score" Session.fresh.files)
      [(scoreSource, 0), (scoreSource, 1)]
      [[.float Double.zero.neg, .integer 0, .integer 1],
        [.float (Double.ofInt 1), .integer 7]] :=
    .cons ⟨_, rfl, .cons rfl (.cons rfl (.cons rfl .nil))⟩
      (.cons ⟨_, rfl, .cons rfl (.cons rfl .nil)⟩ .nil)
  have hdistinct : sortedDistinct [.float Double.zero.neg, .integer 0, .integer 1,
      .float (Double.ofInt 1), .integer 7] =
        .ok [.float Double.zero.neg, .integer 1, .integer 7] := by
    rw [sortedDistinct_of_sorted (by unfold OneDomain; decide) (by decide +kernel)]
    exact congrArg Except.ok (by decide +kernel)
  constructor
  · exact (allValues_union.2 scores Session.fresh "score" (some "team") _ (by decide) hsupplied
      (by decide +kernel)).eq_ok hdistinct
  · exact (allValues_union.1 _ (by decide +kernel)).eq_incomparable rfl

end Winnow.Registry
