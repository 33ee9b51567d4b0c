import Mathlib.Data.List.Perm.Basic
import Winnow.Proofs.Registry.Slider
import Winnow.Proofs.Registry.Union
import Winnow.Proofs.Summary.Merging

/-!
# `Winnow.Proofs.Registry.Renamed` — the range of a column does not depend on the names of tables

Tables are asked in the order of their keys, so that other names mean another order. Each source
still has the same turns, also if it is live and serves several tables, and gives the same specs in
them. These are merged from the left, and what is left matches in any order.

## Contents
- **`turns_congr`**, **`turns_perm`**: the turns of sources in another order.
- **`numericSpec_eq_ok_iff`**: a range that is given, from the specs of the turns.
- **`consulted`**, **`Identified`**: the sources of a dashboard.
- **`numericSpec_orderFree`**: specs merged in any order, and registries with other names;
  **`numericSpec_orderFree_teams`**: zeros and sevens of two forms.
-/

namespace Winnow

/-! ## Turns in another order -/

/-- Which turns there are depends on the sources, not on their keys, and on how often each source
    was pulled, not on the order of the pulls. -/
theorem turns_congr {xs : List (TableKey × Source)} :
    ∀ {ys : List (TableKey × Source)} {pulls others : List Nat},
      xs.map (·.2) = ys.map (·.2) → pulls.Perm others → turns pulls xs = turns others ys := by
  induction xs with
  | nil =>
    intro ys pulls others hsame _
    obtain rfl := List.map_eq_nil_iff.mp hsame.symm
    rfl
  | cons x xs ih =>
    intro ys pulls others hsame hpulls
    obtain ⟨y, ys, rfl, hfirst, hrest⟩ := List.map_eq_cons_iff.mp hsame.symm
    rw [turns, turns, hfirst, hpulls.count_eq, ih hrest.symm (hpulls.cons x.2.id)]

/-- Sources that have one number are one source. -/
def Identified (sources : List Source) : Prop :=
  ∀ a ∈ sources, ∀ b ∈ sources, a.id = b.id → a = b

theorem Identified.of_subset {sources fewer : List Source} (h : Identified sources)
    (hsub : ∀ source ∈ fewer, source ∈ sources) : Identified fewer :=
  fun a ha b hb => h a (hsub a ha) b (hsub b hb)

/-- **Turns in another order** are the same turns. -/
theorem turns_perm {xs ys : List (TableKey × Source)} (h : xs.Perm ys) :
    ∀ {pulls : List Nat}, Identified (xs.map (·.2)) → (turns pulls xs).Perm (turns pulls ys) := by
  induction h with
  | nil => exact fun _ => .nil
  | cons x _ ih =>
    intro pulls hid
    exact (ih (hid.of_subset fun _ => List.mem_cons_of_mem _)).cons _
  | swap x y rest =>
    intro pulls hid
    by_cases hsame : x.2.id = y.2.id
    · -- one source twice: only the keys change places
      have hsource : x.2 = y.2 := hid x.2 (by simp) y.2 (by simp) hsame
      have hsame : (y :: x :: rest).map (·.2) = (x :: y :: rest).map (·.2) := by simp [hsource]
      rw [turns_congr hsame (.refl pulls)]
    · -- neither of the two turns counts the other one
      have hx : (y.2.id :: pulls).count x.2.id = pulls.count x.2.id :=
        List.count_cons_of_ne (Ne.symm hsame)
      have hy : (x.2.id :: pulls).count y.2.id = pulls.count y.2.id :=
        List.count_cons_of_ne hsame
      simp only [turns]
      rw [hx, hy, turns_congr rfl (List.Perm.swap y.2.id x.2.id pulls)]
      exact .swap _ _ _
  | trans hxy _ ihxy ihyz =>
    intro pulls hid
    exact (ihxy hid).trans (ihyz (hid.of_subset fun _ => (hxy.map _).mem_iff.mpr))

namespace Registry

open NumericSpec Summary

variable {registry renamed : Registry} {session : Session} {column : String}
  {table dashboard : Option String} {spec : NumericSpec}

/-! ## Ranges that are given -/

theorem mergeSpecs_eq_ok_iff {missing : Error} {specs : List NumericSpec} :
    mergeSpecs missing specs = .ok spec ↔
      ∃ first rest, specs = first :: rest ∧ rest.foldl NumericSpec.merge first = spec := by
  cases specs with
  | nil => exact iff_of_false (fun h => by cases h) (by rintro ⟨_, _, h, _⟩; cases h)
  | cons first rest =>
    rw [mergeSpecs, Except.ok.injEq]
    constructor
    · exact fun h => ⟨first, rest, rfl, h⟩
    · rintro ⟨_, _, h, hspec⟩
      obtain ⟨rfl, rfl⟩ := List.cons.inj h
      exact hspec

/-- The specs that the tables give in their turns. -/
def SpecsInTurn (registry : Registry) (session : Session) (column : String)
    (table dashboard : Option String) (specs : List NumericSpec) : Prop :=
  List.Forall₂ (fun turn spec => turn.1.specAt column session.files turn.2 = .ok spec)
    (turns session.pulls (registry.declaring column table dashboard)) specs

/-- **A range that is given** is that of the specs of all turns, merged from the left. -/
theorem numericSpec_eq_ok_iff :
    ((registry.numericSpec column table dashboard).runOn session).1 = .ok spec ↔
      ∃ first rest, registry.SpecsInTurn session column table dashboard (first :: rest) ∧
        rest.foldl NumericSpec.merge first = spec := by
  obtain ⟨result, pulled, hend, hends⟩ := ends_numericSpec registry session column table dashboard
  have hnone : registry.declaring column table dashboard = [] → ¬ ∃ first rest,
      registry.SpecsInTurn session column table dashboard (first :: rest) ∧
        rest.foldl NumericSpec.merge first = spec := by
    rintro hempty ⟨first, rest, hturns, _⟩
    rw [SpecsInTurn, hempty] at hturns
    cases hturns
  rw [hends.result]
  cases hend with
  | noTables hservers =>
    exact iff_of_false (fun h => by cases h) (hnone (by rw [declaring, hservers]))
  | noneTakesPart hservers hfound =>
    refine iff_of_false (fun h => by cases h) (hnone ?_)
    rw [declaring, hservers]
    exact List.filter_eq_nil_iff.mpr fun entry hentry => by simp [hfound entry hentry]
  | asked hservers _ _ hasked =>
    rw [bind_eq_ok_iff, hasked.result_eq]
    simp only [mapM_eq_ok_iff, mergeSpecs_eq_ok_iff, SpecsInTurn, declaring, hservers]
    constructor
    · rintro ⟨_, hturns, first, rest, rfl, hspec⟩
      exact ⟨first, rest, hturns, hspec⟩
    · rintro ⟨first, rest, hturns, hspec⟩
      exact ⟨_, hturns, first, rest, rfl, hspec⟩

/-- The spec that a source gives at a pull is numeric. -/
theorem numeric_of_specAt {source : Source} {files : Files} {pull : Nat}
    (h : source.specAt column files pull = .ok spec) : spec.Numeric := by
  obtain ⟨values, _, hspec⟩ := bind_eq_ok_iff.mp h
  obtain ⟨hnumbers, hstep, first, rest, rfl, hmin, hmax⟩ := NumericSpec.numericSpec_eq_ok hspec
  refine ⟨?_, ?_, ?_⟩
  · exact hmin ▸ hnumbers first List.mem_cons_self
  · exact hmax ▸ hnumbers _ List.getLastD_mem_cons
  · obtain ⟨hdomain, _, hcomparable⟩ := Cell.comparable_of_less hstep
    exact Cell.isOrdered_iff.mpr ⟨hdomain.symm, hcomparable⟩

theorem numeric_of_specsInTurn {specs : List NumericSpec}
    (h : registry.SpecsInTurn session column table dashboard specs) :
    ∀ spec ∈ specs, spec.Numeric := by
  intro spec hspec
  obtain ⟨turn, _, hturn⟩ := exists_left_of_forall₂ h spec hspec
  exact numeric_of_specAt hturn

/-! ## Other names -/

/-- The sources that a request on a dashboard, or on all tables, consults. -/
def consulted (registry : Registry) (dashboard : Option String) : List Source :=
  (registry.entries.filter fun entry => dashboard.isNone || entry.1.dashboard = dashboard).map (·.2)

theorem map_declaring (registry : Registry) (column : String) (dashboard : Option String) :
    (registry.declaring column none dashboard).map (·.2) =
      (registry.consulted dashboard).filter fun source =>
        source.schema.typeOf? column = some .number := by
  rw [declaring, consulted, servers_none, List.filter_map]
  cases registry.entries.filter fun entry => dashboard.isNone || entry.1.dashboard = dashboard with
  | nil => rfl
  | cons entry rest => rfl

/-- **Other names, the same turns.** If registries hold the same sources, the specs given in turn
    are the same ones in another order. -/
theorem exists_specsInTurn {specs : List NumericSpec}
    (hsame : (registry.consulted dashboard).Perm (renamed.consulted dashboard))
    (hid : Identified (registry.consulted dashboard))
    (h : registry.SpecsInTurn session column none dashboard specs) :
    ∃ others, renamed.SpecsInTurn session column none dashboard others ∧ others.Perm specs := by
  have hsources : ((renamed.declaring column none dashboard).map (·.2)).Perm
      ((registry.declaring column none dashboard).map (·.2)) := by
    rw [map_declaring, map_declaring]
    exact (hsame.filter _).symm
  -- the entries of the one registry, with the keys they have there, in the order of the other one
  obtain ⟨entries, hentries, hperm⟩ :=
    List.perm_comp_forall₂ (r := fun source entry => source = entry.2) hsources
      (List.forall₂_map_left_iff.mpr (List.forall₂_same.mpr fun _ _ => rfl))
  have hmap : (renamed.declaring column none dashboard).map (·.2) = entries.map (·.2) := by
    rw [← List.forall₂_eq_eq_eq]
    exact List.forall₂_map_right_iff.mpr hentries
  have hidentified : Identified (entries.map (·.2)) := by
    refine hid.of_subset fun source hsource => ?_
    rw [(hperm.map _).mem_iff, map_declaring] at hsource
    exact (List.mem_filter.mp hsource).1
  have hturns : (turns session.pulls _).Perm (turns session.pulls _) :=
    turns_perm hperm hidentified
  rw [← turns_congr hmap (.refl session.pulls)] at hturns
  exact List.perm_comp_forall₂ hturns h

/-- **Ranges of renamed tables match.** -/
theorem numericSpec_renamed
    (hsame : (registry.consulted dashboard).Perm (renamed.consulted dashboard))
    (hid : Identified (registry.consulted dashboard))
    (h : ((registry.numericSpec column none dashboard).runOn session).1 = .ok spec) :
    ∃ other, ((renamed.numericSpec column none dashboard).runOn session).1 = .ok other ∧
      spec.Matches other := by
  obtain ⟨first, rest, hturns, rfl⟩ := numericSpec_eq_ok_iff.mp h
  obtain ⟨others, hothers, hperm⟩ := exists_specsInTurn hsame hid hturns
  cases others with
  | nil => exact absurd hperm.symm (List.cons_ne_nil _ _ ∘ List.Perm.eq_nil)
  | cons first' rest' =>
    refine ⟨_, numericSpec_eq_ok_iff.mpr ⟨first', rest', hothers, rfl⟩, ?_⟩
    exact (Covers.foldl rest (covers_singleton first)).matches
      (Covers.foldl rest' (covers_singleton first')) (fun spec => hperm.symm.mem_iff)
      (numeric_of_specsInTurn hturns)

/-- **The order of merging does not matter.** A spec merged with itself stays as it is. Numeric
    specs of which no field blurs integers can be merged one after the other or grouped in any way,
    and in any order: the results match, each field of a result is that of a member, and it bounds
    that field of all members. If all fields are integers, the results are the same. So a range that
    a registry gives is one that it also gives, up to matching fields, if its tables have other
    names. -/
theorem numericSpec_orderFree :
    (∀ spec : NumericSpec, spec.merge spec = spec) ∧
    (∀ (first : NumericSpec) (rest : List NumericSpec), ∃ grouping : Grouping,
      grouping.members = first :: rest ∧ grouping.merged = rest.foldl NumericSpec.merge first) ∧
    (∀ left right : Grouping, left.members.Perm right.members →
      (∀ spec ∈ left.members, spec.Numeric) → FieldsUnmixed left.members →
      left.merged.Matches right.merged ∧
      (∀ spec ∈ left.members, left.merged.min.AtMost spec.min ∧
        spec.max.AtMost left.merged.max ∧ left.merged.increment.AtMost spec.increment) ∧
      (∃ spec ∈ left.members, spec.min = left.merged.min) ∧
      (∃ spec ∈ left.members, spec.max = left.merged.max) ∧
      (∃ spec ∈ left.members, spec.increment = left.merged.increment)) ∧
    (∀ left right : Grouping, left.members.Perm right.members →
      (∀ spec ∈ left.members, spec.Whole) → left.merged = right.merged) ∧
    ∀ (registry renamed : Registry) (session : Session) (column : String)
      (dashboard : Option String) (spec : NumericSpec),
      (registry.consulted dashboard).Perm (renamed.consulted dashboard) →
      Identified (registry.consulted dashboard) →
      ((registry.numericSpec column none dashboard).runOn session).1 = .ok spec →
      ∃ other, ((renamed.numericSpec column none dashboard).runOn session).1 = .ok other ∧
        spec.Matches other := by
  have hmatches : ∀ left right : Grouping, left.members.Perm right.members →
      (∀ spec ∈ left.members, spec.Numeric) → FieldsUnmixed left.members →
      left.merged.Matches right.merged := by
    intro left right hperm hnumbers hmix
    have hright : right.merged.Covers right.members :=
      covers_merged right (fun spec hspec => hnumbers spec (hperm.symm.subset hspec))
        (hmix.of_subset fun _ hspec => hperm.symm.subset hspec)
    exact (covers_merged left hnumbers hmix).matches hright (fun _ => hperm.mem_iff) hnumbers
  refine ⟨merge_self, ?_, ?_, ?_, ?_⟩
  · exact fun first rest => Grouping.exists_foldl rest (.single first)
  · intro left right hperm hnumbers hmix
    have hcovers := covers_merged left hnumbers hmix
    exact ⟨hmatches left right hperm hnumbers hmix, hcovers.bounds hnumbers, hcovers.exists_fields⟩
  · intro left right hperm hwhole
    have hright : ∀ spec ∈ right.members, spec.Whole :=
      fun spec hspec => hwhole spec (hperm.symm.subset hspec)
    have hcovers : ∀ {grouping : Grouping}, (∀ spec ∈ grouping.members, spec.Whole) →
        grouping.merged.Covers grouping.members := fun h =>
      covers_merged _ (fun spec hspec => (h spec hspec).numeric) (fieldsUnmixed_of_whole h)
    have hsame := hmatches left right hperm (fun spec hspec => (hwhole spec hspec).numeric)
      (fieldsUnmixed_of_whole hwhole)
    exact hsame.eq_of_whole ((hcovers hwhole).whole hwhole) ((hcovers hright).whole hright)
  · intro registry renamed session column dashboard spec hsame hid h
    exact numericSpec_renamed hsame hid h

/-- A source of two scores. -/
def scoresOf (id : Nat) (low high : Cell) : Source :=
  ⟨id, [⟨"score", .number⟩], .memory [[low], [high]]⟩

/-- Zero and seven, as integers and as floats, of which the first one is negative zero. -/
def teams : Registry × Registry :=
  let whole := scoresOf 0 (.integer 0) (.integer 7)
  let floats := scoresOf 1 (.float Double.zero.neg) (.float (Double.ofInt 7))
  (⟨[(⟨some "team", "away"⟩, whole), (⟨some "team", "home"⟩, floats)], by decide⟩,
    ⟨[(⟨some "team", "away"⟩, floats), (⟨some "team", "home"⟩, whole)], by decide⟩)

/-- Two scores in sorted order give their range. -/
theorem specAt_scoresOf {id : Nat} {low high : Cell} (hone : OneDomain [low, high])
    (hsorted : [low, high].Pairwise fun a b => (sortOrder a b != .gt) = true)
    (hspec : (Summary.numericSpec "score" (dropRepeats [low, high])).toOption = some spec) :
    (scoresOf id low high).specAt "score" Session.fresh.files 0 = .ok spec := by
  have hsupplied : Supplies "score" Session.fresh.files (scoresOf id low high, 0) [low, high] :=
    ⟨_, rfl, .cons rfl (.cons rfl .nil)⟩
  have hvalues := valuesAt_of_supplies rfl hsupplied
  rw [sortedDistinct_of_sorted hone hsorted] at hvalues
  rw [Source.specAt, hvalues]
  exact toOption_eq_some_iff.mp hspec

/-- If the two tables change places, the range is written with the other forms of its numbers. So it
    is with specs that are grouped otherwise. -/
theorem numericSpec_orderFree_teams :
    (∃ other, ((teams.2.numericSpec "score" none (some "team")).runOn Session.fresh).1 =
      .ok other ∧ Matches ⟨.integer 0, .integer 7, .integer 7⟩ other) ∧
    (((⟨.integer 0, .integer 7, .integer 2⟩ : NumericSpec).merge
        ⟨.float Double.zero.neg, .float (Double.ofInt 7), .integer 3⟩).merge
          ⟨.integer 4, .integer 5, .integer 1⟩).Matches
      ((⟨.integer 4, .integer 5, .integer 1⟩ : NumericSpec).merge
        ((⟨.float Double.zero.neg, .float (Double.ofInt 7), .integer 3⟩ : NumericSpec).merge
          ⟨.integer 0, .integer 7, .integer 2⟩)) ∧
    (⟨.integer 0, .integer 7, .integer 2⟩ : NumericSpec).merge
        ⟨.integer 4, .integer 5, .integer 1⟩ =
      (⟨.integer 4, .integer 5, .integer 1⟩ : NumericSpec).merge
        ⟨.integer 0, .integer 7, .integer 2⟩ := by
  obtain ⟨-, -, hgrouped, hwhole, hrenamed⟩ := numericSpec_orderFree
  refine ⟨?_, ?_, ?_⟩
  · have hwhole : (scoresOf 0 (.integer 0) (.integer 7)).specAt "score" Session.fresh.files 0 =
        .ok ⟨.integer 0, .integer 7, .integer 7⟩ :=
      specAt_scoresOf (by unfold OneDomain; decide) (by decide +kernel) (by decide +kernel)
    have hfloats : (scoresOf 1 (.float Double.zero.neg) (.float (Double.ofInt 7))).specAt "score"
        Session.fresh.files 0 =
          .ok ⟨.float Double.zero.neg, .float (Double.ofInt 7), .float (Double.ofInt 7)⟩ :=
      specAt_scoresOf (by unfold OneDomain; decide) (by decide +kernel) (by decide +kernel)
    have hid : Identified (teams.1.consulted (some "team")) := by
      refine List.forall_mem_cons.mpr ⟨?_, List.forall_mem_singleton.mpr ?_⟩
      · exact List.forall_mem_cons.mpr ⟨fun _ => rfl, List.forall_mem_singleton.mpr nofun⟩
      · exact List.forall_mem_cons.mpr ⟨nofun, List.forall_mem_singleton.mpr fun _ => rfl⟩
    refine hrenamed teams.1 teams.2 _ _ _ _ (.swap _ _ _) hid ?_
    exact numericSpec_eq_ok_iff.mpr
      ⟨_, _, .cons hwhole (.cons hfloats .nil), by decide +kernel⟩
  · refine (hgrouped (.both (.both (.single _) (.single _)) (.single _))
      (.both (.single _) (.both (.single _) (.single _))) ?_ ?_ ?_).1
    · exact .trans (.cons _ (.swap _ _ [])) (.trans (.swap _ _ _) (.cons _ (.swap _ _ [])))
    · have hfloats : NumericSpec.Numeric
          ⟨.float Double.zero.neg, .float (Double.ofInt 7), .integer 3⟩ :=
        ⟨by decide +kernel, by decide +kernel, rfl⟩
      exact List.forall_mem_cons.mpr ⟨⟨rfl, rfl, rfl⟩,
        List.forall_mem_cons.mpr ⟨hfloats, List.forall_mem_singleton.mpr ⟨rfl, rfl, rfl⟩⟩⟩
    · exact ⟨by decide +kernel, by decide +kernel, by decide +kernel⟩
  · exact hwhole (.both (.single _) (.single _)) (.both (.single _) (.single _)) (.swap _ _ _)
      (List.forall_mem_cons.mpr ⟨⟨_, _, _, rfl⟩, List.forall_mem_singleton.mpr ⟨_, _, _, rfl⟩⟩)

end Registry

end Winnow
