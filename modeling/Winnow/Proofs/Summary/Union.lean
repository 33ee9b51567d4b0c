import Winnow.Proofs.Cell.Stable
import Winnow.Proofs.Summary.Distinct

/-!
# `Winnow.Proofs.Summary.Union` — distinct values in parts

The distinct values of several lists can be found list by list. What has to be shown is that the
same cells stay: of the cells of one value the first of those that are sorted lowest is kept, NaNs
are all kept, and both can be told for each value by itself. So sorting and dropping repeats is
followed on the fibres of values, where it takes the head or leaves everything, and sorted lists of
the same fibres are equal.

## Contents
- **`isDuplicate_iff_place`**, **`eq_of_isNaN`**: which cells count once, as a matter of places.
- **`among`**, **`sortedDistinct_eq_among`**: distinct values of some of the cells.
- **`fibre_among`**: the fibres of distinct values.
- **`among_of_isNaN`**, **`among_of_not_isNaN`**: the distinct values of cells of one value.
- **`among_flatten`**: lists whose distinct values were taken before.
- **`Agree`**, **`mergeValues_agree`**: the two ways to the distinct values of several lists.
-/

namespace Winnow.Summary

open Cell Place

variable {cells : List Cell}

/-! ## Cells of one value -/

/-- Cells of one value compare or not together. -/
theorem isComparable_of_place_eq (hone : OneDomain cells) {a b : Cell} (ha : a ∈ cells)
    (hb : b ∈ cells) (hplace : place Double.ordinal cells a = place Double.ordinal cells b)
    (hcomparable : a.isComparable = true) : b.isComparable = true := by
  have hself := le_self (place Double.ordinal cells a)
  refine @isComparable_of_between cells a b a (hone _ ha _ hb) (hone _ hb _ ha) ?_ ?_
    hcomparable hcomparable
  · rwa [← hplace]
  · rwa [← hplace]

/-- **Two cells count once** exactly if they are of one value and not NaN. -/
theorem isDuplicate_iff_place (hmix : Unmixed cells) (hone : OneDomain cells) {a b : Cell}
    (ha : a ∈ cells) (hb : b ∈ cells) :
    isDuplicate a b = true ↔
      place Double.ordinal cells a = place Double.ordinal cells b ∧ a.isNaN = false := by
  have hdomain := hone a ha b hb
  rw [isDuplicate_iff]
  constructor
  · rintro (hsame | ⟨rfl, rfl⟩)
    · obtain ⟨_, hca, hcb⟩ := comparable_of_sameAs hsame
      exact ⟨(sameAs_iff_place_eq hmix ha hb hdomain hca hcb).mp hsame, (isComparable_iff.mp hca).2⟩
    · exact ⟨rfl, rfl⟩
  · rintro ⟨hplace, hnumber⟩
    cases hnull : a.isComparable with
    | true =>
      have hcb := isComparable_of_place_eq hone ha hb hplace hnull
      exact Or.inl ((sameAs_iff_place_eq hmix ha hb hdomain hnull hcb).mpr hplace)
    | false =>
      refine Or.inr ?_
      cases a <;> cases b <;> simp_all [isComparable, domain]

/-- A NaN is the only cell of its value. -/
theorem eq_of_isNaN (hone : OneDomain cells) {a b : Cell} (ha : a ∈ cells) (hb : b ∈ cells)
    (hnan : a.isNaN = true)
    (hplace : place Double.ordinal cells a = place Double.ordinal cells b) : a = b := by
  have hcb : ¬ b.isComparable = true := by
    intro hcb
    have hca := isComparable_of_place_eq hone hb ha hplace.symm hcb
    exact Bool.false_ne_true ((isComparable_iff.mp hca).2.symm.trans hnan)
  have hdomain := hone a ha b hb
  cases a with
  | float x =>
    cases b with
    | float y =>
      rcases Double.eq_or_zeros_of_ordinal_eq (congrArg Place.major hplace) with rfl | ⟨hzero, _⟩
      · rfl
      · simp [isNaN, Double.isNaN, hzero] at hnan
    | integer j => exact absurd rfl hcb
    | null | boolean _ | string _ => cases hdomain
  | null | boolean _ | integer _ | string _ => cases hnan

/-! ## Distinct values of some of the cells -/

/-- The distinct values of some of the cells, sorted by their places among all of them. -/
def among (cells values : List Cell) : List Cell :=
  dropRepeats (sortBy (place Double.rank cells) values)

/-- On unmixed cells of one domain the places say how to sort. -/
theorem sortedDistinct_eq_among (hmix : Unmixed cells) (hone : OneDomain cells)
    {values : List Cell} (hsub : ∀ cell ∈ values, cell ∈ cells) :
    sortedDistinct values = .ok (among cells values) := by
  have hvalues : OneDomain values := fun a ha b hb => hone a (hsub a ha) b (hsub b hb)
  have hsort : (values.mergeSort fun a b => sortOrder a b != .gt).map id =
      sortBy (place Double.rank cells) (values.map id) :=
    List.map_mergeSort fun a ha b hb => sortOrder_eq_le hmix hone (hsub a ha) (hsub b hb)
  rw [List.map_id, List.map_id] at hsort
  rw [sortedDistinct_eq, requireOneDomain_eq_ok_iff.mpr hvalues, hsort]
  rfl

theorem dropRepeats_sublist (values : List Cell) : (dropRepeats values).Sublist values := by
  cases values with
  | nil => exact List.Sublist.refl _
  | cons first rest =>
    rw [dropRepeats_cons]
    exact keptFrom_sublist rest first

theorem mem_of_mem_among {values : List Cell} {cell : Cell} (h : cell ∈ among cells values) :
    cell ∈ values :=
  mem_sortBy.mp ((dropRepeats_sublist _).subset h)

/-- Sorted cells are in the order of their values. -/
theorem sorted_values (hmix : Unmixed cells) (hone : OneDomain cells) {values : List Cell}
    (hsub : ∀ cell ∈ values, cell ∈ cells) :
    Sorted (place Double.ordinal cells) (sortBy (place Double.rank cells) values) := by
  refine (sorted_sortBy _ values).imp_of_mem fun ha hb hle => ?_
  have ha := hsub _ (mem_sortBy.mp ha)
  have hb := hsub _ (mem_sortBy.mp hb)
  exact value_le_of_sort_le hmix ha hb (hone _ ha _ hb) hle

theorem sorted_among (hmix : Unmixed cells) (hone : OneDomain cells) {values : List Cell}
    (hsub : ∀ cell ∈ values, cell ∈ cells) :
    Sorted (place Double.ordinal cells) (among cells values) :=
  (sorted_values hmix hone hsub).sublist (dropRepeats_sublist _)

/-! ## Fibres of distinct values -/

/-- Repeats are dropped for each value by itself, as those of a value stand together. -/
theorem fibre_keptFrom (hmix : Unmixed cells) (hone : OneDomain cells) (k : Place)
    (rest : List Cell) : ∀ held, (∀ cell ∈ held :: rest, cell ∈ cells) →
      Sorted (place Double.ordinal cells) (held :: rest) →
      fibre (place Double.ordinal cells) k (keptFrom held rest) =
        dropRepeats (fibre (place Double.ordinal cells) k (held :: rest)) := by
  induction rest with
  | nil =>
    intro held _ _
    rw [keptFrom]
    by_cases hk : place Double.ordinal cells held = k
    · rw [fibre_cons_of_eq hk]
      rfl
    · rw [fibre_cons_of_ne hk]
      rfl
  | cons next rest ih =>
    intro held hsub hsorted
    obtain ⟨hheld, hrest⟩ := List.forall_mem_cons.mp hsub
    obtain ⟨hleast, htail⟩ := List.pairwise_cons.mp hsorted
    have hnext := hrest next List.mem_cons_self
    rw [keptFrom]
    split
    · rename_i hrepeat
      -- the repeat is of the value of the held cell, and is dropped in its fibre as well
      have hplace := ((isDuplicate_iff_place hmix hone hnext hheld).mp hrepeat).1
      have hfewer : ∀ cell ∈ held :: rest, cell ∈ cells := List.forall_mem_cons.mpr
        ⟨hheld, fun cell hcell => hrest cell (List.mem_cons_of_mem _ hcell)⟩
      rw [ih held hfewer (hsorted.sublist ((List.sublist_cons_self next rest).cons_cons held))]
      by_cases hk : place Double.ordinal cells held = k
      · rw [fibre_cons_of_eq hk, fibre_cons_of_eq hk, fibre_cons_of_eq (hplace.trans hk),
          dropRepeats_cons, dropRepeats_cons, keptFrom, if_pos hrepeat]
      · rw [fibre_cons_of_ne hk, fibre_cons_of_ne hk, fibre_cons_of_ne (hplace ▸ hk)]
    · rename_i hnew
      have hstep := ih next hrest htail
      by_cases hk : place Double.ordinal cells held = k
      · rw [fibre_cons_of_eq hk, fibre_cons_of_eq hk, hstep, dropRepeats_cons]
        by_cases hknext : place Double.ordinal cells next = k
        · rw [fibre_cons_of_eq hknext, dropRepeats_cons, keptFrom, if_neg hnew]
        · -- the next cell is above the value, and so are all others
          have hempty : fibre (place Double.ordinal cells) k (next :: rest) = [] := by
            refine List.eq_nil_iff_forall_not_mem.mpr fun cell hcell => hknext ?_
            obtain ⟨hcell, hkcell⟩ := mem_fibre.mp hcell
            have hlow := hleast next List.mem_cons_self
            rcases List.mem_cons.mp hcell with rfl | hcell
            · exact hkcell
            · have hhigh := (List.pairwise_cons.mp htail).1 cell hcell
              rw [hkcell, ← hk] at hhigh
              exact (eq_of_le_of_le hhigh hlow).trans hk
          rw [hempty]
          rfl
      · rw [fibre_cons_of_ne hk, fibre_cons_of_ne hk, hstep]

theorem fibre_among (hmix : Unmixed cells) (hone : OneDomain cells) (k : Place)
    {values : List Cell} (hsub : ∀ cell ∈ values, cell ∈ cells) :
    fibre (place Double.ordinal cells) k (among cells values) =
      among cells (fibre (place Double.ordinal cells) k values) := by
  have hsorted := sorted_values hmix hone hsub
  have hmem : ∀ cell ∈ sortBy (place Double.rank cells) values, cell ∈ cells :=
    fun cell hcell => hsub cell (mem_sortBy.mp hcell)
  have hfilter : fibre (place Double.ordinal cells) k (sortBy (place Double.rank cells) values) =
      sortBy (place Double.rank cells) (fibre (place Double.ordinal cells) k values) :=
    filter_sortBy values _
  rw [among, among, ← hfilter]
  cases hsort : sortBy (place Double.rank cells) values with
  | nil => rfl
  | cons first rest =>
    rw [hsort] at hsorted hmem
    rw [dropRepeats_cons]
    exact fibre_keptFrom hmix hone k rest first hmem hsorted

/-! ## The cells of one value -/

/-- If all cells count once, the first one is kept. -/
theorem dropRepeats_of_same {values : List Cell}
    (h : ∀ a ∈ values, ∀ b ∈ values, isDuplicate a b = true) :
    dropRepeats values = values.head?.toList := by
  cases values with
  | nil => rfl
  | cons first rest =>
    rw [dropRepeats_cons]
    have hrest : ∀ cell ∈ rest, isDuplicate cell first = true :=
      fun cell hcell => h cell (List.mem_cons_of_mem _ hcell) first List.mem_cons_self
    clear h
    induction rest with
    | nil => rfl
    | cons next rest ih =>
      obtain ⟨hnext, hrest⟩ := List.forall_mem_cons.mp hrest
      rw [keptFrom, if_pos hnext]
      exact ih hrest

/-- If no two cells count once, all are kept. -/
theorem dropRepeats_of_new {values : List Cell}
    (h : ∀ a ∈ values, ∀ b ∈ values, isDuplicate a b = false) : dropRepeats values = values := by
  cases values with
  | nil => rfl
  | cons first rest =>
    rw [dropRepeats_cons]
    induction rest generalizing first with
    | nil => rfl
    | cons next rest ih =>
      have hnew := h next (List.mem_cons_of_mem _ List.mem_cons_self) first List.mem_cons_self
      rw [keptFrom, if_neg (by simp [hnew])]
      refine congrArg (first :: ·) (ih next fun a ha b hb => ?_)
      exact h a (List.mem_cons_of_mem _ ha) b (List.mem_cons_of_mem _ hb)

/-- NaNs of one value are all kept as they are. -/
theorem among_of_isNaN (hmix : Unmixed cells) (hone : OneDomain cells) {values : List Cell}
    (hsub : ∀ cell ∈ values, cell ∈ cells) {nan : Cell} (hmem : nan ∈ cells)
    (hnan : nan.isNaN = true)
    (hsame : ∀ cell ∈ values, place Double.ordinal cells cell = place Double.ordinal cells nan) :
    among cells values = values := by
  have heq : ∀ cell ∈ values, cell = nan := fun cell hcell =>
    (eq_of_isNaN hone hmem (hsub cell hcell) hnan (hsame cell hcell).symm).symm
  rw [among, sortBy_of_same fun cell hcell => congrArg (place Double.rank cells) (heq cell hcell)]
  refine dropRepeats_of_new fun a ha b hb => Bool.eq_false_iff.mpr fun hrepeat => ?_
  have hnumber := ((isDuplicate_iff_place hmix hone (hsub a ha) (hsub b hb)).mp hrepeat).2
  rw [heq a ha, hnan] at hnumber
  cases hnumber

/-- Of other cells of one value the first of the lowest is kept. -/
theorem among_of_not_isNaN (hmix : Unmixed cells) (hone : OneDomain cells) {values : List Cell}
    (hsub : ∀ cell ∈ values, cell ∈ cells) {k : Place}
    (hsame : ∀ cell ∈ values, place Double.ordinal cells cell = k)
    (hnumber : ∀ cell ∈ values, cell.isNaN = false) :
    among cells values = (least? (place Double.rank cells) values).toList := by
  refine dropRepeats_of_same fun a ha b hb => ?_
  have ha := mem_sortBy.mp ha
  have hb := mem_sortBy.mp hb
  refine (isDuplicate_iff_place hmix hone (hsub a ha) (hsub b hb)).mpr ⟨?_, hnumber a ha⟩
  rw [hsame a ha, hsame b hb]

/-! ## Several lists -/

theorem mem_flatten_among {lists : List (List Cell)} {cell : Cell}
    (h : cell ∈ (lists.map (among cells)).flatten) : cell ∈ lists.flatten := by
  obtain ⟨values, hvalues, hcell⟩ := List.mem_flatten.mp h
  obtain ⟨list, hlist, rfl⟩ := List.mem_map.mp hvalues
  exact List.mem_flatten.mpr ⟨list, hlist, mem_of_mem_among hcell⟩

/-- **Lists of one value.** NaNs are all kept, so that nothing was dropped before. Of other cells
    the first of the lowest is kept, which is found among those kept before. -/
theorem among_flatten_of_same (hmix : Unmixed cells) (hone : OneDomain cells) {k : Place}
    {lists : List (List Cell)} (hsub : ∀ cell ∈ lists.flatten, cell ∈ cells)
    (hsame : ∀ cell ∈ lists.flatten, place Double.ordinal cells cell = k) :
    among cells (lists.map (among cells)).flatten = among cells lists.flatten := by
  have hin : ∀ list ∈ lists, ∀ cell ∈ list, cell ∈ lists.flatten :=
    fun list hlist cell hcell => List.mem_flatten.mpr ⟨list, hlist, hcell⟩
  by_cases hnan : ∃ nan ∈ cells, place Double.ordinal cells nan = k ∧ nan.isNaN = true
  · obtain ⟨nan, hmem, rfl, hnan⟩ := hnan
    have hkept : lists.map (among cells) = lists.map id := List.map_congr_left fun list hlist =>
      among_of_isNaN hmix hone (fun cell hcell => hsub cell (hin list hlist cell hcell)) hmem hnan
        fun cell hcell => hsame cell (hin list hlist cell hcell)
    rw [hkept, List.map_id]
  · have hnumber : ∀ cell ∈ lists.flatten, cell.isNaN = false := fun cell hcell =>
      Bool.eq_false_iff.mpr fun h => hnan ⟨cell, hsub cell hcell, hsame cell hcell, h⟩
    have hkept : lists.map (among cells) =
        lists.map fun list => (least? (place Double.rank cells) list).toList :=
      List.map_congr_left fun list hlist =>
        among_of_not_isNaN hmix hone (fun cell hcell => hsub cell (hin list hlist cell hcell))
          (fun cell hcell => hsame cell (hin list hlist cell hcell))
          fun cell hcell => hnumber cell (hin list hlist cell hcell)
    rw [among_of_not_isNaN hmix hone hsub hsame hnumber,
      among_of_not_isNaN hmix hone (fun cell hcell => hsub cell (mem_flatten_among hcell))
        (fun cell hcell => hsame cell (mem_flatten_among hcell))
        fun cell hcell => hnumber cell (mem_flatten_among hcell), hkept, least?_flatten]

/-- **Distinct values in parts.** Nothing is lost or changed if the distinct values of each list are
    taken first. -/
theorem among_flatten (hmix : Unmixed cells) (hone : OneDomain cells) {lists : List (List Cell)}
    (hsub : ∀ cell ∈ lists.flatten, cell ∈ cells) :
    among cells (lists.map (among cells)).flatten = among cells lists.flatten := by
  have hsub' : ∀ cell ∈ (lists.map (among cells)).flatten, cell ∈ cells :=
    fun cell hcell => hsub cell (mem_flatten_among hcell)
  refine eq_of_fibres (sorted_among hmix hone hsub') (sorted_among hmix hone hsub) fun k => ?_
  have hwhole : fibre (place Double.ordinal cells) k lists.flatten =
      (lists.map (fibre (place Double.ordinal cells) k)).flatten := List.filter_flatten
  have hparts : fibre (place Double.ordinal cells) k (lists.map (among cells)).flatten =
      ((lists.map (fibre (place Double.ordinal cells) k)).map (among cells)).flatten := by
    rw [fibre, List.filter_flatten, List.map_map, List.map_map]
    refine congrArg List.flatten (List.map_congr_left fun list hlist => ?_)
    exact fibre_among hmix hone k fun cell hcell =>
      hsub cell (List.mem_flatten.mpr ⟨list, hlist, hcell⟩)
  rw [fibre_among hmix hone k hsub', fibre_among hmix hone k hsub, hparts, hwhole]
  have hfibre : ∀ cell ∈ (lists.map (fibre (place Double.ordinal cells) k)).flatten,
      cell ∈ lists.flatten ∧ place Double.ordinal cells cell = k := by
    intro cell hcell
    rw [← hwhole] at hcell
    exact mem_fibre.mp hcell
  exact among_flatten_of_same hmix hone (fun cell hcell => hsub cell (hfibre cell hcell).1)
    fun cell hcell => (hfibre cell hcell).2

/-! ## Results -/

/-- Two results on distinct values agree: they give the same cells, or both found some that do not
    compare. -/
inductive Agree : Except Error (List Cell) → Except Error (List Cell) → Prop where
  | values (values : List Cell) : Agree (.ok values) (.ok values)
  | incomparable (a b c d : Cell) :
      Agree (.error (.incomparable a b)) (.error (.incomparable c d))

theorem Agree.eq_ok {run whole : Except Error (List Cell)} {values : List Cell}
    (h : Agree run whole) (hwhole : whole = .ok values) : run = .ok values := by
  cases h with
  | values found => exact hwhole
  | incomparable a b c d => cases hwhole

theorem Agree.eq_incomparable {run whole : Except Error (List Cell)} {e : Error}
    (h : Agree run whole) (hwhole : whole = .error e) :
    ∃ a b, run = .error (.incomparable a b) := by
  cases h with
  | values found => cases hwhole
  | incomparable a b c d => exact ⟨a, b, rfl⟩

theorem sortedDistinct_eq_error {values : List Cell} {e : Error}
    (h : sortedDistinct values = .error e) : ∃ a b, e = .incomparable a b := by
  obtain ⟨first, odd, _, rfl⟩ := sortedDistinct_eq_error_iff.mp h
  exact ⟨first, odd, rfl⟩

theorem sortedDistinct_of_not_oneDomain {values : List Cell} (h : ¬ OneDomain values) :
    ∃ a b, sortedDistinct values = .error (.incomparable a b) := by
  cases hrun : sortedDistinct values with
  | error e =>
    obtain ⟨a, b, rfl⟩ := sortedDistinct_eq_error hrun
    exact ⟨a, b, rfl⟩
  | ok distinct =>
    rw [sortedDistinct_eq] at hrun
    obtain ⟨_, hcheck, _⟩ := bind_eq_ok_iff.mp hrun
    exact absurd (requireOneDomain_eq_ok_iff.mp hcheck) h

/-- If one of several lists has no distinct values, it is since its cells do not compare. -/
theorem mapM_sortedDistinct_eq_error {lists : List (List Cell)} {e : Error}
    (h : lists.mapM sortedDistinct = .error e) : ∃ a b, e = .incomparable a b := by
  have hfault := fault?_eq_some_iff.mpr h
  rw [fault?_mapM] at hfault
  obtain ⟨list, _, hlist⟩ := List.exists_of_findSome?_eq_some hfault
  exact sortedDistinct_eq_error (fault?_eq_some_iff.mp hlist)

/-- Every cell has one of its domain among the distinct values of its list. -/
theorem exists_domain_of_forall₂ {lists distinct : List (List Cell)}
    (hmix : Unmixed lists.flatten)
    (h : List.Forall₂ (fun list values => sortedDistinct list = .ok values) lists distinct) :
    ∀ cell ∈ lists.flatten, ∃ value ∈ distinct.flatten, value.domain = cell.domain := by
  induction h with
  | nil => exact fun cell hcell => absurd hcell List.not_mem_nil
  | @cons list values _ _ hlist _ ih =>
    rw [List.flatten_cons] at hmix ⊢
    intro cell hcell
    have hdistinct := isDistinct_of_sortedDistinct
      (hmix.of_subset fun cell hcell => List.mem_append_left _ hcell) hlist
    rcases List.mem_append.mp hcell with hcell | hcell
    · obtain ⟨value, hvalue, _⟩ := hdistinct.covers cell hcell
      exact ⟨value, List.mem_append_left _ hvalue,
        hdistinct.oneDomain value (hdistinct.subset value hvalue) cell hcell⟩
    · obtain ⟨value, hvalue, hdomain⟩ :=
        ih (hmix.of_subset fun cell hcell => List.mem_append_right _ hcell) cell hcell
      exact ⟨value, List.mem_append_right _ hvalue, hdomain⟩

/-- **Merging agrees with one list.** The distinct values of several lists, merged, are those of
    their concatenation, cell for cell. -/
theorem mergeValues_agree {lists : List (List Cell)} (hmix : Unmixed lists.flatten) :
    Agree (lists.mapM sortedDistinct >>= mergeValues) (sortedDistinct lists.flatten) := by
  by_cases hone : OneDomain lists.flatten
  · have heach : lists.mapM sortedDistinct = .ok (lists.map (among lists.flatten)) := by
      refine mapM_eq_ok_iff.mpr (List.forall₂_map_right_iff.mpr (List.forall₂_same.mpr ?_))
      exact fun list hlist => sortedDistinct_eq_among hmix hone fun cell hcell =>
        List.mem_flatten.mpr ⟨list, hlist, hcell⟩
    have hmerged : mergeValues (lists.map (among lists.flatten)) =
        .ok (among lists.flatten (lists.map (among lists.flatten)).flatten) :=
      sortedDistinct_eq_among hmix hone fun cell hcell => mem_flatten_among hcell
    have hwhole := sortedDistinct_eq_among hmix hone fun cell hcell => hcell
    rw [heach, hwhole]
    show Agree (mergeValues (lists.map (among lists.flatten))) _
    rw [hmerged, among_flatten hmix hone fun cell hcell => hcell]
    exact .values _
  · obtain ⟨c, d, hwhole⟩ := sortedDistinct_of_not_oneDomain hone
    rw [hwhole]
    cases hlists : lists.mapM sortedDistinct with
    | error e =>
      obtain ⟨a, b, rfl⟩ := mapM_sortedDistinct_eq_error hlists
      exact .incomparable a b c d
    | ok distinct =>
      have hdomains := exists_domain_of_forall₂ hmix (mapM_eq_ok_iff.mp hlists)
      -- were the values of one domain, so would be the cells
      have hodd : ¬ OneDomain distinct.flatten := by
        intro hsame
        refine hone fun a ha b hb => ?_
        obtain ⟨v, hv, hdv⟩ := hdomains a ha
        obtain ⟨w, hw, hdw⟩ := hdomains b hb
        rw [← hdv, ← hdw, hsame v hv w hw]
      obtain ⟨a, b, hmerged⟩ := sortedDistinct_of_not_oneDomain hodd
      show Agree (mergeValues distinct) _
      rw [mergeValues_eq, hmerged]
      exact .incomparable a b c d

end Winnow.Summary
