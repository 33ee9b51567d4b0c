import Mathlib.Data.List.Forall2
import Winnow.Proofs.Summary.Union

/-!
# `Winnow.Proofs.Summary.Representatives` — which cells become distinct values

The distinct values of unmixed cells of one domain, told without sorting. The cells that are the
same as a given one are represented by a single value, the first of them; only negative zero goes
before other zeros, as it is sorted below them. NaNs are the same as nothing: all of them stay, and
they stand at the ends, since their words lie outside those of the infinities.

Each statement is on the cells of one value, where the distinct values are the head of the sorted
cells or all of them. So the order of the cells can only decide which of the same cells comes first.

## Contents
- **`negativeZero`**, **`representative?`**, **`least?_eq_representative?`**: the cell that is kept.
- **`isNaNOf`**, **`exists_ends`**: where NaNs stand.
- **`Represents`**, **`represents_of_sortedDistinct`**: what distinct values are.
- **`Alike`**, **`sortedDistinct_perm`**: the same cells in another order.
- **`sortedDistinct_represents`**.
-/

namespace Winnow

/-! ## Zeros and NaNs -/

namespace Cell

/-- Negative zero, which is sorted below the other zeros. -/
def negativeZero : Cell := float Double.zero.neg

/-- Whether a cell is a NaN of a sign. -/
def isNaNOf (negative : Bool) : Cell → Bool
  | float x => x.isNaN && x.negative == negative
  | _ => false

theorem isNaN_eq_false_of_neither {cell : Cell} (hlow : cell.isNaNOf true = false)
    (hhigh : cell.isNaNOf false = false) : cell.isNaN = false := by
  cases cell with
  | float x =>
    cases hx : x.negative <;> simp_all [isNaNOf, isNaN]
  | null | boolean _ | integer _ | string _ => rfl

end Cell

namespace Summary

open Cell Place

variable {cells : List Cell}

/-! ## The cell that is kept -/

/-- Of cells of one value negative zero is kept if it is among them, or else the first. -/
def representative? (same : List Cell) : Option Cell :=
  if negativeZero ∈ same then some negativeZero else same.head?

/-- Cells of one value are sorted alike, unless one of them is negative zero. -/
theorem sort_place_eq_or_negativeZero {a b : Cell} (hdomain : a.domain = b.domain)
    (hplace : place Double.ordinal cells a = place Double.ordinal cells b) :
    place Double.rank cells a = place Double.rank cells b ∨ a = negativeZero ∨ b = negativeZero := by
  have hnumber : ∀ {x y : Double} {i j : Int},
      (⟨x.ordinal, i, ""⟩ : Place) = ⟨y.ordinal, j, ""⟩ →
      (⟨x.rank, i, ""⟩ : Place) = ⟨y.rank, j, ""⟩ ∨ x = Double.zero.neg ∨ y = Double.zero.neg := by
    intro x y i j h
    have hminor : i = j := congrArg Place.minor h
    refine (Double.eq_or_negativeZero_of_ordinal_eq (congrArg Place.major h)).imp_left ?_
    rintro rfl
    rw [hminor]
  -- only numbers have levels; every other cell has one place in both orders
  cases akin_of_domain_eq hdomain with
  | nulls | booleans _ _ | strings _ _ => exact Or.inl hplace
  | integers i j =>
    refine (hnumber hplace).imp_right fun h => ?_
    exact (h.elim (Double.ofInt_ne_negativeZero _) (Double.ofInt_ne_negativeZero _)).elim
  | integerFloat i y =>
    refine (hnumber hplace).imp_right fun h => Or.inr ?_
    exact congrArg float (h.resolve_left (Double.ofInt_ne_negativeZero _))
  | floatInteger x j =>
    refine (hnumber hplace).imp_right fun h => Or.inl ?_
    exact congrArg float (h.resolve_right (Double.ofInt_ne_negativeZero _))
  | floats x y => exact (hnumber hplace).imp_right (Or.imp (congrArg float) (congrArg float))

/-- Negative zero is sorted below all other cells of its value. -/
theorem eq_negativeZero_of_le {a : Cell} (hdomain : a.domain = .number)
    (hplace : place Double.ordinal cells a = place Double.ordinal cells negativeZero)
    (hle : (place Double.rank cells a).le (place Double.rank cells negativeZero) = true) :
    a = negativeZero := by
  have hrank : (place Double.rank cells a).major ≤ -1 := major_le_of_le hle
  have hlow : ∀ x : Double, x.ordinal = 0 → x.rank ≤ -1 → x = Double.zero.neg := by
    intro x hordinal hrank
    have hzero : x.ordinal = Double.zero.ordinal := hordinal
    rcases Double.eq_or_negativeZero_of_ordinal_eq hzero with rfl | hx | hzero
    · exact absurd hrank (by decide)
    · exact hx
    · cases hzero
  cases a with
  | integer i =>
    exact absurd (hlow _ (congrArg Place.major hplace) hrank) (Double.ofInt_ne_negativeZero _)
  | float x => exact congrArg float (hlow x (congrArg Place.major hplace) hrank)
  | null | boolean _ | string _ => cases hdomain

/-- **The head of the sorted cells of one value.** Without negative zero they are sorted alike, so
    that the first of them stays in front. -/
theorem least?_eq_representative? (hone : OneDomain cells) {same : List Cell}
    (hsub : ∀ cell ∈ same, cell ∈ cells) {k : Place}
    (hsame : ∀ cell ∈ same, place Double.ordinal cells cell = k) :
    least? (place Double.rank cells) same = representative? same := by
  rw [representative?]
  split
  · rename_i hzero
    obtain ⟨lowest, hlowest⟩ := exists_least? (p := place Double.rank cells) hzero
    have hmem := mem_of_least? hlowest
    rw [hlowest]
    refine congrArg some (eq_negativeZero_of_le ?_ ?_ (least?_le hlowest _ hzero))
    · exact hone _ (hsub _ hmem) _ (hsub _ hzero)
    · rw [hsame _ hmem, hsame _ hzero]
  · rename_i hzero
    cases same with
    | nil => exact least?_eq_none_iff.mpr rfl
    | cons first rest =>
      have hfirst : ∀ cell ∈ first :: rest,
          place Double.rank cells cell = place Double.rank cells first := by
        intro cell hcell
        have hplace := (hsame cell hcell).trans (hsame first List.mem_cons_self).symm
        have hdomain := hone _ (hsub _ hcell) _ (hsub first List.mem_cons_self)
        rcases sort_place_eq_or_negativeZero hdomain hplace with heq | rfl | rfl
        · exact heq
        · exact absurd hcell hzero
        · exact absurd List.mem_cons_self hzero
      exact least?_of_same hfirst

/-- The cells that are the same as one that compares are those of its place. -/
theorem filter_sameAs_eq_fibre (hmix : Unmixed cells) (hone : OneDomain cells) {cell : Cell}
    (hcell : cell ∈ cells) (hcomparable : cell.isComparable = true) {values : List Cell}
    (hsub : ∀ value ∈ values, value ∈ cells) :
    values.filter (cell.sameAs ·) =
      fibre (place Double.ordinal cells) (place Double.ordinal cells cell) values := by
  refine List.filter_congr fun value hvalue => Bool.eq_iff_iff.mpr ?_
  have hvalue := hsub value hvalue
  have hdomain := hone _ hcell _ hvalue
  rw [decide_eq_true_iff]
  constructor
  · intro hsame
    obtain ⟨_, _, hvalid⟩ := comparable_of_sameAs hsame
    exact ((sameAs_iff_place_eq hmix hcell hvalue hdomain hcomparable hvalid).mp hsame).symm
  · intro hplace
    have hvalid := isComparable_of_place_eq hone hcell hvalue hplace.symm hcomparable
    exact (sameAs_iff_place_eq hmix hcell hvalue hdomain hcomparable hvalid).mpr hplace.symm

/-- Cells that are the same as one cell are the same as each other. -/
theorem sameAs_of_sameAs (hmix : Unmixed cells) {cell a b : Cell} (hcell : cell ∈ cells)
    (ha : a ∈ cells) (hb : b ∈ cells) (hsa : cell.sameAs a = true) (hsb : cell.sameAs b = true) :
    a.sameAs b = true :=
  sameAs_trans hmix ha hcell hb (sameAs_comm.mp hsa) hsb

/-- Every cell that compares is represented by one value. -/
theorem exists_representative (hmix : Unmixed cells) (hone : OneDomain cells) {cell : Cell}
    (hcell : cell ∈ cells) (hcomparable : cell.isComparable = true) :
    ∃ value, representative? (cells.filter (cell.sameAs ·)) = some value ∧
      (among cells cells).filter (cell.sameAs ·) = [value] := by
  have hself : ∀ value ∈ cells, value ∈ cells := fun _ h => h
  -- cells and values alike are told by the place of the cell; there the values are one head
  rw [filter_sameAs_eq_fibre hmix hone hcell hcomparable hself,
    filter_sameAs_eq_fibre hmix hone hcell hcomparable fun _ => mem_of_mem_among,
    fibre_among hmix hone _ hself]
  have hsub : ∀ value ∈ fibre (place Double.ordinal cells) (place Double.ordinal cells cell) cells,
      value ∈ cells := fun value hvalue => (mem_fibre.mp hvalue).1
  have hsame : ∀ value ∈ fibre (place Double.ordinal cells) (place Double.ordinal cells cell) cells,
      place Double.ordinal cells value = place Double.ordinal cells cell :=
    fun value hvalue => (mem_fibre.mp hvalue).2
  have hnumber : ∀ value ∈
      fibre (place Double.ordinal cells) (place Double.ordinal cells cell) cells,
      value.isNaN = false := by
    intro value hvalue
    have hvalid := isComparable_of_place_eq hone hcell (hsub value hvalue)
      (hsame value hvalue).symm hcomparable
    exact (isComparable_iff.mp hvalid).2
  rw [among_of_not_isNaN hmix hone hsub hsame hnumber, least?_eq_representative? hone hsub hsame]
  obtain ⟨value, hvalue⟩ := exists_least? (p := place Double.rank cells)
    (mem_fibre.mpr ⟨hcell, rfl⟩ : cell ∈ fibre (place Double.ordinal cells) _ cells)
  rw [least?_eq_representative? hone hsub hsame] at hvalue
  exact ⟨value, hvalue, by rw [hvalue]; rfl⟩

/-! ## NaNs -/

/-- All NaNs are kept. -/
theorem count_among_of_isNaN (hmix : Unmixed cells) (hone : OneDomain cells) {nan : Cell}
    (hnan : nan.isNaN = true) : (among cells cells).count nan = cells.count nan := by
  by_cases hmem : nan ∈ cells
  · have hfibre : fibre (place Double.ordinal cells) (place Double.ordinal cells nan)
        (among cells cells) =
        fibre (place Double.ordinal cells) (place Double.ordinal cells nan) cells := by
      rw [fibre_among hmix hone _ fun _ h => h]
      exact among_of_isNaN hmix hone (fun cell hcell => (mem_fibre.mp hcell).1) hmem hnan
        fun cell hcell => (mem_fibre.mp hcell).2
    have hcount : ∀ values : List Cell, values.count nan =
        (fibre (place Double.ordinal cells) (place Double.ordinal cells nan) values).count nan := by
      intro values
      exact (List.count_filter (by simp)).symm
    rw [hcount, hcount cells, hfibre]
  · rw [List.count_eq_zero_of_not_mem hmem,
      List.count_eq_zero_of_not_mem fun h => hmem (mem_of_mem_among h)]

/-- A list splits where a property that only later members can lose is lost. -/
theorem exists_split {α : Type} (keep : α → Bool) {values : List α}
    (h : values.Pairwise fun v w => keep w = true → keep v = true) :
    ∃ front back, values = front ++ back ∧ (∀ v ∈ front, keep v = true) ∧
      ∀ v ∈ back, keep v = false := by
  induction values with
  | nil => exact ⟨[], [], rfl, by simp, by simp⟩
  | cons v rest ih =>
    obtain ⟨hfirst, hrest⟩ := List.pairwise_cons.mp h
    cases hv : keep v with
    | true =>
      obtain ⟨front, back, rfl, hfront, hback⟩ := ih hrest
      exact ⟨v :: front, back, rfl, List.forall_mem_cons.mpr ⟨hv, hfront⟩, hback⟩
    | false =>
      refine ⟨[], v :: rest, rfl, by simp, List.forall_mem_cons.mpr ⟨hv, fun w hw => ?_⟩⟩
      refine Bool.eq_false_iff.mpr fun hkeep => ?_
      rw [hfirst w hw hkeep] at hv
      cases hv

/-- What is at most a negative NaN is one. -/
theorem isNaNOf_true_of_le {a b : Cell} (hdomain : a.domain = b.domain)
    (hle : (place Double.ordinal cells a).le (place Double.ordinal cells b) = true)
    (hb : b.isNaNOf true = true) : a.isNaNOf true = true := by
  cases b with
  | float y =>
    obtain ⟨hnan, hsign⟩ := Bool.and_eq_true_iff.mp hb
    have hlow := (Double.isNaN_iff_of_negative (beq_iff_eq.mp hsign)).mp hnan
    have hmajor := major_le_of_le hle
    cases a with
    | integer i =>
      have hbound := (Double.isNaN_eq_false_iff.mp (Double.isNaN_ofInt i.toInt)).1
      exact absurd (Int.lt_of_le_of_lt hmajor hlow) (Int.not_lt.mpr hbound)
    | float x =>
      have hx : x.ordinal < -(Floating.Format.binary64.infinity : Int) :=
        Int.lt_of_le_of_lt hmajor hlow
      cases hsx : x.negative with
      | true => simp [isNaNOf, hsx, (Double.isNaN_iff_of_negative hsx).mpr hx]
      | false =>
        rw [Double.ordinal_of_positive hsx] at hx
        omega
    | null | boolean _ | string _ => cases hdomain
  | null | boolean _ | integer _ | string _ => cases hb

/-- What is at least a positive NaN is one. -/
theorem isNaNOf_false_of_le {a b : Cell} (hdomain : a.domain = b.domain)
    (hle : (place Double.ordinal cells a).le (place Double.ordinal cells b) = true)
    (ha : a.isNaNOf false = true) : b.isNaNOf false = true := by
  cases a with
  | float x =>
    obtain ⟨hnan, hsign⟩ := Bool.and_eq_true_iff.mp ha
    have hhigh := (Double.isNaN_iff_of_positive (beq_iff_eq.mp hsign)).mp hnan
    have hmajor := major_le_of_le hle
    cases b with
    | integer i =>
      have hbound := (Double.isNaN_eq_false_iff.mp (Double.isNaN_ofInt i.toInt)).2
      exact absurd (Int.lt_of_lt_of_le hhigh hmajor) (Int.not_lt.mpr hbound)
    | float y =>
      have hy : (Floating.Format.binary64.infinity : Int) < y.ordinal :=
        Int.lt_of_lt_of_le hhigh hmajor
      cases hsy : y.negative with
      | true =>
        rw [Double.ordinal_of_negative hsy] at hy
        omega
      | false => simp [isNaNOf, hsy, (Double.isNaN_iff_of_positive hsy).mpr hy]
    | null | boolean _ | string _ => cases hdomain
  | null | boolean _ | integer _ | string _ => cases ha

/-- **NaNs stand at the ends.** -/
theorem exists_ends (hmix : Unmixed cells) (hone : OneDomain cells) :
    ∃ low middle high, among cells cells = low ++ middle ++ high ∧
      (∀ v ∈ low, v.isNaNOf true = true) ∧ (∀ v ∈ middle, v.isNaN = false) ∧
      ∀ v ∈ high, v.isNaNOf false = true := by
  -- the values are split twice: where the negative NaNs stop, and where the positive ones start
  have hsorted := sorted_among hmix hone fun cell (hcell : cell ∈ cells) => hcell
  have hmem : ∀ {v}, v ∈ among cells cells → v ∈ cells := mem_of_mem_among
  obtain ⟨low, rest, hlist, hlow, hrest⟩ := exists_split (isNaNOf true)
    (hsorted.imp_of_mem fun hv hw hle =>
      isNaNOf_true_of_le (hone _ (hmem hv) _ (hmem hw)) hle)
  rw [hlist] at hsorted hmem ⊢
  obtain ⟨middle, high, rfl, hmiddle, hhigh⟩ :=
    exists_split (fun v => !v.isNaNOf false)
      ((List.pairwise_append.mp hsorted).2.1.imp_of_mem fun hv hw hle hkeep => by
        have hdomain := hone _ (hmem (List.mem_append_right _ hv)) _
          (hmem (List.mem_append_right _ hw))
        rw [Bool.not_eq_true'] at hkeep ⊢
        exact Bool.eq_false_iff.mpr fun hnan =>
          Bool.eq_false_iff.mp hkeep (isNaNOf_false_of_le hdomain hle hnan))
  refine ⟨low, middle, high, (List.append_assoc _ _ _).symm, hlow, fun v hv => ?_, fun v hv => ?_⟩
  · refine isNaN_eq_false_of_neither (hrest v (List.mem_append_left _ hv)) ?_
    simpa using hmiddle v hv
  · simpa using hhigh v hv

/-! ## What distinct values are -/

/-- **What distinct values are.** Every cell that compares has one value that is the same, which is
    the representative of the cells that are; the values ascend between the NaNs, all of which are
    kept; and nulls count once. -/
structure Represents (cells values : List Cell) : Prop where
  subset : ∀ value ∈ values, value ∈ cells
  once : ∀ cell ∈ cells, cell.isComparable = true →
    ∃ value, representative? (cells.filter (cell.sameAs ·)) = some value ∧
      values.filter (cell.sameAs ·) = [value]
  ascending : (values.filter isComparable).Pairwise fun v w => v.compare? w = some .lt
  ends : ∃ low middle high, values = low ++ middle ++ high ∧
    (∀ v ∈ low, v.isNaNOf true = true) ∧ (∀ v ∈ middle, v.isNaN = false) ∧
    ∀ v ∈ high, v.isNaNOf false = true
  nans : ∀ nan : Cell, nan.isNaN = true → values.count nan = cells.count nan
  nulls : cells ≠ [] → (∀ cell ∈ cells, cell = .null) → values = [.null]

theorem among_of_nulls (hmix : Unmixed cells) (hone : OneDomain cells) (hsome : cells ≠ [])
    (hnull : ∀ cell ∈ cells, cell = .null) : among cells cells = [.null] := by
  have hplace : ∀ cell ∈ cells, place Double.ordinal cells cell = ⟨0, 0, ""⟩ := by
    intro cell hcell
    rw [hnull cell hcell]
    rfl
  have hnumber : ∀ cell ∈ cells, cell.isNaN = false := by
    intro cell hcell
    rw [hnull cell hcell]
    rfl
  obtain ⟨first, rest, rfl⟩ := List.exists_cons_of_ne_nil hsome
  obtain ⟨lowest, hlowest⟩ := exists_least? (p := place Double.rank (first :: rest))
    (List.mem_cons_self : first ∈ first :: rest)
  rw [among_of_not_isNaN hmix hone (fun _ h => h) hplace hnumber, hlowest,
    hnull lowest (mem_of_least? hlowest)]
  rfl

theorem represents_of_sortedDistinct {values : List Cell} (hmix : Unmixed cells)
    (h : sortedDistinct cells = .ok values) : Represents cells values := by
  have hdistinct := isDistinct_of_sortedDistinct hmix h
  have hone := hdistinct.oneDomain
  obtain rfl : among cells cells = values :=
    Except.ok.inj ((sortedDistinct_eq_among hmix hone fun _ hcell => hcell).symm.trans h)
  refine ⟨hdistinct.subset, fun cell => exists_representative hmix hone, ?_,
    exists_ends hmix hone, fun nan => count_among_of_isNaN hmix hone, among_of_nulls hmix hone⟩
  refine (hdistinct.ascending.sublist List.filter_sublist).imp_of_mem fun hv hw hascends => ?_
  exact hascends (List.mem_filter.mp hv).2 (List.mem_filter.mp hw).2

/-! ## Another order -/

/-- Two results on distinct values agree up to the choice between cells that are the same. -/
inductive Alike : Except Error (List Cell) → Except Error (List Cell) → Prop where
  | values {values others : List Cell}
      (h : List.Forall₂ (fun v w => v = w ∨ v.sameAs w = true) values others) :
      Alike (.ok values) (.ok others)
  | incomparable (a b c d : Cell) :
      Alike (.error (.incomparable a b)) (.error (.incomparable c d))

/-- How many of the distinct values have a place does not depend on the order of the cells. -/
theorem length_fibre_among_perm (hmix : Unmixed cells) (hone : OneDomain cells)
    {others : List Cell} (hperm : others.Perm cells) (k : Place) :
    (fibre (place Double.ordinal cells) k (among cells cells)).length =
      (fibre (place Double.ordinal cells) k (among cells others)).length := by
  have hfibres : (fibre (place Double.ordinal cells) k others).Perm
      (fibre (place Double.ordinal cells) k cells) := hperm.filter _
  have hsub : ∀ {values : List Cell}, values.Perm cells →
      ∀ cell ∈ fibre (place Double.ordinal cells) k values, cell ∈ cells :=
    fun hvalues cell hcell => hvalues.subset (mem_fibre.mp hcell).1
  have hsame : ∀ values : List Cell, ∀ cell ∈ fibre (place Double.ordinal cells) k values,
      place Double.ordinal cells cell = k := fun values cell hcell => (mem_fibre.mp hcell).2
  rw [fibre_among hmix hone k fun _ h => h, fibre_among hmix hone k fun _ h => hperm.subset h]
  -- a place of NaNs keeps all cells that stand there, any other place one of them
  by_cases hnan : ∃ nan ∈ cells, place Double.ordinal cells nan = k ∧ nan.isNaN = true
  · obtain ⟨nan, hmem, rfl, hnan⟩ := hnan
    rw [among_of_isNaN hmix hone (hsub (List.Perm.refl _)) hmem hnan (hsame cells),
      among_of_isNaN hmix hone (hsub hperm) hmem hnan (hsame others)]
    exact hfibres.length_eq.symm
  · have hnumber : ∀ cell ∈ cells, place Double.ordinal cells cell = k → cell.isNaN = false :=
      fun cell hcell hplace => Bool.eq_false_iff.mpr fun h => hnan ⟨cell, hcell, hplace, h⟩
    rw [among_of_not_isNaN hmix hone (hsub (List.Perm.refl _)) (hsame cells) fun cell hcell =>
        hnumber cell (hsub (List.Perm.refl _) cell hcell) (hsame cells cell hcell),
      among_of_not_isNaN hmix hone (hsub hperm) (hsame others) fun cell hcell =>
        hnumber cell (hsub hperm cell hcell) (hsame others cell hcell)]
    cases hleast : least? (place Double.rank cells) (fibre (place Double.ordinal cells) k cells) with
    | none =>
      have hempty := least?_eq_none_iff.mp hleast
      have hempty' : fibre (place Double.ordinal cells) k others = [] := by
        rw [hempty] at hfibres
        exact hfibres.eq_nil
      rw [least?_eq_none_iff.mpr hempty']
    | some lowest =>
      have hmem : lowest ∈ fibre (place Double.ordinal cells) k others :=
        hfibres.symm.subset (mem_of_least? hleast)
      obtain ⟨other, hother⟩ := exists_least? (p := place Double.rank cells) hmem
      rw [hother]
      rfl

/-- Values in order whose places occur equally often stand on one place side by side. -/
theorem forall₂_place_eq (hmix : Unmixed cells) (hone : OneDomain cells) {others : List Cell}
    (hperm : others.Perm cells) :
    List.Forall₂ (fun v w => place Double.ordinal cells v = place Double.ordinal cells w)
      (among cells cells) (among cells others) := by
  have hmap : (among cells cells).map (place Double.ordinal cells) =
      (among cells others).map (place Double.ordinal cells) := by
    have hfibre : ∀ (k : Place) (values : List Cell),
        fibre id k (values.map (place Double.ordinal cells)) =
          List.replicate (fibre (place Double.ordinal cells) k values).length k := by
      intro k values
      refine List.eq_replicate_iff.mpr ⟨?_, fun place hplace => (mem_fibre.mp hplace).2⟩
      rw [fibre, List.filter_map, List.length_map]
      rfl
    refine eq_of_fibres (p := id) ?_ ?_ fun k => ?_
    · exact List.pairwise_map.mpr (sorted_among hmix hone fun _ h => h)
    · exact List.pairwise_map.mpr (sorted_among hmix hone fun _ h => hperm.subset h)
    · rw [hfibre, hfibre, length_fibre_among_perm hmix hone hperm]
  rw [← List.forall₂_eq_eq_eq, List.forall₂_map_left_iff, List.forall₂_map_right_iff] at hmap
  exact hmap

/-- **Another order of the cells** can only change which of the cells that are the same is kept. -/
theorem sortedDistinct_perm (hmix : Unmixed cells) {others : List Cell} (hperm : others.Perm cells) :
    Alike (sortedDistinct cells) (sortedDistinct others) := by
  by_cases hone : OneDomain cells
  · rw [sortedDistinct_eq_among hmix hone fun _ h => h,
      sortedDistinct_eq_among hmix hone fun _ h => hperm.subset h]
    -- to tell values by their places they must be known as cells on both sides
    have hplaces := (List.forall₂_and_left _ _).mpr
      ⟨fun v hv => mem_of_mem_among hv, forall₂_place_eq hmix hone hperm⟩
    have hplaces := (List.forall₂_and_left _ _).mpr
      ⟨fun w hw => hperm.subset (mem_of_mem_among hw), hplaces.flip⟩
    refine .values (hplaces.flip.imp ?_)
    rintro v w ⟨hw, hv, hplace⟩
    cases hnan : v.isNaN with
    | true => exact Or.inl (eq_of_isNaN hone hv hw hnan hplace)
    | false =>
      have hrepeat := (isDuplicate_iff_place hmix hone hv hw).mpr ⟨hplace, hnan⟩
      rcases isDuplicate_iff.mp hrepeat with hsame | ⟨rfl, rfl⟩
      · exact Or.inr hsame
      · exact Or.inl rfl
  · have hother : ¬ OneDomain others := fun h =>
      hone fun a ha b hb => h a (hperm.symm.subset ha) b (hperm.symm.subset hb)
    obtain ⟨a, b, hcells⟩ := sortedDistinct_of_not_oneDomain hone
    obtain ⟨c, d, hothers⟩ := sortedDistinct_of_not_oneDomain hother
    rw [hcells, hothers]
    exact .incomparable a b c d

/-! ## All cases -/

/-- **Distinct values without sorting.** Unmixed cells have distinct values exactly if they are of
    one domain, and else the first cell is reported with the first of another domain. Being the same
    groups the cells; the values are representatives of the groups, and do not depend on the order
    of the cells but for the choice within a group. -/
theorem sortedDistinct_represents (hmix : Unmixed cells) :
    ((∃ values, sortedDistinct cells = .ok values) ↔ OneDomain cells) ∧
      (∀ e, sortedDistinct cells = .error e ↔
        ∃ first odd, FirstOdd cells first odd ∧ e = .incomparable first odd) ∧
      (∀ cell ∈ cells, ∀ a ∈ cells, ∀ b ∈ cells,
        cell.sameAs a = true → cell.sameAs b = true → a.sameAs b = true) ∧
      (∀ values, sortedDistinct cells = .ok values → Represents cells values) ∧
      ∀ others : List Cell, others.Perm cells →
        Alike (sortedDistinct cells) (sortedDistinct others) := by
  refine ⟨⟨?_, fun hone => ?_⟩, fun e => sortedDistinct_eq_error_iff, ?_,
    fun values => represents_of_sortedDistinct hmix, fun others => sortedDistinct_perm hmix⟩
  · rintro ⟨values, hvalues⟩
    exact (isDistinct_of_sortedDistinct hmix hvalues).oneDomain
  · exact ⟨_, sortedDistinct_eq_among hmix hone fun _ h => h⟩
  · exact fun cell hcell a ha b hb => sameAs_of_sameAs hmix hcell ha hb

/-- Numbers in sorted order: NaNs at the ends, zeros of all kinds, and an integer before a float of
    one value. -/
def numbersInOrder : List Cell :=
  [float Double.nan.neg, integer (-1), negativeZero, integer 0, float Double.zero, integer 2,
    float (Double.ofInt 2), float Double.nan, float Double.nan]

theorem sortedDistinct_represents_numbers :
    Unmixed numbersInOrder ∧
      Represents numbersInOrder [float Double.nan.neg, integer (-1), negativeZero, integer 2,
        float Double.nan, float Double.nan] ∧
      Alike (sortedDistinct numbersInOrder) (sortedDistinct numbersInOrder.reverse) := by
  have hmix : Unmixed numbersInOrder := by decide +kernel
  obtain ⟨_, _, _, hrepresents, hperm⟩ := sortedDistinct_represents hmix
  refine ⟨hmix, hrepresents _ ?_, hperm _ (List.reverse_perm _)⟩
  rw [sortedDistinct_of_sorted (by unfold OneDomain; decide +kernel) (by decide +kernel)]
  exact congrArg Except.ok (by decide +kernel)

end Summary

end Winnow
