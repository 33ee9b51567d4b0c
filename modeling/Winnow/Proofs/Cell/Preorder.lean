import Winnow.Proofs.Cell.Below

/-!
# `Winnow.Proofs.Cell.Preorder` — when the orders of cells are transitive

Cells are compared by value, which leaves nulls, NaNs and cells of different domains aside, and they
are sorted in an order that is defined for any two cells of a domain. Seen from the other cell each
answer is turned around. What can fail is transitivity: a float that blurs two integers is the same
as both, and sorted level with both. Nothing else can go wrong, so that being unmixed is not only
enough but is just what is needed for either order.

Sorting refines the order by value whatever the cells are. Level in the sorting order are only cells
that are the same, two nulls, and a NaN with itself.

## Contents
- **`Place.order_then`**, **`compare?_then`**, **`sameAs_trans`**: chains of comparisons.
- **`sameAs_comm`**, **`sameAs_ofInt`**: cells that are the same.
- **`Member`**, **`equivalence_sameAs_iff`**: being the same as an equivalence.
- **`sortOrder_of_less`**, **`sortOrder_eq_cases`**: sorting against the order by value.
- **`transCmp_sortOrder_iff`**: sorting as a total preorder.
- **`comparison_preorders`**.
-/

namespace Winnow

/-- In a chain of places an equal one changes nothing, and two steps of one direction make one. -/
theorem Place.order_then {a b c : Place} {o p : Ordering} (hab : order a b = o)
    (hbc : order b c = p) (hchain : o = .eq ∨ p = .eq ∨ o = p) : order a c = o.then p := by
  rcases hchain with rfl | rfl | rfl
  · obtain rfl := Std.LawfulEqCmp.eq_of_compare hab
    exact hbc
  · obtain rfl := Std.LawfulEqCmp.eq_of_compare hbc
    rw [hab]
    cases o <;> rfl
  · cases o with
    | lt => exact Std.TransCmp.lt_trans hab hbc
    | eq => exact Std.TransCmp.eq_trans hab hbc
    | gt => exact Std.TransCmp.gt_trans hab hbc

namespace Cell

variable {cells : List Cell} {a b c : Cell}

/-! ## Chains of comparisons -/

/-- **Comparison is transitive on unmixed cells**, in both directions and through cells that are the
    same. -/
theorem compare?_then (hmix : Unmixed cells) (ha : a ∈ cells) (hb : b ∈ cells) (hc : c ∈ cells)
    {o p : Ordering} (hab : a.compare? b = some o) (hbc : b.compare? c = some p)
    (hchain : o = .eq ∨ p = .eq ∨ o = p) : a.compare? c = some (o.then p) := by
  obtain ⟨hdab, hca, hcb⟩ := compare?_isSome_iff.mp (Option.isSome_of_eq_some hab)
  obtain ⟨hdbc, _, hcc⟩ := compare?_isSome_iff.mp (Option.isSome_of_eq_some hbc)
  rw [compare?_eq_order hmix ha hb hdab hca hcb, Option.some_inj] at hab
  rw [compare?_eq_order hmix hb hc hdbc hcb hcc, Option.some_inj] at hbc
  rw [compare?_eq_order hmix ha hc (hdab.trans hdbc) hca hcc,
    Place.order_then hab hbc hchain]

/-! ## Cells that are the same -/

theorem sameAs_comm : a.sameAs b = true ↔ b.sameAs a = true := by
  rw [sameAs_iff_compare?_eq, sameAs_iff_compare?_eq]
  exact ⟨compare?_swapped, compare?_swapped⟩

theorem sameAs_trans (hmix : Unmixed cells) (ha : a ∈ cells) (hb : b ∈ cells) (hc : c ∈ cells)
    (hab : a.sameAs b = true) (hbc : b.sameAs c = true) : a.sameAs c = true := by
  rw [sameAs_iff_compare?_eq] at hab hbc ⊢
  exact compare?_then hmix ha hb hc hab hbc (.inl rfl)

theorem integer_inj_of_sameAs {i j : Int64} (h : (integer i).sameAs (integer j) = true) :
    i = j :=
  Int64.toInt_inj.mp (Int.compare_eq_eq.mp (Option.some.inj (sameAs_iff_compare?_eq.mp h)))

/-- An integer is the same as its nearest double. -/
theorem sameAs_ofInt (i : Int64) : (integer i).sameAs (float (Double.ofInt i.toInt)) = true := by
  rw [sameAs_iff_compare?_eq, compare?_integer_float, doubleCompare?_eq (Double.isNaN_ofInt _)
    (Double.isNaN_ofInt _), Int.compare_eq_eq.mpr rfl]

/-- The cells of a list. -/
abbrev Member (cells : List Cell) : Type := { cell // cell ∈ cells }

/-- **Being the same is an equivalence.** On cells that compare it is one exactly if they are
    unmixed. -/
theorem equivalence_sameAs_iff (hcomparable : ∀ cell ∈ cells, cell.isComparable = true) :
    (Equivalence fun a b : Member cells => a.1.sameAs b = true) ↔ Unmixed cells := by
  constructor
  · -- two integers that a float blurs are the same by way of the float
    intro h x i j hx hi hj himage himage'
    have hsame : ∀ k : Int64, Double.ofInt k.toInt = x → (integer k).sameAs (float x) = true := by
      rintro k rfl
      exact sameAs_ofInt k
    have htrans := @h.trans ⟨_, hi⟩ ⟨_, hx⟩ ⟨_, hj⟩ (hsame i himage)
      (sameAs_comm.mp (hsame j himage'))
    exact integer_inj_of_sameAs htrans
  · intro hmix
    exact ⟨fun a => sameAs_self_iff.mpr (hcomparable a a.2), sameAs_comm.mp,
      fun {a b c} => sameAs_trans hmix a.2 b.2 c.2⟩

/-! ## Sorting against the order by value -/

/-- **Sorting refines the order by value**: a cell strictly below another one is sorted before it. -/
theorem sortOrder_of_less (h : a.less b = true) : Summary.sortOrder a b = .lt := by
  obtain ⟨hdomain, hca, _⟩ := comparable_of_less h
  have hlevel : ∀ {x y : Double}, x.ordinal < y.ordinal → x.totalCompare y = .lt := by
    intro x y hlt
    refine Int.compare_eq_lt.mpr (Int.not_le.mp fun hle => ?_)
    exact absurd (Double.ordinal_le_of_rank_le hle) (Int.not_le.mpr hlt)
  cases akin_of_domain_eq hdomain with
  | nulls => cases hca
  | booleans p q => exact Option.some.inj (less_iff.mp h)
  | strings s t => exact Option.some.inj (less_iff.mp h)
  | integers i j => exact Option.some.inj (less_iff.mp h)
  | integerFloat i y => exact hlevel (less_integer_float.mp h).2
  | floatInteger x j => exact hlevel (less_float_integer.mp h).2
  | floats x y => exact hlevel (less_floats.mp h).2

/-- **Cells that are sorted level** are the same, or two nulls, or one NaN. -/
theorem sortOrder_eq_cases (hdomain : a.domain = b.domain) (h : Summary.sortOrder a b = .eq) :
    a.sameAs b = true ∨ (a = .null ∧ b = .null) ∨ (a = b ∧ a.isNaN = true) := by
  have hword : ∀ {x y : Double}, x.totalCompare y = .eq → x = y :=
    fun heq => Double.rank_injective (Int.compare_eq_eq.mp heq)
  cases akin_of_domain_eq hdomain with
  | nulls => exact .inr (.inl ⟨rfl, rfl⟩)
  | booleans p q => exact .inl (sameAs_iff_compare?_eq.mpr (congrArg some h))
  | strings s t => exact .inl (sameAs_iff_compare?_eq.mpr (congrArg some h))
  | integers i j => exact .inl (sameAs_iff_compare?_eq.mpr (congrArg some h))
  | integerFloat i y =>
    obtain rfl := hword h
    exact .inl (sameAs_ofInt i)
  | floatInteger x j =>
    obtain rfl := hword h
    exact .inl (sameAs_comm.mp (sameAs_ofInt j))
  | floats x y =>
    obtain rfl := hword h
    cases hnan : x.isNaN with
    | true => exact .inr (.inr ⟨rfl, hnan⟩)
    | false => exact .inl (sameAs_self_iff.mpr (isComparable_iff.mpr ⟨nofun, hnan⟩))

/-- **Sorting is a total preorder.** On cells of one domain it is one exactly if they are
    unmixed. -/
theorem transCmp_sortOrder_iff (hone : ∀ a ∈ cells, ∀ b ∈ cells, a.domain = b.domain) :
    (Std.TransCmp fun a b : Member cells => Summary.sortOrder a b) ↔ Unmixed cells := by
  constructor
  · -- a float that blurs two integers is level with both, and so are then the integers
    intro h x i j hx hi hj himage himage'
    have hlevel : ∀ k : Int64, Double.ofInt k.toInt = x →
        Summary.sortOrder (integer k) (float x) = .eq ∧
          Summary.sortOrder (float x) (integer k) = .eq := by
      rintro k rfl
      exact ⟨Int.compare_eq_eq.mpr rfl, Int.compare_eq_eq.mpr rfl⟩
    have htrans : Summary.sortOrder (integer i) (integer j) = .eq :=
      @Std.TransCmp.eq_trans _ _ h ⟨_, hi⟩ ⟨_, hx⟩ ⟨_, hj⟩ (hlevel i himage).1 (hlevel j himage').2
    exact Int64.toInt_inj.mp (Int.compare_eq_eq.mp htrans)
  · intro hmix
    have horder : ∀ a b : Member cells, Summary.sortOrder a b =
        Place.order (place Double.rank cells a) (place Double.rank cells b) :=
      fun a b => sortOrder_eq_order hmix a.2 b.2 (hone a a.2 b b.2)
    refine { eq_swap := fun {a b} => ?_, isLE_trans := fun {a b c} hab hbc => ?_ }
    · rw [horder, horder, Place.order_swap]
    · rw [horder] at hab hbc ⊢
      exact Std.TransCmp.isLE_trans hab hbc

/-! ## Both orders -/

/-- **The orders of cells.** Comparison gives turned answers in its two directions, and gives one
    exactly within a domain and apart from nulls and NaNs. On unmixed cells it is transitive, also
    through cells that are the same. Being the same is then an equivalence and sorting a total
    preorder, and each is so on no other cells. Sorting keeps what is strictly below, and has level
    only what is the same, nulls, and a NaN with itself. -/
theorem comparison_preorders :
    (∀ a b : Cell, a.compare? b = (b.compare? a).map Ordering.swap) ∧
    (∀ a b : Cell, (a.compare? b).isSome = true ↔
      a.domain = b.domain ∧ (a ≠ .null ∧ a.isNaN = false) ∧ b ≠ .null ∧ b.isNaN = false) ∧
    (∀ (a b c : Cell) (o p : Ordering), Unmixed [a, b, c] →
      a.compare? b = some o → b.compare? c = some p → o = .eq ∨ p = .eq ∨ o = p →
        a.compare? c = some (o.then p)) ∧
    (∀ cells : List Cell, (∀ cell ∈ cells, cell ≠ .null ∧ cell.isNaN = false) →
      ((Equivalence fun a b : Member cells => a.1.sameAs b = true) ↔ Unmixed cells)) ∧
    (∀ cells : List Cell, (∀ a ∈ cells, ∀ b ∈ cells, a.domain = b.domain) →
      ((Std.TransCmp fun a b : Member cells => Summary.sortOrder a b) ↔ Unmixed cells)) ∧
    (∀ a b : Cell, a.compare? b = some .lt → Summary.sortOrder a b = .lt) ∧
    ∀ a b : Cell, a.domain = b.domain → Summary.sortOrder a b = .eq →
      a.sameAs b = true ∨ (a = .null ∧ b = .null) ∨ (a = b ∧ a.isNaN = true) := by
  refine ⟨compare?_swap, fun a b => ?_, fun a b c o p hmix hab hbc hchain => ?_,
    fun cells hcomparable => ?_, fun cells => transCmp_sortOrder_iff,
    fun a b h => sortOrder_of_less (less_iff.mpr h), fun a b => sortOrder_eq_cases⟩
  · rw [compare?_isSome_iff, isComparable_iff, isComparable_iff]
  · exact compare?_then hmix (by simp) (by simp) (by simp) hab hbc hchain
  · exact equivalence_sameAs_iff fun cell hcell => isComparable_iff.mpr (hcomparable cell hcell)

/-- Neighbours above 53 bits, zeros and NaNs. No float among them is the double of the neighbours. -/
def wideNumbers : List Cell :=
  [float Double.nan.neg, float Double.zero.neg, integer 0, integer 0x20000000000000,
    integer 0x20000000000001, float Double.nan]

/-- The neighbours with the double that is nearest to both. -/
def blurredNumbers : List Cell :=
  [integer 0x20000000000000, float (Double.ofInt 0x20000000000000), integer 0x20000000000001]

/-- Without the double that blurs them the neighbours keep both orders transitive, and with it
    neither is. -/
theorem comparison_preorders_wideNumbers :
    (Equivalence fun a b : Member (wideNumbers.filter isComparable) => a.1.sameAs b = true) ∧
    (Std.TransCmp fun a b : Member wideNumbers => Summary.sortOrder a b) ∧
    (float Double.zero.neg).compare? (integer 0x20000000000001) = some .lt ∧
    Summary.sortOrder (float Double.zero.neg) (integer 0x20000000000001) = .lt ∧
    (integer 0).sameAs (float Double.zero) = true ∧
    ¬ (Equivalence fun a b : Member blurredNumbers => a.1.sameAs b = true) ∧
    ¬ Std.TransCmp fun a b : Member blurredNumbers => Summary.sortOrder a b := by
  obtain ⟨-, -, hthen, hsame, hsort, hrefines, hlevel⟩ := comparison_preorders
  have hbelow : (float Double.zero.neg).compare? (integer 0x20000000000001) = some .lt :=
    hthen _ (integer 0) _ .eq .lt (by decide +kernel) (by decide +kernel) (by decide +kernel)
      (.inl rfl)
  have hblurred : ¬ Unmixed blurredNumbers := by decide +kernel
  refine ⟨(hsame _ (by decide +kernel)).mpr (by decide +kernel),
    (hsort _ (by decide +kernel)).mpr (by decide +kernel), hbelow, hrefines _ _ hbelow,
    (hlevel (integer 0) (float Double.zero) rfl (by decide +kernel)).resolve_right (by decide),
    fun h => ?_, fun h => ?_⟩
  · exact hblurred ((hsame _ (by decide +kernel)).mp h)
  · exact hblurred ((hsort _ (by decide +kernel)).mp h)

end Cell

end Winnow
