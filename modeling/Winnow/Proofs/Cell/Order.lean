import Winnow.Proofs.Floating.Rounding
import Winnow.Summary

/-!
# `Winnow.Proofs.Cell.Order` — the two orders of cells

Cells are compared by value and sorted by words. Neither order is transitive on all cells: a float
that is the nearest double of two integers compares equal to both, while the integers differ. Among
cells in which no float blurs two integers this cannot happen. There each cell has a place in a
lexicographic order, in which an integer and a float of one double share the integer as the second
coordinate, and both orders are read off such places.

## Contents
- **`int64?_eq_some_iff`**: the integers that fit.
- **`Unmixed`**: no float is the nearest double of two different integers; **`unmixed_iff`** by
  which it can be decided.
- **`Place`**, **`Cell.place`**: places, for either order of doubles.
- **`Faithful`**: what the orders of doubles have in common.
- **`isComparable`**, **`compare?_isSome_iff`**: which cells compare; **`isOrdered`**,
  **`compare?_ne_none_iff`**: which compare with numbers.
- **`Akin`**: the pairs of cells of one domain.
- **`compare?_eq_order`**, **`sortOrder_eq_order`**: both orders are orders of places.
- **`value_le_of_sort_le`**: the sorting order refines the order by value.
-/

namespace Winnow

/-! ## Integers of 64 bits -/

theorem int64?_toInt (i : Int64) : int64? i.toInt = some i := by
  have hlow := Int64.le_toInt i
  have hhigh := Int64.toInt_lt i
  rw [int64?, if_pos (by omega), Int64.ofInt_toInt]

theorem int64?_eq_some_iff {i : Int} {word : Int64} : int64? i = some word ↔ i = word.toInt := by
  constructor
  · intro h
    unfold int64? at h
    split at h
    · rename_i hfits
      rw [← Option.some.inj h, Int64.toInt_ofInt_of_le hfits.1 hfits.2]
    · cases h
  · rintro rfl
    exact int64?_toInt word

/-! ## Cells that compare -/

namespace Cell

/-- Whether a cell compares with itself: it is neither a null nor NaN. -/
def isComparable : Cell → Bool
  | null => false
  | cell => !cell.isNaN

theorem isComparable_iff {a : Cell} : a.isComparable = true ↔ a ≠ .null ∧ a.isNaN = false := by
  cases a <;> simp [isComparable, isNaN]

theorem sameAs_iff_compare?_eq {a b : Cell} : a.sameAs b = true ↔ a.compare? b = some .eq :=
  decide_eq_true_iff

theorem sameAs_self_iff {a : Cell} : a.sameAs a = true ↔ a.isComparable = true := by
  cases a with
  | null => simp [sameAs, compare?, toDouble?, isComparable]
  | boolean value => cases value <;> decide
  | integer value => simp [sameAs, compare?, isComparable, isNaN]
  | float x =>
    cases hx : x.isNaN <;>
      simp [sameAs, compare?, toDouble?, Double.compare?, isComparable, isNaN, hx]
  | string value => simp [sameAs, compare?, isComparable, isNaN]

theorem doubleCompare?_isSome (x y : Double) :
    (x.compare? y).isSome = (!x.isNaN && !y.isNaN) := by
  unfold Double.compare?
  cases x.isNaN <;> cases y.isNaN <;> rfl

/-- Cells compare when they are of one domain and neither is a null or NaN. -/
theorem compare?_isSome_iff {a b : Cell} :
    (a.compare? b).isSome = true ↔
      a.domain = b.domain ∧ a.isComparable = true ∧ b.isComparable = true := by
  cases a <;> cases b <;>
    simp [compare?, toDouble?, domain, isComparable, isNaN, doubleCompare?_isSome,
      Double.isNaN_ofInt]

/-- Two cells of one domain, by their kinds. -/
inductive Akin : Cell → Cell → Prop where
  | nulls : Akin null null
  | booleans (p q : Bool) : Akin (boolean p) (boolean q)
  | strings (s t : String) : Akin (string s) (string t)
  | integers (i j : Int64) : Akin (integer i) (integer j)
  | integerFloat (i : Int64) (y : Double) : Akin (integer i) (float y)
  | floatInteger (x : Double) (j : Int64) : Akin (float x) (integer j)
  | floats (x y : Double) : Akin (float x) (float y)

theorem akin_of_domain_eq {a b : Cell} (h : a.domain = b.domain) : Akin a b := by
  cases a <;> cases b <;> cases h <;> constructor

/-- Whether a cell is a number other than NaN. -/
def isOrdered (cell : Cell) : Bool := cell.isNumber && !cell.isNaN

theorem isOrdered_iff {cell : Cell} :
    cell.isOrdered = true ↔ cell.domain = .number ∧ cell.isComparable = true := by
  cases cell <;> simp [isOrdered, isNumber, domain, isComparable, isNaN]

/-- A cell compares with a number exactly if it is one too. -/
theorem compare?_ne_none_iff {cell bound : Cell} (h : bound.isOrdered = true) :
    cell.compare? bound ≠ none ↔ cell.isOrdered = true := by
  obtain ⟨hdomain, hcomparable⟩ := isOrdered_iff.mp h
  rw [Option.ne_none_iff_isSome, compare?_isSome_iff, isOrdered_iff, hdomain]
  simp only [hcomparable, and_true]

end Cell

/-! ## Places -/

/-- A place among cells of one domain. -/
structure Place where
  major : Int
  minor : Int
  text : String
  deriving DecidableEq, Repr

namespace Place

/-- The order of places, by one coordinate after the other. -/
def order : Place → Place → Ordering :=
  compareLex (compareOn (·.major)) (compareLex (compareOn (·.minor)) (compareOn (·.text)))

instance : Std.TransCmp order := inferInstanceAs (Std.TransCmp (compareLex _ _))

theorem order_eq_then (a b : Place) :
    order a b =
      (compare a.major b.major).then ((compare a.minor b.minor).then (compare a.text b.text)) :=
  rfl

instance : Std.LawfulEqCmp order where
  eq_of_compare := by
    intro a b h
    obtain ⟨hmajor, hrest⟩ := Ordering.then_eq_eq.mp h
    obtain ⟨hminor, htext⟩ := Ordering.then_eq_eq.mp hrest
    have hmajor : a.major = b.major := Std.compare_eq_iff_eq.mp hmajor
    have hminor : a.minor = b.minor := Std.compare_eq_iff_eq.mp hminor
    have htext : a.text = b.text := Std.compare_eq_iff_eq.mp htext
    cases a
    cases b
    subst hmajor hminor htext
    rfl

theorem order_self (a : Place) : order a a = .eq := Std.ReflCmp.compare_self

theorem order_swap (a b : Place) : order a b = (order b a).swap := Std.OrientedCmp.eq_swap

/-- Whether a place is at most another one. -/
def le (a b : Place) : Bool := (order a b).isLE

theorem le_trans (a b c : Place) (hab : a.le b = true) (hbc : b.le c = true) : a.le c = true :=
  Std.TransCmp.isLE_trans hab hbc

theorem le_total (a b : Place) : (a.le b || b.le a) = true := by
  unfold le
  rw [order_swap b a]
  cases order a b <;> rfl

/-- Places that only their first coordinates can tell apart. -/
theorem order_of_major {a b : Place} (htext : a.text = b.text)
    (h : a.major = b.major → a.minor = b.minor) : order a b = compare a.major b.major := by
  rw [order_eq_then]
  cases hmajor : compare a.major b.major with
  | lt => rfl
  | gt => rfl
  | eq =>
    rw [h (Std.compare_eq_iff_eq.mp hmajor), htext, Std.ReflOrd.compare_self,
      Std.ReflOrd.compare_self]
    rfl

/-- Places whose first coordinates follow their second ones. -/
theorem order_of_minor {a b : Place} (htext : a.text = b.text)
    (hle : a.minor ≤ b.minor → a.major ≤ b.major) (hge : b.minor ≤ a.minor → b.major ≤ a.major) :
    order a b = compare a.minor b.minor := by
  have htail : ∀ o : Ordering, o.then (compare a.text b.text) = o := by
    intro o
    rw [htext, Std.ReflOrd.compare_self]
    cases o <;> rfl
  rw [order_eq_then, htail]
  rcases Int.lt_trichotomy a.minor b.minor with hlt | heq | hgt
  · rw [Int.compare_eq_lt.mpr hlt]
    rcases Int.lt_or_eq_of_le (hle (Int.le_of_lt hlt)) with hmajor | hmajor
    · rw [Int.compare_eq_lt.mpr hmajor]
      rfl
    · rw [hmajor, Std.ReflOrd.compare_self]
      rfl
  · have hmajor : a.major = b.major :=
      Int.le_antisymm (hle (Int.le_of_eq heq)) (hge (Int.le_of_eq heq.symm))
    rw [hmajor, Std.ReflOrd.compare_self]
    rfl
  · rw [Int.compare_eq_gt.mpr hgt]
    rcases Int.lt_or_eq_of_le (hge (Int.le_of_lt hgt)) with hmajor | hmajor
    · rw [Int.compare_eq_gt.mpr hmajor]
      rfl
    · rw [hmajor, Std.ReflOrd.compare_self]
      rfl

theorem major_le_of_le {a b : Place} (h : a.le b = true) : a.major ≤ b.major := by
  rw [le, order_eq_then] at h
  by_cases hgt : b.major < a.major
  · rw [Int.compare_eq_gt.mpr hgt] at h
    cases h
  · omega

end Place

/-- What the order of doubles by value and their total order have in common: integers keep their
    order, and only zeros can share a level. -/
structure Faithful (level : Double → Int) : Prop where
  mono : ∀ {i j : Int}, i ≤ j → level (Double.ofInt i) ≤ level (Double.ofInt j)
  separates : ∀ {x y : Double}, level x = level y → x = y ∨ x.magnitude = 0 ∧ y.magnitude = 0

theorem faithful_ordinal : Faithful Double.ordinal :=
  ⟨Double.ordinal_ofInt_mono, Double.eq_or_zeros_of_ordinal_eq⟩

theorem faithful_rank : Faithful Double.rank :=
  ⟨Double.rank_ofInt_mono, fun h => Or.inl (Double.rank_injective h)⟩

/-- No float among the cells is the nearest double of two different integers among them. -/
def Unmixed (cells : List Cell) : Prop :=
  ∀ x i j, .float x ∈ cells → .integer i ∈ cells → .integer j ∈ cells →
    Double.ofInt i.toInt = x → Double.ofInt j.toInt = x → i = j

/-- Whether a cell is a float that blurs two integers. -/
def Cell.blurs : Cell → Cell → Cell → Bool
  | .float x, .integer i, .integer j =>
    Double.ofInt i.toInt = x ∧ Double.ofInt j.toInt = x ∧ i ≠ j
  | _, _, _ => false

theorem unmixed_iff {cells : List Cell} :
    Unmixed cells ↔ ∀ x ∈ cells, ∀ i ∈ cells, ∀ j ∈ cells, x.blurs i j = false := by
  constructor
  · intro h x hx i hi j hj
    cases x with
    | float x =>
      cases i with
      | integer i =>
        cases j with
        | integer j =>
          refine decide_eq_false fun hblurs => hblurs.2.2 ?_
          exact h x i j hx hi hj hblurs.1 hblurs.2.1
        | null | boolean _ | float _ | string _ => rfl
      | null | boolean _ | float _ | string _ => rfl
    | null | boolean _ | integer _ | string _ => rfl
  · intro h x i j hx hi hj himage himage'
    have hclear := of_decide_eq_false (h _ hx _ hi _ hj)
    exact Decidable.byContradiction fun hne => hclear ⟨himage, himage', hne⟩

instance : DecidablePred Unmixed := fun _ => decidable_of_iff' _ unmixed_iff

theorem Unmixed.of_subset {cells fewer : List Cell} (h : Unmixed cells)
    (hsub : ∀ cell ∈ fewer, cell ∈ cells) : Unmixed fewer :=
  fun x i j hx hi hj => h x i j (hsub _ hx) (hsub _ hi) (hsub _ hj)

namespace Cell

/-- The integer of a cell whose double is a given one. -/
def imageOf? (x : Double) : Cell → Option Int
  | integer i => if Double.ofInt i.toInt = x then some i.toInt else none
  | _ => none

/-- The integer among cells whose double is a given one, or zero if there is none. -/
def twin (cells : List Cell) (x : Double) : Int := (cells.findSome? (imageOf? x)).getD 0

theorem twin_cases (cells : List Cell) (x : Double) :
    (∃ i, .integer i ∈ cells ∧ Double.ofInt i.toInt = x ∧ twin cells x = i.toInt) ∨
      ((∀ i, .integer i ∈ cells → Double.ofInt i.toInt ≠ x) ∧ twin cells x = 0) := by
  unfold twin
  cases hfind : cells.findSome? (imageOf? x) with
  | none =>
    refine Or.inr ⟨fun i hi hx => ?_, rfl⟩
    have hnone := List.findSome?_eq_none_iff.mp hfind _ hi
    simp [imageOf?, hx] at hnone
  | some found =>
    obtain ⟨cell, hcell, himage⟩ := List.exists_of_findSome?_eq_some hfind
    cases cell with
    | integer i =>
      simp only [imageOf?] at himage
      split at himage
      · rename_i hx
        exact Or.inl ⟨i, hcell, hx, (Option.some.inj himage).symm⟩
      · cases himage
    | null | boolean _ | float _ | string _ => cases himage

/-- Unmixed, an integer is the one that stands for its double. -/
theorem twin_ofInt {cells : List Cell} (h : Unmixed cells) {i : Int64}
    (hi : .integer i ∈ cells) (hx : .float (Double.ofInt i.toInt) ∈ cells) :
    twin cells (Double.ofInt i.toInt) = i.toInt := by
  rcases twin_cases cells (Double.ofInt i.toInt) with ⟨j, hj, hsame, htwin⟩ | ⟨hnone, _⟩
  · rw [htwin, h _ _ _ hx hj hi hsame rfl]
  · exact absurd rfl (hnone i hi)

/-- Zero stands for the zeros of either sign. -/
theorem twin_of_zero (cells : List Cell) {x : Double} (h : x.magnitude = 0) :
    twin cells x = 0 := by
  rcases twin_cases cells x with ⟨i, _, himage, htwin⟩ | ⟨_, htwin⟩
  · rw [htwin]
    rw [← himage] at h
    exact Double.magnitude_ofInt_eq_zero_iff.mp h
  · exact htwin

/-- The place of a cell among cells: by the level of its double, and on one level by the integer. -/
def place (level : Double → Int) (cells : List Cell) : Cell → Place
  | null => ⟨0, 0, ""⟩
  | boolean value => ⟨value.toInt, 0, ""⟩
  | integer i => ⟨level (Double.ofInt i.toInt), i.toInt, ""⟩
  | float x => ⟨level x, twin cells x, ""⟩
  | string value => ⟨0, 0, value⟩

section Orders

variable {level : Double → Int} {cells : List Cell}

theorem order_booleans (a b : Bool) :
    Place.order (place level cells (boolean a)) (place level cells (boolean b)) = compare a b := by
  cases a <;> cases b <;> rfl

theorem order_strings (a b : String) :
    Place.order (place level cells (string a)) (place level cells (string b)) = compare a b := rfl

/-- Integers stand in their own order. -/
theorem order_integers (hlevel : Faithful level) (i j : Int64) :
    Place.order (place level cells (integer i)) (place level cells (integer j)) =
      compare i.toInt j.toInt :=
  Place.order_of_minor rfl hlevel.mono hlevel.mono

/-- Floats stand in the order of their levels. -/
theorem order_floats (hlevel : Faithful level) (x y : Double) :
    Place.order (place level cells (float x)) (place level cells (float y)) =
      compare (level x) (level y) := by
  refine Place.order_of_major rfl fun h => ?_
  rcases hlevel.separates h with rfl | ⟨hx, hy⟩
  · rfl
  · exact (twin_of_zero cells hx).trans (twin_of_zero cells hy).symm

/-- An integer stands to a float as its double does. -/
theorem order_integer_float (hlevel : Faithful level) (h : Unmixed cells) {i : Int64} {x : Double}
    (hi : .integer i ∈ cells) (hx : .float x ∈ cells) :
    Place.order (place level cells (integer i)) (place level cells (float x)) =
      compare (level (Double.ofInt i.toInt)) (level x) := by
  refine Place.order_of_major rfl fun hsame => ?_
  rcases hlevel.separates hsame with rfl | ⟨hzero, hx⟩
  · exact (twin_ofInt h hi hx).symm
  · exact (Double.magnitude_ofInt_eq_zero_iff.mp hzero).trans (twin_of_zero cells hx).symm

theorem order_float_integer (hlevel : Faithful level) (h : Unmixed cells) {i : Int64} {x : Double}
    (hx : .float x ∈ cells) (hi : .integer i ∈ cells) :
    Place.order (place level cells (float x)) (place level cells (integer i)) =
      compare (level x) (level (Double.ofInt i.toInt)) := by
  rw [Place.order_swap, order_integer_float hlevel h hi hx, ← Std.OrientedOrd.eq_swap]

/-! ## Both orders are orders of places -/

theorem compare?_integer_float (i : Int64) (x : Double) :
    (integer i).compare? (float x) = (Double.ofInt i.toInt).compare? x := by
  simp [compare?, toDouble?]

theorem compare?_float_integer (x : Double) (i : Int64) :
    (float x).compare? (integer i) = x.compare? (Double.ofInt i.toInt) := by
  simp [compare?, toDouble?]

theorem compare?_floats (x y : Double) : (float x).compare? (float y) = x.compare? y := by
  simp [compare?, toDouble?]

theorem doubleCompare?_eq {x y : Double} (hx : x.isNaN = false) (hy : y.isNaN = false) :
    x.compare? y = some (compare x.ordinal y.ordinal) := by
  simp [Double.compare?, hx, hy]

/-- **The order by value.** Unmixed cells that compare do so by their places. -/
theorem compare?_eq_order (h : Unmixed cells) {a b : Cell} (ha : a ∈ cells) (hb : b ∈ cells)
    (hdomain : a.domain = b.domain) (hca : a.isComparable = true) (hcb : b.isComparable = true) :
    a.compare? b =
      some (Place.order (place Double.ordinal cells a) (place Double.ordinal cells b)) := by
  have hnumber : ∀ {x : Double}, (float x).isComparable = true → x.isNaN = false :=
    fun hx => (isComparable_iff.mp hx).2
  cases akin_of_domain_eq hdomain with
  | nulls => cases hca
  | booleans p q => rw [order_booleans]; rfl
  | strings s t => rw [order_strings]; rfl
  | integers i j => rw [order_integers faithful_ordinal]; rfl
  | integerFloat i y =>
    rw [order_integer_float faithful_ordinal h ha hb, compare?_integer_float]
    exact doubleCompare?_eq (Double.isNaN_ofInt _) (hnumber hcb)
  | floatInteger x j =>
    rw [order_float_integer faithful_ordinal h ha hb, compare?_float_integer]
    exact doubleCompare?_eq (hnumber hca) (Double.isNaN_ofInt _)
  | floats x y =>
    rw [order_floats faithful_ordinal, compare?_floats]
    exact doubleCompare?_eq (hnumber hca) (hnumber hcb)

/-- **The sorting order.** Unmixed cells of one domain are sorted by their places. -/
theorem sortOrder_eq_order (h : Unmixed cells) {a b : Cell} (ha : a ∈ cells) (hb : b ∈ cells)
    (hdomain : a.domain = b.domain) :
    Summary.sortOrder a b =
      Place.order (place Double.rank cells a) (place Double.rank cells b) := by
  cases akin_of_domain_eq hdomain with
  | nulls => rfl
  | booleans p q => rw [order_booleans]; rfl
  | strings s t => rw [order_strings]; rfl
  | integers i j => rw [order_integers faithful_rank]; rfl
  | integerFloat i y => rw [order_integer_float faithful_rank h ha hb]; rfl
  | floatInteger x j => rw [order_float_integer faithful_rank h ha hb]; rfl
  | floats x y => rw [order_floats faithful_rank]; rfl

/-- A level of doubles is at most another one by value if it is so by rank. -/
theorem ordinal_isLE_of_rank_isLE {x y : Double} (h : (compare x.rank y.rank).isLE = true) :
    (compare x.ordinal y.ordinal).isLE = true := by
  rw [Int.isLE_compare] at h ⊢
  exact Double.ordinal_le_of_rank_le h

/-- **Sorting refines the order by value.** -/
theorem value_le_of_sort_le (h : Unmixed cells) {a b : Cell} (ha : a ∈ cells) (hb : b ∈ cells)
    (hdomain : a.domain = b.domain)
    (hle : (place Double.rank cells a).le (place Double.rank cells b) = true) :
    (place Double.ordinal cells a).le (place Double.ordinal cells b) = true := by
  unfold Place.le at hle ⊢
  -- only numbers have levels; every other cell has one place in both orders
  cases akin_of_domain_eq hdomain with
  | nulls | booleans _ _ | strings _ _ => exact hle
  | integers i j =>
    rw [order_integers faithful_rank] at hle
    rw [order_integers faithful_ordinal]
    exact hle
  | integerFloat i y =>
    rw [order_integer_float faithful_rank h ha hb] at hle
    rw [order_integer_float faithful_ordinal h ha hb]
    exact ordinal_isLE_of_rank_isLE hle
  | floatInteger x j =>
    rw [order_float_integer faithful_rank h ha hb] at hle
    rw [order_float_integer faithful_ordinal h ha hb]
    exact ordinal_isLE_of_rank_isLE hle
  | floats x y =>
    rw [order_floats faithful_rank] at hle
    rw [order_floats faithful_ordinal]
    exact ordinal_isLE_of_rank_isLE hle

/-- The level of a number lies between those of the infinities. -/
theorem major_bounds (cells : List Cell) {a : Cell} (hdomain : a.domain = .number)
    (ha : a.isComparable = true) :
    -(Floating.Format.binary64.infinity : Int) ≤ (place Double.ordinal cells a).major ∧
      (place Double.ordinal cells a).major ≤ Floating.Format.binary64.infinity := by
  cases a with
  | integer i => exact Double.isNaN_eq_false_iff.mp (Double.isNaN_ofInt i.toInt)
  | float x => exact Double.isNaN_eq_false_iff.mp (isComparable_iff.mp ha).2
  | null | boolean _ | string _ => cases hdomain

/-- What stands between two cells that compare does so too. -/
theorem isComparable_of_between {a b c : Cell} (hab : a.domain = b.domain)
    (hbc : b.domain = c.domain)
    (hlow : (place Double.ordinal cells a).le (place Double.ordinal cells b) = true)
    (hhigh : (place Double.ordinal cells b).le (place Double.ordinal cells c) = true)
    (ha : a.isComparable = true) (hc : c.isComparable = true) : b.isComparable = true := by
  cases b with
  | null =>
    cases a with
    | null => exact ha
    | boolean _ | integer _ | float _ | string _ => cases hab
  | boolean _ | integer _ | string _ => rfl
  | float x =>
    have hlow' : _ ≤ x.ordinal := Place.major_le_of_le hlow
    have hhigh' : x.ordinal ≤ _ := Place.major_le_of_le hhigh
    have hbelow := (major_bounds cells hab ha).1
    have habove := (major_bounds cells hbc.symm hc).2
    have hx : x.isNaN = false :=
      Double.isNaN_eq_false_iff.mpr ⟨Int.le_trans hbelow hlow', Int.le_trans hhigh' habove⟩
    exact isComparable_iff.mpr ⟨nofun, hx⟩

/-! ## Comparisons as statements on places -/

/-- Cells that are the same compare. -/
theorem comparable_of_sameAs {a b : Cell} (h : a.sameAs b = true) :
    a.domain = b.domain ∧ a.isComparable = true ∧ b.isComparable = true := by
  refine compare?_isSome_iff.mp ?_
  rw [sameAs_iff_compare?_eq.mp h]
  rfl

/-- Unmixed cells are the same when they have one place. -/
theorem sameAs_iff_place_eq (h : Unmixed cells) {a b : Cell} (ha : a ∈ cells) (hb : b ∈ cells)
    (hdomain : a.domain = b.domain) (hca : a.isComparable = true) (hcb : b.isComparable = true) :
    a.sameAs b = true ↔ place Double.ordinal cells a = place Double.ordinal cells b := by
  rw [sameAs_iff_compare?_eq, compare?_eq_order h ha hb hdomain hca hcb, Option.some_inj]
  exact Std.LawfulEqCmp.compare_eq_iff_eq

end Orders

end Cell

end Winnow
