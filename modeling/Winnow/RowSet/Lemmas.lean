import Winnow.RowSet

/-!
# `Winnow.RowSet.Lemmas` — membership decides

Every operation on row sets is described by what it does to `contains`, and two sets with the same
members are the same set. Nothing that follows from here on looks at boundaries.

## Contents
- **`contains_union`**, **`contains_intersect`**, **`contains_difference`**, **`contains_insert`**,
  **`contains_ofList`**, **`contains_ofFlags`**, **`contains_interval`**: the operations.
- **`ext_contains`**: a set is determined by its members.
- **`full?_of_le`**, **`full?_of_lt`**: when there is a set of all positions.
- **`mem_positions`**, **`positions_ascending`**, **`length_positions`**: the members as a list.
-/

namespace Winnow.RowSet

namespace Bounds

/-- Whether a position is in the set of some boundaries. -/
def member (bounds : List Nat) (row : Nat) : Bool := odd (bounds.countP (· ≤ row))

theorem member_nil (row : Nat) : member [] row = false := rfl

theorem member_cons (bound : Nat) (rest : List Nat) (row : Nat) :
    member (bound :: rest) row = (decide (bound ≤ row) ^^ member rest row) := by
  unfold member
  rw [List.countP_cons]
  by_cases h : bound ≤ row
  · simp [h, odd_succ]
  · simp [h]

theorem member_reverse (bounds : List Nat) (row : Nat) :
    member bounds.reverse row = member bounds row := by
  unfold member
  rw [List.countP_reverse]

/-- Before the first boundary nothing is in the set. -/
theorem member_before {bounds : List Nat} {row : Nat} (h : ∀ y ∈ bounds, row < y) :
    member bounds row = false := by
  have hzero : bounds.countP (· ≤ row) = 0 :=
    List.countP_eq_zero.mpr fun y hy => by simpa using h y hy
  rw [member, hzero]
  rfl

/-! ## Sweeping -/

/-- A crossing at a position moves the boundary there into the flag, for all rows from it on. -/
theorem member_cross {position row : Nat} (inside : Bool) (bounds : List Nat)
    (h : position ≤ row) :
    ((cross position inside bounds).1 ^^ member (cross position inside bounds).2 row) =
      (inside ^^ member bounds row) := by
  rcases cross_cases position inside bounds with hc | ⟨rest, rfl, hc⟩
  · rw [hc]
  · rw [hc, member_cons]
    cases inside <;> cases member rest row <;> simp [h]

/-- For rows before every boundary, a crossing changes nothing that is ahead. -/
theorem member_cross_before {position row : Nat} (inside : Bool) {bounds : List Nat}
    (sorted : Ascending bounds) (ahead : ∀ y ∈ bounds, position ≤ y) (h : row < position) :
    member (cross position inside bounds).2 row = false ∧ member bounds row = false :=
  ⟨member_before fun y hy => Nat.lt_trans h ((cross_beyond inside sorted ahead).2 y hy),
    member_before fun y hy => Nat.lt_of_lt_of_le h (ahead y hy)⟩

/-- The boundaries collected by a sweep carry the changes found so far, and from the memberships
    reached on those of the combination. -/
theorem member_sweep (op : Bool → Bool → Bool) (row : Nat) (fuel : Nat) :
    ∀ (inA inB : Bool) (a b found : List Nat), Ascending a → Ascending b →
      a.length + b.length ≤ fuel →
      member (sweep op fuel inA inB a b found) row =
        (member found row ^^ op inA inB ^^ op (inA ^^ member a row) (inB ^^ member b row)) := by
  have done : ∀ (inA inB : Bool) (found : List Nat),
      member found.reverse row =
        (member found row ^^ op inA inB ^^ op (inA ^^ member [] row) (inB ^^ member [] row)) := by
    intro inA inB found
    rw [member_reverse, member_nil, Bool.xor_false, Bool.xor_false, Bool.xor_assoc, Bool.xor_self,
      Bool.xor_false]
  induction fuel with
  | zero =>
    intro inA inB a b found _ _ hfuel
    obtain rfl : a = [] := List.length_eq_zero_iff.mp (by omega)
    obtain rfl : b = [] := List.length_eq_zero_iff.mp (by omega)
    exact done inA inB found
  | succ fuel ih =>
    intro inA inB a b found ha hb hfuel
    unfold sweep
    split
    · rename_i hnext
      obtain ⟨rfl, rfl⟩ := next?_eq_none hnext
      exact done inA inB found
    · rename_i position hnext
      obtain ⟨_, haheadA, haheadB⟩ := next?_spec ha hb hnext
      have hless := cross_length_lt inA inB hnext
      dsimp only
      rw [ih _ _ _ _ _ (cross_beyond inA ha haheadA).1 (cross_beyond inB hb haheadB).1 (by omega)]
      by_cases hrow : position ≤ row
      · rw [member_cross inA a hrow, member_cross inB b hrow]
        split
        · rename_i hsame
          rw [hsame]
        · rename_i hdiffer
          rw [member_cons, decide_eq_true hrow]
          congr 1
          generalize op inA inB = before at hdiffer
          generalize op _ _ = after at hdiffer
          cases before <;> cases after <;> simp_all
      · have hbefore : row < position := Nat.lt_of_not_le hrow
        obtain ⟨hA, hA'⟩ := member_cross_before inA ha haheadA hbefore
        obtain ⟨hB, hB'⟩ := member_cross_before inB hb haheadB hbefore
        rw [hA, hA', hB, hB']
        have hfound : ∀ (p : Prop) [Decidable p],
            member (if p then found else position :: found) row = member found row := by
          intro p _
          split
          · rfl
          · rw [member_cons, decide_eq_false hrow, Bool.false_xor]
        rw [hfound]
        simp only [Bool.xor_false, Bool.xor_assoc, Bool.xor_self]

theorem member_combine {op : Bool → Bool → Bool} (outside : op false false = false)
    {a b : List Nat} (ha : Ascending a) (hb : Ascending b) (row : Nat) :
    member (combine op a b) row = op (member a row) (member b row) := by
  unfold combine
  rw [member_sweep op row _ false false a b [] ha hb (Nat.le_refl _), member_nil, outside]
  simp only [Bool.false_xor]

/-! ## Flags -/

theorem member_ofFlagsFrom (row : Nat) (flags : List Bool) :
    ∀ (position : Nat) (inside : Bool) (found : List Nat),
      member (ofFlagsFrom position inside found flags) row =
        if row < position then member found row
        else member found row ^^ inside ^^ (flags[row - position]?).getD false := by
  induction flags with
  | nil =>
    intro position inside found
    unfold ofFlagsFrom
    rw [member_reverse]
    by_cases hrow : row < position
    · cases inside with
      | false => simp [hrow]
      | true => simp [hrow, member_cons, Nat.not_le_of_lt hrow]
    · cases inside with
      | false => simp [hrow]
      | true => simp [hrow, member_cons, Nat.le_of_not_lt hrow]
  | cons flag rest ih =>
    intro position inside found
    unfold ofFlagsFrom
    rw [ih]
    rcases Nat.lt_trichotomy row position with hlt | rfl | hgt
    · rw [if_pos (Nat.lt_succ_of_lt hlt), if_pos hlt]
      split
      · rfl
      · rw [member_cons, decide_eq_false (Nat.not_le_of_lt hlt), Bool.false_xor]
    · rw [if_pos (Nat.lt_succ_self _), if_neg (Nat.lt_irrefl _), Nat.sub_self,
        List.getElem?_cons_zero, Option.getD_some]
      split
      · rename_i hsame
        rw [hsame, Bool.xor_assoc, Bool.xor_self, Bool.xor_false]
      · rename_i hdiffer
        rw [member_cons, decide_eq_true (Nat.le_refl _)]
        cases flag <;> cases inside <;> cases member found row <;> simp_all
    · rw [if_neg (show ¬ row < position + 1 by omega), if_neg (show ¬ row < position by omega)]
      obtain ⟨k, rfl⟩ : ∃ k, row = position + 1 + k := ⟨row - (position + 1), by omega⟩
      rw [show position + 1 + k - position = k + 1 by omega,
        show position + 1 + k - (position + 1) = k by omega, List.getElem?_cons_succ]
      split
      · rename_i hsame
        rw [hsame]
      · rename_i hdiffer
        rw [member_cons, decide_eq_true (by omega)]
        congr 1
        cases flag <;> cases inside <;> cases member found (position + 1 + k) <;> simp_all

theorem member_ofFlags (flags : List Bool) (row : Nat) :
    member (ofFlags flags) row = (flags[row]?).getD false := by
  unfold ofFlags
  rw [member_ofFlagsFrom, if_neg (Nat.not_lt_zero _), member_nil, Nat.sub_zero, Bool.false_xor,
    Bool.false_xor]

/-! ## Uniqueness -/

/-- Ascending boundaries with the same members are the same: at the first place where two lists
    differ, only one of the sets begins or ends. -/
theorem eq_of_member {a b : List Nat} (ha : Ascending a) (hb : Ascending b)
    (h : ∀ row, member a row = member b row) : a = b := by
  have first : ∀ {x : Nat} {xs : List Nat}, Ascending (x :: xs) → member (x :: xs) x = true := by
    intro x xs hs
    rw [member_cons, member_before (List.pairwise_cons.mp hs).1, decide_eq_true (Nat.le_refl _),
      Bool.xor_false]
  have earlier : ∀ {x : Nat} {ys : List Nat}, (∀ y ∈ ys, x < y) → member ys x = false :=
    fun hx => member_before hx
  induction a generalizing b with
  | nil =>
    cases b with
    | nil => rfl
    | cons y ys =>
      have hy := h y
      rw [first hb, member_nil] at hy
      exact absurd hy Bool.false_ne_true
  | cons x xs ih =>
    cases b with
    | nil =>
      have hx := h x
      rw [first ha, member_nil] at hx
      exact absurd hx.symm Bool.false_ne_true
    | cons y ys =>
      obtain ⟨hxs, ha'⟩ := List.pairwise_cons.mp ha
      obtain ⟨hys, hb'⟩ := List.pairwise_cons.mp hb
      have heq : x = y := by
        rcases Nat.lt_trichotomy x y with hxy | rfl | hxy
        · have hx := h x
          rw [first ha, earlier (List.forall_mem_cons.mpr
            ⟨hxy, fun z hz => Nat.lt_trans hxy (hys z hz)⟩)] at hx
          exact absurd hx.symm Bool.false_ne_true
        · rfl
        · have hy := h y
          rw [first hb, earlier (List.forall_mem_cons.mpr
            ⟨hxy, fun z hz => Nat.lt_trans hxy (hxs z hz)⟩)] at hy
          exact absurd hy Bool.false_ne_true
      subst heq
      rw [ih ha' hb' fun row => ?_]
      have hrow := h row
      rw [member_cons, member_cons] at hrow
      exact Bool.xor_right_inj.mp hrow

end Bounds

/-! ## Membership -/

theorem contains_eq_member (s : RowSet) (row : Nat) : s.contains row = Bounds.member s.bounds row :=
  rfl

theorem contains_empty (row : Nat) : empty.contains row = false := rfl

theorem contains_interval (first stop row : Nat) :
    (interval first stop).contains row = (decide (first ≤ row) && decide (row < stop)) := by
  unfold interval
  split
  · rename_i h
    rw [contains_eq_member, Bounds.member_cons, Bounds.member_cons, Bounds.member_nil]
    by_cases h1 : first ≤ row
    · by_cases h2 : row < stop
      · simp [h1, h2, Nat.not_le_of_lt h2]
      · simp [h1, h2, Nat.le_of_not_lt h2]
    · have h2 : ¬ stop ≤ row := by omega
      simp [h1, h2]
  · rename_i h
    rw [contains_empty]
    by_cases h1 : first ≤ row
    · have h2 : ¬ row < stop := by omega
      simp [h2]
    · simp [h1]

theorem contains_combine (op : Bool → Bool → Bool) (outside : op false false = false)
    (s t : RowSet) (row : Nat) :
    (combine op outside s t).contains row = op (s.contains row) (t.contains row) :=
  Bounds.member_combine outside s.ascending t.ascending row

theorem contains_intersect (s t : RowSet) (row : Nat) :
    (s.intersect t).contains row = (s.contains row && t.contains row) :=
  contains_combine _ rfl s t row

theorem contains_union (s t : RowSet) (row : Nat) :
    (s.union t).contains row = (s.contains row || t.contains row) :=
  contains_combine _ rfl s t row

theorem contains_difference (s t : RowSet) (row : Nat) :
    (s.difference t).contains row = (s.contains row && !t.contains row) :=
  contains_combine _ rfl s t row

theorem contains_insert (s : RowSet) (new row : Nat) :
    (s.insert new).contains row = (s.contains row || decide (row = new)) := by
  unfold insert
  rw [contains_union, contains_interval]
  congr 1
  by_cases h : row = new
  · simp [h]
  · have h' : ¬ (new ≤ row ∧ row < new + 1) := by omega
    simp only [h, decide_false]
    simpa using h'

theorem contains_ofList (rows : List Nat) (row : Nat) :
    (ofList rows).contains row = decide (row ∈ rows) := by
  have fold : ∀ (rows : List Nat) (s : RowSet),
      (rows.foldl insert s).contains row = (s.contains row || decide (row ∈ rows)) := by
    intro rows
    induction rows with
    | nil =>
      intro s
      simp
    | cons new rest ih =>
      intro s
      rw [List.foldl_cons, ih, contains_insert, Bool.or_assoc]
      congr 1
      simp
  rw [ofList, fold, contains_empty, Bool.false_or]

theorem contains_ofFlags (flags : List Bool) (row : Nat) :
    (ofFlags flags).contains row = (flags[row]?).getD false :=
  Bounds.member_ofFlags flags row

/-- A set is determined by its members. -/
theorem ext_contains {s t : RowSet} (h : ∀ row, s.contains row = t.contains row) : s = t := by
  have hbounds : s.bounds = t.bounds := Bounds.eq_of_member s.ascending t.ascending h
  cases s
  cases t
  cases hbounds
  rfl

/-! ## Bounded positions -/

theorem rowId_of_le {position : Nat} (h : position ≤ maxRowId) : rowId position = .ok position :=
  if_pos h

theorem full?_of_le {length : Nat} (h : length ≤ maxRowId) :
    full? length = .ok (interval 0 length) := by
  rw [full?, rowId_of_le h]
  rfl

/-- Beyond the bound there is no set of all positions. -/
theorem full?_of_lt {length : Nat} (h : maxRowId < length) :
    full? length = .error (.badRequest .tooManyRows) := by
  rw [full?, rowId, if_neg (Nat.not_le_of_lt h)]
  rfl

/-! ## The members as a list -/

namespace Bounds

/-- The runs of some boundaries, each by its first and last position. -/
def pairs : List Nat → List (Nat × Nat)
  | first :: stop :: rest => (first, stop - 1) :: pairs rest
  | _ => []

/-- The positions of some boundaries. -/
def positionsOf (bounds : List Nat) : List Nat :=
  (pairs bounds).flatMap fun run => List.range' run.1 (run.2 + 1 - run.1)

/-- A list that does not begin with two elements has none or one. -/
theorem short_cases {bounds : List Nat}
    (h : ∀ first stop rest, bounds = first :: stop :: rest → False) :
    bounds = [] ∨ ∃ x, bounds = [x] := by
  cases bounds with
  | nil => exact Or.inl rfl
  | cons x rest =>
    cases rest with
    | nil => exact Or.inr ⟨x, rfl⟩
    | cons y rest => exact absurd rfl (h x y rest)

theorem mem_positionsOf {bounds : List Nat} (sorted : Ascending bounds)
    (even : odd bounds.length = false) (row : Nat) :
    row ∈ positionsOf bounds ↔ member bounds row = true := by
  fun_induction pairs bounds with
  | case1 first stop rest ih =>
    obtain ⟨hfirst, hbehind⟩ := List.pairwise_cons.mp sorted
    obtain ⟨hstop, hrest⟩ := List.pairwise_cons.mp hbehind
    have hlt : first < stop := hfirst stop List.mem_cons_self
    have heven : odd rest.length = false := by
      simpa only [List.length_cons, odd_succ, Bool.not_not] using even
    have hrun : row ∈ List.range' first (stop - 1 + 1 - first) ↔ first ≤ row ∧ row < stop := by
      rw [List.mem_range'_1]
      omega
    rw [positionsOf, pairs, List.flatMap_cons, List.mem_append, hrun, member_cons, member_cons]
    change _ ∨ row ∈ positionsOf rest ↔ _
    rw [ih hrest heven]
    by_cases h1 : first ≤ row
    · by_cases h2 : row < stop
      · have h3 : member rest row = false :=
          member_before fun y hy => Nat.lt_trans h2 (hstop y hy)
        simp [h1, h2, h3, Nat.not_le_of_lt h2]
      · simp [h1, h2, Nat.le_of_not_lt h2]
    · have h2 : ¬ stop ≤ row := by omega
      simp [h1, h2]
  | case2 bounds hshort =>
    rcases short_cases hshort with rfl | ⟨x, rfl⟩
    · simp [positionsOf, pairs, member_nil]
    · exact absurd even (by simp [odd])

theorem positionsOf_ascending {bounds : List Nat} (sorted : Ascending bounds) :
    Ascending (positionsOf bounds) ∧
      ∀ x ∈ positionsOf bounds, ∀ y, (∀ z ∈ bounds, y ≤ z) → y ≤ x := by
  fun_induction pairs bounds with
  | case1 first stop rest ih =>
    obtain ⟨hfirst, hbehind⟩ := List.pairwise_cons.mp sorted
    obtain ⟨hstop, hrest⟩ := List.pairwise_cons.mp hbehind
    have hlt : first < stop := hfirst stop List.mem_cons_self
    obtain ⟨ihsorted, ihbound⟩ := ih hrest
    have hsplit : positionsOf (first :: stop :: rest) =
        List.range' first (stop - 1 + 1 - first) ++ positionsOf rest := by
      rw [positionsOf, pairs, List.flatMap_cons]
      rfl
    rw [hsplit]
    refine ⟨List.pairwise_append.mpr ⟨List.pairwise_lt_range', ihsorted, fun x hx y hy => ?_⟩,
      fun x hx y hy => ?_⟩
    · have hx' := List.mem_range'_1.mp hx
      have hy' := ihbound y hy stop fun z hz => Nat.le_of_lt (hstop z hz)
      omega
    · have hfirst' := hy first List.mem_cons_self
      rcases List.mem_append.mp hx with hx | hx
      · exact Nat.le_trans hfirst' (List.mem_range'_1.mp hx).1
      · exact ihbound x hx y fun z hz => hy z (List.mem_cons_of_mem _ (List.mem_cons_of_mem _ hz))
  | case2 bounds hshort =>
    rcases short_cases hshort with rfl | ⟨x, rfl⟩
    · exact ⟨List.Pairwise.nil, fun x hx => absurd hx List.not_mem_nil⟩
    · exact ⟨List.Pairwise.nil, fun x hx => absurd hx List.not_mem_nil⟩

end Bounds

theorem runs_eq_pairs (s : RowSet) : s.runs = Bounds.pairs s.bounds := by
  have collect : ∀ (found : List (Nat × Nat)) (bounds : List Nat),
      runs.go found bounds = found.reverse ++ Bounds.pairs bounds := by
    intro found bounds
    fun_induction runs.go found bounds with
    | case1 found first stop rest ih => simp [ih, Bounds.pairs]
    | case2 found bounds hshort =>
      rcases Bounds.short_cases hshort with rfl | ⟨x, rfl⟩
      · simp [Bounds.pairs]
      · simp [Bounds.pairs]
  rw [runs, collect, List.reverse_nil, List.nil_append]

theorem positions_eq (s : RowSet) : s.positions = Bounds.positionsOf s.bounds := by
  rw [positions, runs_eq_pairs]
  rfl

/-- The positions listed are the members. -/
theorem mem_positions {s : RowSet} {row : Nat} : row ∈ s.positions ↔ s.contains row = true := by
  rw [positions_eq]
  exact Bounds.mem_positionsOf s.ascending s.even row

/-- The members are listed in ascending order, each once. -/
theorem positions_ascending (s : RowSet) : s.positions.Pairwise (· < ·) := by
  rw [positions_eq]
  exact (Bounds.positionsOf_ascending s.ascending).1

/-- The size is the number of members. -/
theorem length_positions (s : RowSet) : s.positions.length = s.size := by
  have total : ∀ (runs : List (Nat × Nat)) (n : Nat),
      runs.foldl (fun total run => total + (run.2 + 1 - run.1)) n =
        n + (runs.flatMap fun run => List.range' run.1 (run.2 + 1 - run.1)).length := by
    intro runs
    induction runs with
    | nil =>
      intro n
      rfl
    | cons run rest ih =>
      intro n
      rw [List.foldl_cons, ih, List.flatMap_cons, List.length_append, List.length_range']
      omega
  rw [size, total, Nat.zero_add]
  rfl

end Winnow.RowSet
