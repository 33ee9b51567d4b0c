/-!
# `Winnow.RowSet.Bounds` — boundaries of sets of positions

A finite set of positions is given by the ascending positions at which membership changes, of which
there is an even number. One sweep over the boundaries of two sets finds the boundaries of any
Boolean combination of them.

## Contents
- **`sweep`**: the boundaries of a pointwise Boolean combination.
- **`sweep_ascending`**, **`sweep_even`**: it keeps boundaries ascending and even in number.
- **`ofFlags`**: the boundaries of a list of flags, with the same two laws.
-/

namespace Winnow.RowSet.Bounds

/-- Strictly ascending positions. -/
abbrev Ascending (bounds : List Nat) : Prop := bounds.Pairwise (· < ·)

/-- Whether a number is odd. -/
def odd (n : Nat) : Bool := n % 2 == 1

theorem odd_succ (n : Nat) : odd (n + 1) = !odd n := by
  rcases Nat.mod_two_eq_zero_or_one n with h | h
  · simp [odd, Nat.add_mod, h]
  · simp [odd, Nat.add_mod, h]

/-! ## Sweeping two lists of boundaries -/

/-- Drops a boundary that stands at a position, and crosses it. -/
def cross (position : Nat) (inside : Bool) : List Nat → Bool × List Nat
  | [] => (inside, [])
  | bound :: rest => if bound = position then (!inside, rest) else (inside, bound :: rest)

/-- The first of two lists of boundaries that are still ahead. -/
def next? : List Nat → List Nat → Option Nat
  | [], [] => none
  | a :: _, [] => some a
  | [], b :: _ => some b
  | a :: _, b :: _ => some (min a b)

/-- Sweeps over the boundaries of two sets, of which `inA` and `inB` tell the membership reached,
    and collects the positions where `op` of the memberships changes, the last one first. The fuel
    bounds the number of boundaries. -/
def sweep (op : Bool → Bool → Bool) :
    Nat → Bool → Bool → List Nat → List Nat → List Nat → List Nat
  | 0, _, _, _, _, found => found.reverse
  | fuel + 1, inA, inB, a, b, found =>
    match next? a b with
    | none => found.reverse
    | some position =>
      let (inA', a) := cross position inA a
      let (inB', b) := cross position inB b
      let found := if op inA inB = op inA' inB' then found else position :: found
      sweep op fuel inA' inB' a b found

/-- The boundaries of the positions whose memberships in two sets `op` combines to true. -/
def combine (op : Bool → Bool → Bool) (a b : List Nat) : List Nat :=
  sweep op (a.length + b.length) false false a b []

/-- A crossing drops at most the first boundary. -/
theorem cross_cases (position : Nat) (inside : Bool) (bounds : List Nat) :
    cross position inside bounds = (inside, bounds) ∨
      ∃ rest, bounds = position :: rest ∧ cross position inside bounds = (!inside, rest) := by
  cases bounds with
  | nil => exact Or.inl rfl
  | cons bound rest =>
    by_cases h : bound = position
    · exact Or.inr ⟨rest, by rw [h], by simp [cross, h]⟩
    · exact Or.inl (by simp [cross, h])

/-- What is left behind a crossing lies beyond it. -/
theorem cross_beyond (inside : Bool) {position : Nat} {bounds : List Nat}
    (sorted : Ascending bounds) (ahead : ∀ y ∈ bounds, position ≤ y) :
    Ascending (cross position inside bounds).2 ∧
      ∀ y ∈ (cross position inside bounds).2, position < y := by
  cases bounds with
  | nil => exact ⟨List.Pairwise.nil, fun y hy => absurd hy List.not_mem_nil⟩
  | cons bound rest =>
    have hrest := List.pairwise_cons.mp sorted
    by_cases h : bound = position
    · subst h
      simp only [cross, if_true]
      exact ⟨hrest.2, hrest.1⟩
    · have hlt : position < bound :=
        Nat.lt_of_le_of_ne (ahead bound List.mem_cons_self) (Ne.symm h)
      simp only [cross, if_neg h]
      refine ⟨sorted, fun y hy => ?_⟩
      rcases List.mem_cons.mp hy with rfl | hy
      · exact hlt
      · exact Nat.lt_trans hlt (hrest.1 y hy)

/-- The next boundary is the head of one of the lists, and nothing ahead comes before it. -/
theorem next?_spec {a b : List Nat} {position : Nat} (ha : Ascending a) (hb : Ascending b)
    (h : next? a b = some position) :
    (position ∈ a ∨ position ∈ b) ∧ (∀ y ∈ a, position ≤ y) ∧ ∀ y ∈ b, position ≤ y := by
  have least : ∀ {x : Nat} {xs : List Nat}, Ascending (x :: xs) → ∀ y ∈ x :: xs, x ≤ y := by
    intro x xs hs y hy
    rcases List.mem_cons.mp hy with rfl | hy
    · exact Nat.le_refl _
    · exact Nat.le_of_lt ((List.pairwise_cons.mp hs).1 y hy)
  match a, b, h with
  | x :: xs, [], h =>
    obtain rfl := Option.some.inj h
    exact ⟨Or.inl List.mem_cons_self, least ha, fun y hy => absurd hy List.not_mem_nil⟩
  | [], y :: ys, h =>
    obtain rfl := Option.some.inj h
    exact ⟨Or.inr List.mem_cons_self, fun y hy => absurd hy List.not_mem_nil, least hb⟩
  | x :: xs, y :: ys, h =>
    obtain rfl := Option.some.inj h
    refine ⟨?_, fun z hz => Nat.le_trans (Nat.min_le_left x y) (least ha z hz),
      fun z hz => Nat.le_trans (Nat.min_le_right x y) (least hb z hz)⟩
    rcases Nat.le_total x y with hxy | hxy
    · exact Or.inl (by rw [Nat.min_eq_left hxy]; exact List.mem_cons_self)
    · exact Or.inr (by rw [Nat.min_eq_right hxy]; exact List.mem_cons_self)

/-- Only when nothing is ahead is there no next boundary. -/
theorem next?_eq_none {a b : List Nat} (h : next? a b = none) : a = [] ∧ b = [] := by
  cases a <;> cases b <;> simp_all [next?]

theorem sweep_ascending (op : Bool → Bool → Bool) (fuel : Nat) :
    ∀ (inA inB : Bool) (a b found : List Nat), Ascending a → Ascending b →
      found.Pairwise (· > ·) → (∀ x ∈ found, ∀ y ∈ a, x < y) → (∀ x ∈ found, ∀ y ∈ b, x < y) →
      Ascending (sweep op fuel inA inB a b found) := by
  induction fuel with
  | zero =>
    intro inA inB a b found _ _ hfound _ _
    exact List.pairwise_reverse.mpr hfound
  | succ fuel ih =>
    intro inA inB a b found ha hb hfound hfa hfb
    unfold sweep
    split
    · exact List.pairwise_reverse.mpr hfound
    · rename_i position hnext
      obtain ⟨hmem, haheadA, haheadB⟩ := next?_spec ha hb hnext
      have hbefore : ∀ x ∈ found, x < position := fun x hx =>
        hmem.elim (hfa x hx position) (hfb x hx position)
      obtain ⟨ha', hbeyondA⟩ := cross_beyond inA ha haheadA
      obtain ⟨hb', hbeyondB⟩ := cross_beyond inB hb haheadB
      have hkeep : ∀ {rest : List Nat}, (∀ y ∈ rest, position < y) →
          (∀ x ∈ found, ∀ y ∈ rest, x < y) ∧ ∀ x ∈ position :: found, ∀ y ∈ rest, x < y := by
        intro rest hrest
        have hold : ∀ x ∈ found, ∀ y ∈ rest, x < y := fun x hx y hy =>
          Nat.lt_trans (hbefore x hx) (hrest y hy)
        refine ⟨hold, fun x hx => ?_⟩
        rcases List.mem_cons.mp hx with rfl | hx
        · exact hrest
        · exact hold x hx
      dsimp only
      split
      · exact ih _ _ _ _ _ ha' hb' hfound (hkeep hbeyondA).1 (hkeep hbeyondB).1
      · exact ih _ _ _ _ _ ha' hb' (List.pairwise_cons.mpr ⟨hbefore, hfound⟩)
          (hkeep hbeyondA).2 (hkeep hbeyondB).2

/-- The membership reached is odd exactly when an odd number of boundaries is ahead, before a
    crossing and after it. -/
theorem cross_odd {position : Nat} {inside : Bool} {bounds : List Nat}
    (h : inside = odd bounds.length) :
    (cross position inside bounds).1 = odd (cross position inside bounds).2.length := by
  rcases cross_cases position inside bounds with hc | ⟨rest, rfl, hc⟩
  · rw [hc]
    exact h
  · rw [hc]
    simp only [h, List.length_cons, odd_succ, Bool.not_not]

/-- A crossing at the next boundary leaves fewer boundaries ahead. -/
theorem cross_length_lt (inA inB : Bool) {a b : List Nat} {position : Nat}
    (h : next? a b = some position) :
    (cross position inA a).2.length + (cross position inB b).2.length < a.length + b.length := by
  have shorter : ∀ (inside : Bool) (bounds : List Nat),
      (cross position inside bounds).2.length ≤ bounds.length := by
    intro inside bounds
    rcases cross_cases position inside bounds with hc | ⟨rest, rfl, hc⟩
    · exact Nat.le_of_eq (by rw [hc])
    · rw [hc]
      exact Nat.le_succ _
  have drops : ∀ (inside : Bool) (rest : List Nat),
      (cross position inside (position :: rest)).2.length < (position :: rest).length := by
    intro inside rest
    simp [cross]
  match a, b, h with
  | x :: xs, [], h =>
    obtain rfl := Option.some.inj h
    exact Nat.add_lt_add_of_lt_of_le (drops inA xs) (shorter inB [])
  | [], y :: ys, h =>
    obtain rfl := Option.some.inj h
    exact Nat.add_lt_add_of_le_of_lt (shorter inA []) (drops inB ys)
  | x :: xs, y :: ys, h =>
    rcases Nat.le_total x y with hxy | hxy
    · obtain rfl : x = position := by rw [← Option.some.inj h, Nat.min_eq_left hxy]
      exact Nat.add_lt_add_of_lt_of_le (drops inA xs) (shorter inB _)
    · obtain rfl : y = position := by rw [← Option.some.inj h, Nat.min_eq_right hxy]
      exact Nat.add_lt_add_of_le_of_lt (shorter inA _) (drops inB ys)

theorem sweep_even {op : Bool → Bool → Bool} (outside : op false false = false) (fuel : Nat) :
    ∀ (inA inB : Bool) (a b found : List Nat), a.length + b.length ≤ fuel →
      inA = odd a.length → inB = odd b.length → op inA inB = odd found.length →
      odd (sweep op fuel inA inB a b found).length = false := by
  have done : ∀ (inA inB : Bool) (a b found : List Nat), a = [] → b = [] →
      inA = odd a.length → inB = odd b.length → op inA inB = odd found.length →
      odd found.reverse.length = false := by
    intro inA inB a b found ha hb hinA hinB hop
    subst ha hb
    rw [List.length_reverse, ← hop, hinA, hinB]
    exact outside
  induction fuel with
  | zero =>
    intro inA inB a b found hfuel hinA hinB hop
    have ha : a = [] := List.length_eq_zero_iff.mp (by omega)
    have hb : b = [] := List.length_eq_zero_iff.mp (by omega)
    exact done inA inB a b found ha hb hinA hinB hop
  | succ fuel ih =>
    intro inA inB a b found hfuel hinA hinB hop
    unfold sweep
    split
    · rename_i hnext
      have hempty := next?_eq_none hnext
      exact done inA inB a b found hempty.1 hempty.2 hinA hinB hop
    · rename_i position hnext
      have hless := cross_length_lt inA inB hnext
      dsimp only
      refine ih _ _ _ _ _ (by omega) (cross_odd hinA) (cross_odd hinB) ?_
      split
      · rename_i hsame
        rw [← hsame, hop]
      · rename_i hdiffer
        rw [List.length_cons, odd_succ, ← hop]
        exact Bool.eq_not.mpr fun heq => hdiffer heq.symm

theorem combine_ascending (op : Bool → Bool → Bool) {a b : List Nat} (ha : Ascending a)
    (hb : Ascending b) : Ascending (combine op a b) :=
  sweep_ascending op _ false false a b [] ha hb List.Pairwise.nil
    (fun _ hx => absurd hx List.not_mem_nil) (fun _ hx => absurd hx List.not_mem_nil)

theorem combine_even {op : Bool → Bool → Bool} (outside : op false false = false) {a b : List Nat}
    (ha : odd a.length = false) (hb : odd b.length = false) :
    odd (combine op a b).length = false :=
  sweep_even outside _ false false a b [] (Nat.le_refl _) ha.symm hb.symm outside

/-! ## Lists of flags -/

/-- The boundaries of a list of flags from a position on, where `inside` is the flag before them and
    no flag is set behind them. Those found so far are kept in descending order. -/
def ofFlagsFrom (position : Nat) (inside : Bool) (found : List Nat) : List Bool → List Nat
  | [] => (if inside then position :: found else found).reverse
  | flag :: rest =>
    ofFlagsFrom (position + 1) flag (if flag = inside then found else position :: found) rest

/-- The boundaries of the positions of the flags that are set. -/
def ofFlags (flags : List Bool) : List Nat := ofFlagsFrom 0 false [] flags

theorem ofFlagsFrom_ascending (flags : List Bool) :
    ∀ (position : Nat) (inside : Bool) (found : List Nat), found.Pairwise (· > ·) →
      (∀ x ∈ found, x < position) → Ascending (ofFlagsFrom position inside found flags) := by
  induction flags with
  | nil =>
    intro position inside found hfound hbefore
    refine List.pairwise_reverse.mpr ?_
    split
    · exact List.pairwise_cons.mpr ⟨hbefore, hfound⟩
    · exact hfound
  | cons flag rest ih =>
    intro position inside found hfound hbefore
    unfold ofFlagsFrom
    have hnext : ∀ x ∈ found, x < position + 1 := fun x hx => Nat.lt_succ_of_lt (hbefore x hx)
    split
    · exact ih _ _ _ hfound hnext
    · refine ih _ _ _ (List.pairwise_cons.mpr ⟨hbefore, hfound⟩) fun x hx => ?_
      rcases List.mem_cons.mp hx with rfl | hx
      · exact Nat.lt_succ_self _
      · exact hnext x hx

theorem ofFlagsFrom_even (flags : List Bool) :
    ∀ (position : Nat) (inside : Bool) (found : List Nat), inside = odd found.length →
      odd (ofFlagsFrom position inside found flags).length = false := by
  induction flags with
  | nil =>
    intro position inside found h
    cases inside with
    | false => simpa [ofFlagsFrom] using h.symm
    | true => simp [ofFlagsFrom, odd_succ, ← h]
  | cons flag rest ih =>
    intro position inside found h
    unfold ofFlagsFrom
    refine ih _ _ _ ?_
    split
    · rename_i hsame
      rw [hsame, h]
    · rename_i hdiffer
      rw [List.length_cons, odd_succ, ← h]
      exact Bool.eq_not.mpr hdiffer

theorem ofFlags_ascending (flags : List Bool) : Ascending (ofFlags flags) :=
  ofFlagsFrom_ascending flags 0 false [] List.Pairwise.nil fun _ hx => absurd hx List.not_mem_nil

theorem ofFlags_even (flags : List Bool) : odd (ofFlags flags).length = false :=
  ofFlagsFrom_even flags 0 false [] rfl

end Winnow.RowSet.Bounds
