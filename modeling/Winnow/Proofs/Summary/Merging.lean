import Winnow.Proofs.Summary.Range

/-!
# `Winnow.Proofs.Summary.Merging` — specs merged in any order and grouping

Merging two specs settles each field on its own: a cell gives way to another one that beats it
strictly, and stays otherwise. What is left of several cells is one that none of them beats. If they
are merged one after the other this only takes that beating is transitive; if merged specs are
merged with each other, it also takes that cells that do not beat each other are alike, as they are
where no float blurs two integers. Two numbers that both are unbeaten are the same.

## Contents
- **`keep`**, **`Unbeaten`**, **`Unbeaten.next`**, **`Unbeaten.keep`**: the cells of one field.
- **`NumericSpec.Covers`**, **`Covers.next`**, **`Covers.foldl`**, **`Covers.merge`**: merged specs.
- **`Covers.matches`**, **`Matches.eq_of_whole`**: two ways of merging the same specs.
- **`Grouping`**, **`covers_merged`**: specs merged in any grouping.
-/

namespace Winnow

open Cell Summary

/-! ## The cells of one field -/

namespace Cell

variable {beats : Cell → Cell → Bool} {cells others : List Cell} {a b : Cell}

/-- Of two cells, the second one if it beats the first one, and the first one otherwise. -/
def keep (beats : Cell → Cell → Bool) (a b : Cell) : Cell := if beats b a then b else a

/-- A cell is among cells of which none beats it. -/
structure Unbeaten (beats : Cell → Cell → Bool) (cells : List Cell) (cell : Cell) : Prop where
  mem : cell ∈ cells
  unbeaten : ∀ other ∈ cells, ¬ beats other cell = true

/-- Beating is a strict order. -/
structure Strict (beats : Cell → Cell → Bool) : Prop where
  irrefl : ∀ a, ¬ beats a a = true
  trans : ∀ {a b c}, beats a b = true → beats b c = true → beats a c = true

/-- A cell that beats another one is above or below it. -/
def above (a b : Cell) : Bool := b.less a

theorem strict_less : Strict less := ⟨less_irrefl, less_trans⟩

theorem strict_above : Strict above := ⟨less_irrefl, fun hab hbc => less_trans hbc hab⟩

theorem unbeaten_singleton (h : Strict beats) (a : Cell) : Unbeaten beats [a] a :=
  ⟨List.mem_singleton_self a, List.forall_mem_singleton.mpr (h.irrefl a)⟩

/-- **One more cell.** If the new one beats the one held, what would beat the new one would have
    beaten that one as well. -/
theorem Unbeaten.next (h : Strict beats) (ha : Unbeaten beats cells a) (b : Cell) :
    Unbeaten beats (cells ++ [b]) (keep beats a b) := by
  unfold keep
  split
  · rename_i hbeats
    refine ⟨by simp, List.forall_mem_append.mpr ⟨fun other hother hbeaten => ?_, ?_⟩⟩
    · exact ha.unbeaten other hother (h.trans hbeaten hbeats)
    · exact List.forall_mem_singleton.mpr (h.irrefl b)
  · rename_i hbeats
    exact ⟨List.mem_append_left _ ha.mem,
      List.forall_mem_append.mpr ⟨ha.unbeaten, List.forall_mem_singleton.mpr hbeats⟩⟩

/-- Among cells, what beats a cell beats all those that do not beat it. -/
def Level (beats : Cell → Cell → Bool) (cells : List Cell) : Prop :=
  ∀ a ∈ cells, ∀ b ∈ cells, ∀ c ∈ cells, ¬ beats b a = true → ¬ beats c b = true →
    ¬ beats c a = true

/-- **Cells of two groups.** -/
theorem Unbeaten.keep (h : Strict beats) (hlevel : Level beats (cells ++ others))
    (ha : Unbeaten beats cells a) (hb : Unbeaten beats others b) :
    Unbeaten beats (cells ++ others) (keep beats a b) := by
  unfold Cell.keep
  split
  · rename_i hbeats
    refine ⟨List.mem_append_right _ hb.mem,
      List.forall_mem_append.mpr ⟨fun other hother hbeaten => ?_, hb.unbeaten⟩⟩
    exact ha.unbeaten other hother (h.trans hbeaten hbeats)
  · rename_i hbeats
    refine ⟨List.mem_append_left _ ha.mem,
      List.forall_mem_append.mpr ⟨ha.unbeaten, fun other hother => ?_⟩⟩
    exact hlevel a (List.mem_append_left _ ha.mem) b (List.mem_append_right _ hb.mem) other
      (List.mem_append_right _ hother) hbeats (hb.unbeaten other hother)

/-- Unmixed numbers that are not below each other are of one value. -/
theorem level_less (hmix : Unmixed cells) (hnumbers : ∀ cell ∈ cells, cell.isOrdered = true) :
    Level less cells := by
  intro a ha b hb c hc hba hcb hca
  have hab := atMost_of_not_less (hnumbers a ha) (hnumbers b hb) hba
  have hbc := atMost_of_not_less (hnumbers b hb) (hnumbers c hc) hcb
  obtain ⟨o, ho, hne⟩ := hab.trans hmix ha hb hc hbc
  exact hne (Option.some.inj (ho.symm.trans (compare?_eq_gt_iff.mpr hca)))

theorem level_above (hmix : Unmixed cells) (hnumbers : ∀ cell ∈ cells, cell.isOrdered = true) :
    Level above cells :=
  fun a ha b hb c hc hba hcb => level_less hmix hnumbers c hc b hb a ha hcb hba

/-- Two numbers of which none is below the other are the same. -/
theorem sameAs_of_not_less (ha : a.isOrdered = true) (hb : b.isOrdered = true)
    (hab : ¬ a.less b = true) (hba : ¬ b.less a = true) : a.sameAs b = true := by
  obtain ⟨o, ho, hgt⟩ := atMost_of_not_less ha hb hba
  cases o with
  | lt => exact absurd (less_iff.mpr ho) hab
  | eq => exact sameAs_iff_compare?_eq.mpr ho
  | gt => exact absurd rfl hgt

end Cell

/-! ## Merged specs -/

namespace NumericSpec

variable {a b : NumericSpec} {specs others : List NumericSpec}

/-- All fields are numbers other than NaN. -/
structure Numeric (spec : NumericSpec) : Prop where
  min : spec.min.isOrdered = true
  max : spec.max.isOrdered = true
  increment : spec.increment.isOrdered = true

/-- Two specs have the same fields. -/
structure Matches (a b : NumericSpec) : Prop where
  min : a.min.sameAs b.min = true
  max : a.max.sameAs b.max = true
  increment : a.increment.sameAs b.increment = true

/-- **A spec covers specs**: its minimum is a minimum of theirs with none below it, its maximum one
    with none above it, and its increment one with none below it. -/
structure Covers (spec : NumericSpec) (specs : List NumericSpec) : Prop where
  min : Unbeaten less (specs.map (·.min)) spec.min
  max : Unbeaten above (specs.map (·.max)) spec.max
  increment : Unbeaten less (specs.map (·.increment)) spec.increment

/-- No field blurs integers over some specs. -/
structure FieldsUnmixed (specs : List NumericSpec) : Prop where
  min : Unmixed (specs.map (·.min))
  max : Unmixed (specs.map (·.max))
  increment : Unmixed (specs.map (·.increment))

theorem FieldsUnmixed.of_subset (h : FieldsUnmixed specs) (hsub : ∀ spec ∈ others, spec ∈ specs) :
    FieldsUnmixed others :=
  have hfield : ∀ field : NumericSpec → Cell, ∀ cell ∈ others.map field, cell ∈ specs.map field :=
    fun field _ hcell => List.map_subset field hsub hcell
  ⟨h.min.of_subset (hfield _), h.max.of_subset (hfield _), h.increment.of_subset (hfield _)⟩

theorem merge_self (spec : NumericSpec) : spec.merge spec = spec := by
  simp [merge, less_irrefl]

theorem covers_singleton (spec : NumericSpec) : spec.Covers [spec] :=
  ⟨unbeaten_singleton strict_less _, unbeaten_singleton strict_above _,
    unbeaten_singleton strict_less _⟩

/-- One more spec is merged. -/
theorem Covers.next (h : a.Covers specs) (b : NumericSpec) : (a.merge b).Covers (specs ++ [b]) := by
  refine ⟨?_, ?_, ?_⟩ <;> rw [List.map_append]
  · exact h.min.next strict_less b.min
  · exact h.max.next strict_above b.max
  · exact h.increment.next strict_less b.increment

/-- **Specs merged one after the other.** -/
theorem Covers.foldl (rest : List NumericSpec) : ∀ {held : NumericSpec} {specs : List NumericSpec},
    held.Covers specs → (rest.foldl merge held).Covers (specs ++ rest) := by
  induction rest with
  | nil =>
    intro held specs h
    rwa [List.append_nil]
  | cons next rest ih =>
    intro held specs h
    have hrest := ih (h.next next)
    rwa [List.append_assoc] at hrest

/-- **Merged specs are merged.** -/
theorem Covers.merge (hnumbers : ∀ spec ∈ specs ++ others, spec.Numeric)
    (hmix : FieldsUnmixed (specs ++ others)) (ha : a.Covers specs) (hb : b.Covers others) :
    (a.merge b).Covers (specs ++ others) := by
  have hfield : ∀ (field : NumericSpec → Cell), (∀ spec, spec.Numeric → (field spec).isOrdered) →
      ∀ cell ∈ specs.map field ++ others.map field, cell.isOrdered = true := by
    intro field hordered cell hcell
    rw [← List.map_append] at hcell
    obtain ⟨spec, hspec, rfl⟩ := List.mem_map.mp hcell
    exact hordered spec (hnumbers spec hspec)
  obtain ⟨hmin, hmax, hincrement⟩ := hmix
  rw [List.map_append] at hmin hmax hincrement
  refine ⟨?_, ?_, ?_⟩ <;> rw [List.map_append]
  · exact ha.min.keep strict_less (level_less hmin (hfield _ fun _ h => h.min)) hb.min
  · exact ha.max.keep strict_above (level_above hmax (hfield _ fun _ h => h.max)) hb.max
  · exact ha.increment.keep strict_less
      (level_less hincrement (hfield _ fun _ h => h.increment)) hb.increment

/-- What covers specs has their fields. -/
theorem Covers.exists_fields (h : a.Covers specs) :
    (∃ spec ∈ specs, spec.min = a.min) ∧ (∃ spec ∈ specs, spec.max = a.max) ∧
      ∃ spec ∈ specs, spec.increment = a.increment :=
  ⟨List.mem_map.mp h.min.mem, List.mem_map.mp h.max.mem, List.mem_map.mp h.increment.mem⟩

theorem Covers.numeric (h : a.Covers specs) (hnumbers : ∀ spec ∈ specs, spec.Numeric) :
    a.Numeric := by
  obtain ⟨⟨s, hs, hmin⟩, ⟨t, ht, hmax⟩, u, hu, hincrement⟩ := h.exists_fields
  exact ⟨hmin ▸ (hnumbers s hs).min, hmax ▸ (hnumbers t ht).max,
    hincrement ▸ (hnumbers u hu).increment⟩

/-- What covers numeric specs bounds each of them. -/
theorem Covers.bounds (h : a.Covers specs) (hnumbers : ∀ spec ∈ specs, spec.Numeric) :
    ∀ spec ∈ specs, a.min.AtMost spec.min ∧ spec.max.AtMost a.max ∧
      a.increment.AtMost spec.increment := by
  intro spec hspec
  have hnumeric := h.numeric hnumbers
  have hother := hnumbers spec hspec
  refine ⟨?_, ?_, ?_⟩
  · exact atMost_of_not_less hnumeric.min hother.min
      (h.min.unbeaten _ (List.mem_map.mpr ⟨spec, hspec, rfl⟩))
  · exact atMost_of_not_less hother.max hnumeric.max
      (h.max.unbeaten _ (List.mem_map.mpr ⟨spec, hspec, rfl⟩))
  · exact atMost_of_not_less hnumeric.increment hother.increment
      (h.increment.unbeaten _ (List.mem_map.mpr ⟨spec, hspec, rfl⟩))

/-- **Two ways of merging the same specs match.** -/
theorem Covers.matches (ha : a.Covers specs) (hb : b.Covers others)
    (hmem : ∀ spec, spec ∈ specs ↔ spec ∈ others) (hnumbers : ∀ spec ∈ specs, spec.Numeric) :
    a.Matches b := by
  have hna := ha.numeric hnumbers
  have hnb := hb.numeric fun spec hspec => hnumbers spec ((hmem spec).mpr hspec)
  have hfield : ∀ (field : NumericSpec → Cell) (cell : Cell),
      cell ∈ specs.map field ↔ cell ∈ others.map field := by
    intro field cell
    rw [List.mem_map, List.mem_map]
    exact exists_congr fun spec => and_congr_left fun _ => hmem spec
  refine ⟨?_, ?_, ?_⟩
  · exact sameAs_of_not_less hna.min hnb.min
      (hb.min.unbeaten _ ((hfield _ _).mp ha.min.mem))
      (ha.min.unbeaten _ ((hfield _ _).mpr hb.min.mem))
  · exact sameAs_of_not_less hna.max hnb.max
      (ha.max.unbeaten _ ((hfield _ _).mpr hb.max.mem))
      (hb.max.unbeaten _ ((hfield _ _).mp ha.max.mem))
  · exact sameAs_of_not_less hna.increment hnb.increment
      (hb.increment.unbeaten _ ((hfield _ _).mp ha.increment.mem))
      (ha.increment.unbeaten _ ((hfield _ _).mpr hb.increment.mem))

/-- All fields are integers. -/
def Whole (spec : NumericSpec) : Prop :=
  ∃ min max increment : Int64, spec = ⟨.integer min, .integer max, .integer increment⟩

theorem Whole.numeric {spec : NumericSpec} (h : spec.Whole) : spec.Numeric := by
  obtain ⟨_, _, _, rfl⟩ := h
  exact ⟨rfl, rfl, rfl⟩

theorem fieldsUnmixed_of_whole (h : ∀ spec ∈ specs, spec.Whole) : FieldsUnmixed specs := by
  have hfield : ∀ field : NumericSpec → Cell,
      (∀ spec, spec.Whole → ∀ x, field spec ≠ .float x) → Unmixed (specs.map field) := by
    intro field hwhole x _ _ hx
    obtain ⟨spec, hspec, heq⟩ := List.mem_map.mp hx
    exact absurd heq (hwhole spec (h spec hspec) x)
  refine ⟨hfield _ ?_, hfield _ ?_, hfield _ ?_⟩ <;>
    · rintro _ ⟨_, _, _, rfl⟩ x heq
      cases heq

/-- Specs of integers that match are one. -/
theorem Matches.eq_of_whole (h : a.Matches b) (ha : a.Whole) (hb : b.Whole) : a = b := by
  obtain ⟨_, _, _, rfl⟩ := ha
  obtain ⟨_, _, _, rfl⟩ := hb
  rw [integer_inj_of_sameAs h.min, integer_inj_of_sameAs h.max, integer_inj_of_sameAs h.increment]

/-- What covers specs of integers is one. -/
theorem Covers.whole (h : a.Covers specs) (hwhole : ∀ spec ∈ specs, spec.Whole) : a.Whole := by
  obtain ⟨⟨s, hs, hmin⟩, ⟨t, ht, hmax⟩, u, hu, hincrement⟩ := h.exists_fields
  obtain ⟨min, _, _, rfl⟩ := hwhole s hs
  obtain ⟨_, max, _, rfl⟩ := hwhole t ht
  obtain ⟨_, _, increment, rfl⟩ := hwhole u hu
  refine ⟨min, max, increment, ?_⟩
  cases a
  dsimp only at hmin hmax hincrement
  rw [hmin, hmax, hincrement]

/-! ## Groupings -/

/-- Specs put together two by two. -/
inductive Grouping where
  | single (spec : NumericSpec)
  | both (left right : Grouping)

namespace Grouping

/-- The specs of a grouping, from left to right. -/
def members : Grouping → List NumericSpec
  | single spec => [spec]
  | both left right => left.members ++ right.members

/-- The spec that merging along a grouping gives. -/
def merged : Grouping → NumericSpec
  | single spec => spec
  | both left right => left.merged.merge right.merged

/-- Merging from the left is one grouping. -/
theorem exists_foldl (rest : List NumericSpec) : ∀ grouping : Grouping,
    ∃ whole : Grouping, whole.members = grouping.members ++ rest ∧
      whole.merged = rest.foldl NumericSpec.merge grouping.merged := by
  induction rest with
  | nil => exact fun grouping => ⟨grouping, (List.append_nil _).symm, rfl⟩
  | cons next rest ih =>
    intro grouping
    obtain ⟨whole, hmembers, hmerged⟩ := ih (both grouping (single next))
    refine ⟨whole, ?_, hmerged⟩
    rw [hmembers, members, members, List.append_assoc]
    rfl

end Grouping

/-- **Specs merged in any grouping.** -/
theorem covers_merged (grouping : Grouping) (hnumbers : ∀ spec ∈ grouping.members, spec.Numeric)
    (hmix : FieldsUnmixed grouping.members) : grouping.merged.Covers grouping.members := by
  induction grouping with
  | single spec => exact covers_singleton spec
  | both left right ihleft ihright =>
    obtain ⟨hnumbersleft, hnumbersright⟩ := List.forall_mem_append.mp hnumbers
    have hleft : FieldsUnmixed left.members := hmix.of_subset fun _ => List.mem_append_left _
    have hright : FieldsUnmixed right.members := hmix.of_subset fun _ => List.mem_append_right _
    exact (ihleft hnumbersleft hleft).merge hnumbers hmix (ihright hnumbersright hright)

end NumericSpec

end Winnow
