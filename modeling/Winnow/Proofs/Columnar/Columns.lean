import Winnow.Columnar.Rows

/-!
# `Winnow.Proofs.Columnar.Columns` — the cells of a column

A column is converted to cells entry by entry. So a part of a column is converted to the same part
of its cells, there are as many cells as entries, and every cell is of the type under which the
column is served. All of this passes through the fields of record columns.

## Contents
- **`Data.induction`**: induction over the fields of records.
- **`window`**, **`cells_slice`**: a part of a column.
- **`Data.Even`**, **`length_cells`**: columns whose fields are equally long.
- **`accepts_of_mem_cells`**: cells and the type of their column.
-/

namespace Winnow.Columnar

/-- To show something of every column, a column of records may rely on it for its fields. -/
@[elab_as_elim]
theorem Data.induction {motive : Data → Prop}
    (records : ∀ fields, (∀ field ∈ fields, motive field.2) → motive (.records fields))
    (flat : ∀ data, (∀ fields, data ≠ .records fields) → motive data) (data : Data) :
    motive data :=
  @Data.rec motive (fun fields => ∀ field ∈ fields, motive field.2) (fun field => motive field.2)
    (fun _ => flat _ nofun) (fun _ _ => flat _ nofun) (fun _ => flat _ nofun)
    (fun _ => flat _ nofun) (fun _ => flat _ nofun) (fun _ => flat _ nofun)
    (fun _ _ _ => flat _ nofun) (fun _ _ => flat _ nofun) (fun _ _ => flat _ nofun)
    (fun _ _ _ => flat _ nofun) (fun _ => flat _ nofun) (fun _ => flat _ nofun)
    records (fun _ => flat _ nofun) (fun _ => flat _ nofun)
    (fun _ h => absurd h List.not_mem_nil)
    (fun _ _ first rest => List.forall_mem_cons.mpr ⟨first, rest⟩)
    (fun _ _ field => field)
    data

/-! ## Parts of columns -/

/-- The elements from `first` on, at most `count` of them. -/
def window {α : Type} (first count : Nat) (xs : List α) : List α := (xs.drop first).take count

theorem map_window {α β : Type} (f : α → β) (first count : Nat) (xs : List α) :
    window first count (xs.map f) = (window first count xs).map f := by
  simp [window, List.map_take, List.map_drop]

theorem window_zipWith {α β γ : Type} (f : α → β → γ) (first count : Nat) (xs : List α)
    (ys : List β) :
    window first count (List.zipWith f xs ys) =
      List.zipWith f (window first count xs) (window first count ys) := by
  simp [window, List.take_zipWith, List.drop_zipWith]

theorem getElem?_window {α : Type} {first count i : Nat} (xs : List α) (h : i < count) :
    (window first count xs)[i]? = xs[first + i]? := by
  rw [window, List.getElem?_take_of_lt h, List.getElem?_drop]

namespace Data

theorem fieldDisplays_slice {first count : Nat} {fields : List (String × Data)}
    (h : ∀ field ∈ fields,
      (field.2.slice first count).displays = window first count field.2.displays) :
    ∀ separator, fieldDisplays separator (sliceFields first count fields) =
      window first count (fieldDisplays separator fields) := by
  induction fields with
  | nil =>
    intro separator
    simp [sliceFields, fieldDisplays, window]
  | cons field rest ih =>
    obtain ⟨name, data⟩ := field
    obtain ⟨hfirst, hrest⟩ := List.forall_mem_cons.mp h
    intro separator
    cases rest with
    | nil => simp [sliceFields, fieldDisplays, hfirst, map_window]
    | cons next others =>
      -- the fields behind the first one are read behind a comma
      obtain ⟨nextName, nextData⟩ := next
      have hothers := ih hrest ", "
      simp only [sliceFields] at hothers
      simp only [sliceFields, fieldDisplays]
      rw [hothers, hfirst, ← map_window, ← window_zipWith]

theorem displays_slice (first count : Nat) (data : Data) :
    (data.slice first count).displays = window first count data.displays := by
  induction data using Data.induction with
  | records fields ih =>
    rw [slice, displays, displays, fieldDisplays_slice ih, map_window]
  | flat data hflat =>
    cases data with
    | records fields => exact absurd rfl (hflat fields)
    | nulls total =>
      simp [slice, displays, window]
    | _ => simp [slice, displays, each, window, List.map_take, List.map_drop]

theorem fieldZonesKnown_slice {first count : Nat} {fields : List (String × Data)}
    (h : ∀ field ∈ fields, (field.2.slice first count).zonesKnown = field.2.zonesKnown) :
    fieldZonesKnown (sliceFields first count fields) = fieldZonesKnown fields := by
  induction fields with
  | nil => rfl
  | cons field rest ih =>
    obtain ⟨hfirst, hrest⟩ := List.forall_mem_cons.mp h
    rw [sliceFields, fieldZonesKnown, fieldZonesKnown, hfirst, ih hrest]

/-- The time zones are those of the type, whatever the part. -/
theorem zonesKnown_slice (first count : Nat) (data : Data) :
    (data.slice first count).zonesKnown = data.zonesKnown := by
  induction data using Data.induction with
  | records fields ih =>
    rw [slice, zonesKnown, zonesKnown, fieldZonesKnown_slice ih]
  | flat data hflat =>
    cases data with
    | records fields => exact absurd rfl (hflat fields)
    | timestamps unit zone entries => cases zone <;> rfl
    | _ => rfl

theorem cellsBy_window {α : Type} (cell : α → Cell) (first count : Nat)
    (entries : List (Option α)) :
    cellsBy cell (window first count entries) = window first count (cellsBy cell entries) :=
  (map_window _ first count entries).symm

/-- **A part of a column has the same part of its cells.** -/
theorem cells_slice (first count : Nat) (data : Data) :
    (data.slice first count).cells = data.cells.map (window first count) := by
  have hserved : (if (data.slice first count).zonesKnown then
        (.ok (cellsBy (fun d => .string d.served) (data.slice first count).displays) :
          Except Error (List Cell))
      else .error .noDisplay) =
      (if data.zonesKnown then
        (.ok (cellsBy (fun d => .string d.served) data.displays) : Except Error (List Cell))
      else .error .noDisplay).map (window first count) := by
    rw [zonesKnown_slice, displays_slice, cellsBy_window]
    by_cases hzones : data.zonesKnown = true
    · simp [hzones, Except.map]
    · simp [hzones, Except.map]
  cases data with
  | integers entries => exact congrArg Except.ok (cellsBy_window _ _ _ _)
  | booleans entries => exact congrArg Except.ok (cellsBy_window _ _ _ _)
  | texts entries => exact congrArg Except.ok (cellsBy_window _ _ _ _)
  | floats width entries =>
    cases width with
    | half => exact hserved
    | single => exact congrArg Except.ok (cellsBy_window _ _ _ _)
    | double => exact congrArg Except.ok (cellsBy_window _ _ _ _)
  | _ => exact hserved

/-! ## Columns of equal length -/

/-- A column has a number of entries, and so have the fields of a column of records. -/
inductive Even (count : Nat) : Data → Prop where
  | column {data : Data} (length_eq : data.length = count)
      (fields : ∀ fields, data = .records fields → ∀ field ∈ fields, Even count field.2) :
      Even count data

theorem length_fieldDisplays {count : Nat} {fields : List (String × Data)}
    (h : ∀ field ∈ fields, field.2.displays.length = count) :
    ∀ separator, fields ≠ [] → (fieldDisplays separator fields).length = count := by
  induction fields with
  | nil =>
    intro separator hne
    exact absurd rfl hne
  | cons field rest ih =>
    obtain ⟨name, data⟩ := field
    obtain ⟨hfirst, hrest⟩ := List.forall_mem_cons.mp h
    intro separator _
    cases rest with
    | nil => simp [fieldDisplays, hfirst]
    | cons next others =>
      have hothers := ih hrest ", " (List.cons_ne_nil next others)
      rw [fieldDisplays, List.length_zipWith, List.length_map, hfirst, hothers]
      exact Nat.min_self count

theorem length_displays {count : Nat} {data : Data} (h : Even count data) :
    data.displays.length = count := by
  induction data using Data.induction with
  | records fields ih =>
    cases h with
    | column length_eq each =>
      rw [displays, List.length_map]
      by_cases hempty : fields = []
      · -- records without fields are no entries
        rw [hempty] at length_eq ⊢
        exact length_eq
      · exact length_fieldDisplays (fun field hfield => ih field hfield (each _ rfl field hfield))
          "" hempty
  | flat data hflat =>
    cases h with
    | column length_eq each =>
      rw [← length_eq]
      cases data with
      | records fields => exact absurd rfl (hflat fields)
      | _ => simp [displays, length, Data.each]

/-- There is a cell for every entry. -/
theorem length_cells {count : Nat} {data : Data} {cells : List Cell} (h : Even count data)
    (hcells : data.cells = .ok cells) : cells.length = count := by
  have hdisplays := length_displays h
  unfold Data.cells at hcells
  split at hcells
  any_goals
    cases hcells
    rw [← hdisplays]
    simp [cellsBy, displays, each]
  split at hcells
  · cases hcells
    rw [← hdisplays]
    simp [cellsBy]
  · cases hcells

/-! ## Types of cells -/

theorem accepts_cellsBy {α : Type} {type : ColumnType} {cell : α → Cell}
    (h : ∀ entry, type.accepts (cell entry) = true) (entries : List (Option α)) :
    ∀ held ∈ cellsBy cell entries, type.accepts held = true := by
  intro held hheld
  obtain ⟨entry, _, hentry⟩ := List.mem_map.mp hheld
  rw [← hentry]
  cases entry with
  | none => cases type <;> rfl
  | some value => exact h value

/-- **Every cell is of the type under which its column is served.** -/
theorem accepts_of_mem_cells {data : Data} {cells : List Cell} (h : data.cells = .ok cells) :
    ∀ cell ∈ cells, data.columnType.accepts cell = true := by
  unfold Data.cells at h
  split at h
  · cases h
    exact accepts_cellsBy (fun i => by unfold integerCell; split <;> rfl) _
  · cases h
    exact accepts_cellsBy (fun x => rfl) _
  · cases h
    exact accepts_cellsBy (fun x => rfl) _
  · cases h
    exact accepts_cellsBy (fun b => rfl) _
  · cases h
    exact accepts_cellsBy (fun s => rfl) _
  · -- what has no cells of its own is served as text, under a type that takes texts
    rename_i hintegers hsingle hdouble hbooleans htexts
    split at h
    · cases h
      refine accepts_cellsBy (fun d => ?_) _
      cases data with
      | integers entries => exact absurd rfl (hintegers entries)
      | booleans entries => exact absurd rfl (hbooleans entries)
      | floats width entries =>
        cases width with
        | half => rfl
        | single => exact absurd rfl (hsingle entries)
        | double => exact absurd rfl (hdouble entries)
      | _ => rfl
    · cases h

end Data

end Winnow.Columnar
