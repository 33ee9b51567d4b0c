import Winnow.Proofs.Spec.Nodes
import Winnow.Spec.Writer

/-!
# `Winnow.Proofs.Spec.Grammar` — the language of filter specifications

Which trees are specifications, said without the reader: a grammar over nodes and their fields, and
beside it what each of its trees stands for. The reader accepts the trees of the grammar, reads each
as what it stands for, and gets every specification back from its written form.

## Contents
- **`IsReference`**, **`IsListed`**, **`Grammar`**: the trees that are specifications.
- **`Mirrors`**: what a tree stands for.
- **`ofJson_eq_ok_iff`**, **`exists_mirrors_iff`**: the reader against both.
- **`Mirrors.toJson`**: written forms stand for what was written.
- **`ofJson_grammar`**: the language, its meaning, and the round trip.
-/

namespace Winnow

namespace Spec

/-! ## The grammar -/

/-- A column is referred to by a string, or by a whole number of a signed or unsigned word. A number
    written as a fraction refers to none. -/
inductive IsReference : Json → Prop where
  | name (value : String) : IsReference (.string value)
  | integer (i : Int) (inRange : -0x8000000000000000 ≤ i ∧ i < 0x10000000000000000) :
      IsReference (.number (.whole i inRange))

/-- Strings and numbers may be listed. -/
inductive IsListed : Json → Prop where
  | string (value : String) : IsListed (.string value)
  | number (value : Json.Number) : IsListed (.number value)

/-- **The trees that are specifications.** A node names one of the operators and has its fields, and
    may have others; the arguments of a combinator are specifications again. -/
inductive Grammar : Json → Prop where
  | combine {fields : List (String × Json)} {combinator : Combinator} {items : List Json}
      (operator : Json.lookup? "operator" fields = some (.string combinator.operator.token))
      (argumentsField : Json.lookup? "arguments" fields = some (.array items))
      (each : ∀ item ∈ items, Grammar item) : Grammar (.object fields)
  | inList {fields : List (String × Json)} {column : Json} {items : List Json}
      (operator : Json.lookup? "operator" fields = some (.string "IN_LIST"))
      (columnField : Json.lookup? "column" fields = some column)
      (valuesField : Json.lookup? "values" fields = some (.array items))
      (reference : IsReference column) (each : ∀ item ∈ items, IsListed item) :
      Grammar (.object fields)
  | inRange {fields : List (String × Json)} {column : Json} {low high : Json.Number}
      (operator : Json.lookup? "operator" fields = some (.string "IN_RANGE"))
      (columnField : Json.lookup? "column" fields = some column)
      (minField : Json.lookup? "min_val" fields = some (.number low))
      (maxField : Json.lookup? "max_val" fields = some (.number high))
      (reference : IsReference column) : Grammar (.object fields)

/-- **What a tree stands for.** A combinator stands for itself over what its arguments stand for,
    each in its place; a leaf for the form of its fields. -/
inductive Mirrors : Json → Spec → Prop where
  | combine {fields : List (String × Json)} {combinator : Combinator} {items : List Json}
      {arguments : List Spec}
      (operator : Json.lookup? "operator" fields = some (.string combinator.operator.token))
      (argumentsField : Json.lookup? "arguments" fields = some (.array items))
      (each : List.Forall₂ Mirrors items arguments) :
      Mirrors (.object fields) (.combine combinator arguments)
  | leaf {fields : List (String × Json)} {spec : Spec} (form : LeafForm fields spec) :
      Mirrors (.object fields) spec

theorem Mirrors.exists_fields {tree : Json} {spec : Spec} (h : Mirrors tree spec) :
    ∃ fields, tree = .object fields := by
  cases h with
  | combine operator argumentsField each => exact ⟨_, rfl⟩
  | leaf form => exact ⟨_, rfl⟩

/-! ## The reader -/

/-- The reader gives what a tree stands for, and fails on trees that stand for nothing. -/
theorem ofJson_eq_ok_iff {tree : Json} {spec : Spec} :
    ofJson tree = .ok spec ↔ Mirrors tree spec := by
  induction tree using nodeInduction generalizing spec with
  | other tree h =>
    rw [ofJson_other h]
    constructor
    · rintro ⟨⟩
    · intro hmirrors
      obtain ⟨fields, hfields⟩ := hmirrors.exists_fields
      exact absurd hfields (h fields)
  | node fields ih =>
    rw [ofJson_object, bind_eq_ok_iff]
    constructor
    · rintro ⟨head, hhead, h⟩
      cases checkNode_eq_ok_iff.mp hhead with
      | @combinator combinator items operator argumentsField =>
        obtain ⟨arguments, hread, h⟩ := bind_eq_ok_iff.mp h
        obtain rfl : combine combinator arguments = spec := Except.ok.inj h
        rw [ofArguments_of_lookup argumentsField, mapM_eq_ok_iff] at hread
        -- each argument is read as the induction hypothesis for it says
        have hboth := (List.forall₂_and_left _ _).mpr ⟨ih items argumentsField, hread⟩
        exact .combine operator argumentsField (hboth.imp fun _ _ h => h.1.mp h.2)
      | leaf form =>
        obtain rfl := Except.ok.inj h
        exact .leaf form
    · intro h
      cases h with
      | @combine _ combinator items arguments operator argumentsField each =>
        have hboth := (List.forall₂_and_left _ _).mpr ⟨ih items argumentsField, each⟩
        have hread : ofArguments fields = .ok arguments := by
          rw [ofArguments_of_lookup argumentsField, mapM_eq_ok_iff]
          exact hboth.imp fun _ _ h => h.1.mpr h.2
        refine ⟨.combinator combinator, ?_, ?_⟩
        · exact checkNode_eq_ok_iff.mpr (.combinator operator argumentsField)
        · rw [hread]
          rfl
      | leaf form => exact ⟨.leaf spec, checkNode_eq_ok_iff.mpr (.leaf form), rfl⟩

/-! ## The trees that stand for something -/

theorem isReference_iff {column : Json} : IsReference column ↔ ∃ ref, RefForm column ref := by
  constructor
  · intro h
    cases h with
    | name value => exact ⟨_, .name value⟩
    | integer i inRange => exact ⟨_, .integer i inRange⟩
  · rintro ⟨ref, h⟩
    cases h with
    | name value => exact .name value
    | integer i inRange => exact .integer i inRange

theorem isListed_iff {item : Json} : IsListed item ↔ ∃ value, ValueForm item value := by
  constructor
  · intro h
    cases h with
    | string value => exact ⟨_, .string value⟩
    | number number => exact ⟨_, .number (numberForm_iff.mpr rfl)⟩
  · rintro ⟨cell, h⟩
    cases h with
    | string value => exact .string value
    | number form => exact .number _

theorem LeafForm.grammar {fields : List (String × Json)} {spec : Spec}
    (h : LeafForm fields spec) : Grammar (.object fields) := by
  cases h with
  | inList operator columnField valuesField column_form values_form =>
    have hlisted := exists_forall₂_iff.mp ⟨_, values_form⟩
    have hreference := isReference_iff.mpr ⟨_, column_form⟩
    exact .inList operator columnField valuesField hreference
      fun item hitem => isListed_iff.mpr (hlisted item hitem)
  | inRange operator columnField minField maxField column_form min_form max_form =>
    have hreference := isReference_iff.mpr ⟨_, column_form⟩
    exact .inRange operator columnField minField maxField hreference

/-- Only trees of the grammar stand for something. -/
theorem Mirrors.grammar {tree : Json} {spec : Spec} (h : Mirrors tree spec) : Grammar tree := by
  induction tree using nodeInduction generalizing spec with
  | other tree hother =>
    obtain ⟨fields, hfields⟩ := h.exists_fields
    exact absurd hfields (hother fields)
  | node fields ih =>
    cases h with
    | leaf form => exact form.grammar
    | @combine _ _ items arguments operator argumentsField each =>
      refine .combine operator argumentsField fun item hitem => ?_
      obtain ⟨argument, hargument⟩ := exists_forall₂_iff.mp ⟨arguments, each⟩ item hitem
      exact ih items argumentsField item hitem hargument

/-- Every tree of the grammar stands for something. -/
theorem Grammar.exists_mirrors {tree : Json} (h : Grammar tree) : ∃ spec, Mirrors tree spec := by
  induction h with
  | combine operator argumentsField _ ih =>
    -- every item stands for some argument, so the items stand for a list of them
    obtain ⟨arguments, hall⟩ := exists_forall₂_iff.mpr ih
    exact ⟨_, .combine operator argumentsField hall⟩
  | inList operator columnField valuesField reference each =>
    obtain ⟨ref, href⟩ := isReference_iff.mp reference
    obtain ⟨values, hvalues⟩ :=
      exists_forall₂_iff.mpr fun item hitem => isListed_iff.mp (each item hitem)
    exact ⟨_, .leaf (.inList operator columnField valuesField href hvalues)⟩
  | inRange operator columnField minField maxField reference =>
    obtain ⟨ref, href⟩ := isReference_iff.mp reference
    exact ⟨_, .leaf (.inRange operator columnField minField maxField href
      (numberForm_iff.mpr rfl) (numberForm_iff.mpr rfl))⟩

theorem exists_mirrors_iff {tree : Json} : (∃ spec, Mirrors tree spec) ↔ Grammar tree := by
  constructor
  · rintro ⟨spec, h⟩
    exact h.grammar
  · intro h
    exact h.exists_mirrors

/-! ## The round trip -/

theorem RefForm.toJson {ref : ColumnRef} (h : ref.isWritable = true) : RefForm ref.toJson ref := by
  cases ref with
  | name value => exact .name value
  | integer i =>
    have hfits : -0x8000000000000000 ≤ i ∧ i < 0x10000000000000000 := by
      simpa [ColumnRef.isWritable] using h
    rw [ColumnRef.toJson, Json.ofInt?, dif_pos hfits, Option.getD_some]
    exact .integer i hfits

/-- A number with a written form is what that form is read as: an integer stays one, and so does a
    double with a whole value. -/
theorem NumberForm.toJson {cell : Cell} (h : cell.isFinite = true) :
    ∃ number, cell.toJson = .number number ∧ NumberForm number cell := by
  cases cell with
  | integer i => exact ⟨_, rfl, .integer i _⟩
  | float x =>
    have hfinite : x.isFinite = true := h
    refine ⟨.real x hfinite, ?_, .real x hfinite⟩
    rw [Cell.toJson, Json.ofDouble, dif_pos hfinite]
  | null | boolean _ | string _ => cases h

theorem ValueForm.toJson {cell : Cell} (h : cell.isListed = true) : ValueForm cell.toJson cell := by
  cases cell with
  | string value => exact .string value
  | integer i =>
    have hfinite : (Cell.integer i).isFinite = true := h
    obtain ⟨number, hnumber, hform⟩ := NumberForm.toJson hfinite
    rw [hnumber]
    exact .number hform
  | float x =>
    have hfinite : (Cell.float x).isFinite = true := h
    obtain ⟨number, hnumber, hform⟩ := NumberForm.toJson hfinite
    rw [hnumber]
    exact .number hform
  | null | boolean _ => cases h

theorem toJsonAll_eq_map (specs : List Spec) : toJsonAll specs = specs.map toJson := by
  induction specs with
  | nil => rfl
  | cons first rest ih => rw [toJsonAll, ih, List.map_cons]

/-- The written form of a specification stands for it. -/
theorem Mirrors.toJson {spec : Spec} (h : spec.Writable) : Mirrors spec.toJson spec := by
  induction spec with
  | combine combinator arguments ih =>
    cases h with
    | combine each =>
      have hmirrors : List.Forall₂ Mirrors (arguments.map Spec.toJson) arguments := by
        rw [List.forall₂_map_left_iff, List.forall₂_same]
        intro argument hargument
        exact ih argument hargument (each argument hargument)
      rw [Spec.toJson, toJsonAll_eq_map]
      refine .combine ?_ rfl hmirrors
      simp [Json.lookup?]
  | inList ref values =>
    cases h with
    | inList column each =>
      have hforms : List.Forall₂ ValueForm (values.map Cell.toJson) values := by
        rw [List.forall₂_map_left_iff, List.forall₂_same]
        intro value hvalue
        exact ValueForm.toJson (each value hvalue)
      rw [Spec.toJson]
      refine .leaf (.inList ?_ rfl ?_ (RefForm.toJson column) hforms)
      · simp [Json.lookup?, Operator.token]
      · simp [Json.lookup?]
  | inRange ref min max =>
    cases h with
    | inRange column low high =>
      obtain ⟨lowNumber, hlow, hlowForm⟩ := NumberForm.toJson low
      obtain ⟨highNumber, hhigh, hhighForm⟩ := NumberForm.toJson high
      rw [Spec.toJson, hlow, hhigh]
      refine .leaf (.inRange ?_ rfl ?_ ?_ (RefForm.toJson column) hlowForm hhighForm)
      · simp [Json.lookup?, Operator.token]
      · simp [Json.lookup?]
      · simp [Json.lookup?]

/-- **The language of specifications.** A tree is read exactly when it is one of the grammar; what
    it is read as mirrors it, part by part and in order; and a specification whose values, bounds and
    references can be written is read back from its written form. -/
theorem ofJson_grammar :
    (∀ tree, (∃ spec, ofJson tree = .ok spec) ↔ Grammar tree) ∧
    (∀ tree spec, ofJson tree = .ok spec ↔ Mirrors tree spec) ∧
    ∀ spec : Spec, spec.Writable → ofJson spec.toJson = .ok spec := by
  refine ⟨fun tree => ?_, fun tree spec => ofJson_eq_ok_iff, fun spec h => ?_⟩
  · simp only [ofJson_eq_ok_iff]
    exact exists_mirrors_iff
  · exact ofJson_eq_ok_iff.mpr (Mirrors.toJson h)

/-- A reference above the signed words, a double with a whole value and a range with bounds of both
    kinds. -/
def wideNumbers : Spec :=
  .combine .none [
    .inList (.integer 0x8000000000000000) [.string "a", .float (Double.ofInt 3)],
    .inRange (.name "size") (.integer (-2)) (.float (Double.ofInt 7))]

theorem ofJson_toJson_wideNumbers : ofJson wideNumbers.toJson = .ok wideNumbers := by
  have hlist : Writable
      (.inList (.integer 0x8000000000000000) [.string "a", .float (Double.ofInt 3)]) :=
    .inList rfl (by decide +kernel)
  have hrange : Writable (.inRange (.name "size") (.integer (-2)) (.float (Double.ofInt 7))) :=
    .inRange rfl rfl (by decide +kernel)
  apply ofJson_grammar.2.2 wideNumbers
  refine .combine ?_
  rintro argument (_ | ⟨_, _ | ⟨_, ⟨⟩⟩⟩)
  · exact hlist
  · exact hrange

end Spec

end Winnow
