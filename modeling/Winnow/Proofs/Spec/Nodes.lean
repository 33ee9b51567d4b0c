import Winnow.Proofs.Cell.Order
import Winnow.Proofs.Faults
import Winnow.Spec.Reader

/-!
# `Winnow.Proofs.Spec.Nodes` — the nodes of a written specification

A tree is read node by node, where the nodes below a node are the items of its `arguments`. Here is
the induction that follows them, what the reader does at one node, and what the local check of a
node lets through.

## Contents
- **`Json.induction`**, **`Spec.induction`**: induction over trees and over specifications;
  **`nodeInduction`**: over the nodes of a tree.
- **`ofJson_object`**: reading a node.
- **`RefForm`**, **`NumberForm`**, **`ValueForm`**, **`LeafForm`**: the written forms of the parts.
- **`readOperator_eq_ok_iff`** … **`readValues_eq_ok_iff`**: what each part of a node is read as;
  **`requireFields_combinator_iff`**, **`requireFields_inList_iff`**,
  **`requireFields_inRange_iff`**: the fields that must be there.
- **`HeadForm`**, **`checkNode_eq_ok_iff`**: what the local check accepts, and what it finds.
-/

namespace Winnow

/-! ## Induction over trees and specifications -/

/-- To show something of every tree, an array may rely on it for its items and an object for the
    values of its fields. -/
@[elab_as_elim, induction_eliminator]
theorem Json.induction {motive : Json → Prop}
    (null : motive .null) (bool : ∀ value, motive (.bool value))
    (number : ∀ value, motive (.number value)) (string : ∀ value, motive (.string value))
    (array : ∀ items, (∀ item ∈ items, motive item) → motive (.array items))
    (object : ∀ fields, (∀ field ∈ fields, motive field.2) → motive (.object fields))
    (tree : Json) : motive tree :=
  @Json.rec motive (fun items => ∀ item ∈ items, motive item)
    (fun fields => ∀ field ∈ fields, motive field.2) (fun field => motive field.2)
    null bool number string array object
    (fun _ h => absurd h List.not_mem_nil)
    (fun _ _ first rest => List.forall_mem_cons.mpr ⟨first, rest⟩)
    (fun _ h => absurd h List.not_mem_nil)
    (fun _ _ first rest => List.forall_mem_cons.mpr ⟨first, rest⟩)
    (fun _ _ value => value)
    tree

theorem Json.mem_of_lookup? {key : String} {value : Json} {fields : List (String × Json)}
    (h : Json.lookup? key fields = some value) : (key, value) ∈ fields := by
  induction fields with
  | nil => cases h
  | cons field rest ih =>
    obtain ⟨name, held⟩ := field
    rw [Json.lookup?] at h
    split at h
    · rename_i hname
      obtain rfl := Option.some.inj h
      rw [hname]
      exact List.mem_cons_self
    · exact List.mem_cons_of_mem _ (ih h)

/-- To show something of every specification, a combinator may rely on it for each argument. -/
@[elab_as_elim, induction_eliminator]
theorem Spec.induction {motive : Spec → Prop}
    (combine : ∀ combinator arguments, (∀ argument ∈ arguments, motive argument) →
      motive (.combine combinator arguments))
    (inList : ∀ column values, motive (.inList column values))
    (inRange : ∀ column min max, motive (.inRange column min max))
    (spec : Spec) : motive spec :=
  @Spec.rec motive (fun arguments => ∀ argument ∈ arguments, motive argument)
    combine inList inRange
    (fun _ h => absurd h List.not_mem_nil)
    (fun _ _ first rest => List.forall_mem_cons.mpr ⟨first, rest⟩)
    spec

namespace Spec

/-- **Induction over the nodes of a tree**: to show something of a tree, one may rely on it for the
    items of its `arguments`. -/
theorem nodeInduction {motive : Json → Prop}
    (node : ∀ fields, (∀ items, Json.lookup? "arguments" fields = some (.array items) →
      ∀ item ∈ items, motive item) → motive (.object fields))
    (other : ∀ tree, (∀ fields, tree ≠ .object fields) → motive tree) (tree : Json) :
    motive tree := by
  -- an argument lies two levels below its node, so an array carries the claim for its items along
  have hboth : motive tree ∧ ∀ items, tree = .array items → ∀ item ∈ items, motive item := by
    induction tree with
    | object fields ih =>
      constructor
      · apply node
        intro items hitems item hitem
        exact (ih _ (Json.mem_of_lookup? hitems)).2 items rfl item hitem
      · intro items h
        cases h
    | array items ih =>
      constructor
      · apply other
        intro fields h
        cases h
      · intro items' h item hitem
        cases h
        exact (ih item hitem).1
    | null => exact ⟨other _ nofun, nofun⟩
    | bool value => exact ⟨other _ nofun, nofun⟩
    | number value => exact ⟨other _ nofun, nofun⟩
    | string value => exact ⟨other _ nofun, nofun⟩
  exact hboth.1

/-! ## Reading a node -/

/-- Items are read one after the other. -/
theorem ofItems_eq_mapM (items : List Json) : ofItems items = items.mapM ofJson := by
  induction items with
  | nil => rfl
  | cons first rest ih =>
    rw [List.mapM_cons, ← ih]
    rfl

theorem ofArguments_of_lookup {fields : List (String × Json)} {items : List Json}
    (h : Json.lookup? "arguments" fields = some (.array items)) :
    ofArguments fields = items.mapM ofJson := by
  induction fields with
  | nil => cases h
  | cons field rest ih =>
    obtain ⟨name, value⟩ := field
    rw [Json.lookup?] at h
    rw [ofArguments]
    split at h
    · rename_i hname
      obtain rfl := Option.some.inj h
      rw [if_pos hname, ofList, ofItems_eq_mapM]
    · rename_i hname
      rw [if_neg hname]
      exact ih h

/-- A node is checked first; a combinator then reads its arguments. -/
theorem ofJson_object (fields : List (String × Json)) :
    ofJson (.object fields) =
      checkNode fields >>= fun head =>
        match head with
        | .leaf spec => .ok spec
        | .combinator c => ofArguments fields >>= fun arguments => .ok (.combine c arguments) := by
  rw [ofJson]
  rfl

theorem ofJson_other {tree : Json} (h : ∀ fields, tree ≠ .object fields) :
    ofJson tree = .error (.typeMismatch (.specNotObject tree.kind)) := by
  cases tree with
  | object fields => exact absurd rfl (h fields)
  | null => rfl
  | bool value => rfl
  | number value => rfl
  | string value => rfl
  | array items => rfl

/-! ## Written forms -/

/-- The written forms of a reference: a string, or a whole number of a signed or unsigned word. -/
inductive RefForm : Json → ColumnRef → Prop where
  | name (value : String) : RefForm (.string value) (.name value)
  | integer (i : Int) (inRange : -0x8000000000000000 ≤ i ∧ i < 0x10000000000000000) :
      RefForm (.number (.whole i inRange)) (.integer i)

/-- The cell that a number is read as: an integer where the signed word holds it, and a double for
    the whole numbers above and for all that is written as a fraction. -/
inductive NumberForm : Json.Number → Cell → Prop where
  | integer (i : Int64) (inRange : -0x8000000000000000 ≤ i.toInt ∧ i.toInt < 0x10000000000000000) :
      NumberForm (.whole i.toInt inRange) (.integer i)
  | above (i : Int) (inRange : -0x8000000000000000 ≤ i ∧ i < 0x10000000000000000)
      (large : 0x8000000000000000 ≤ i) : NumberForm (.whole i inRange) (.float (Double.ofInt i))
  | real (x : Double) (finite : x.isFinite = true) : NumberForm (.real x finite) (.float x)

/-- The written forms of a listed value: a string or a number. -/
inductive ValueForm : Json → Cell → Prop where
  | string (value : String) : ValueForm (.string value) (.string value)
  | number {number : Json.Number} {cell : Cell} (form : NumberForm number cell) :
      ValueForm (.number number) cell

/-- The fields of a leaf, beside which there may be others. -/
inductive LeafForm (fields : List (String × Json)) : Spec → Prop where
  | inList {column : Json} {ref : ColumnRef} {items : List Json} {values : List Cell}
      (operator : Json.lookup? "operator" fields = some (.string "IN_LIST"))
      (columnField : Json.lookup? "column" fields = some column)
      (valuesField : Json.lookup? "values" fields = some (.array items))
      (column_form : RefForm column ref) (values_form : List.Forall₂ ValueForm items values) :
      LeafForm fields (.inList ref values)
  | inRange {column : Json} {ref : ColumnRef} {low high : Json.Number} {min max : Cell}
      (operator : Json.lookup? "operator" fields = some (.string "IN_RANGE"))
      (columnField : Json.lookup? "column" fields = some column)
      (minField : Json.lookup? "min_val" fields = some (.number low))
      (maxField : Json.lookup? "max_val" fields = some (.number high))
      (column_form : RefForm column ref) (min_form : NumberForm low min)
      (max_form : NumberForm high max) : LeafForm fields (.inRange ref min max)

/-! ## The parts of a node -/

theorem ofToken?_eq_some_iff {s : String} {op : Operator} :
    Operator.ofToken? s = some op ↔ s = op.token := by
  constructor
  · intro h
    unfold Operator.ofToken? at h
    have hfound := List.find?_some h
    exact (of_decide_eq_true hfound).symm
  · rintro rfl
    cases op <;> rfl

theorem readOperator_eq_ok_iff {fields : List (String × Json)} {op : Operator} :
    readOperator fields = .ok op ↔
      Json.lookup? "operator" fields = some (.string op.token) := by
  unfold readOperator
  split
  · rename_i hlookup
    simp [hlookup]
  · rename_i token hlookup
    rw [hlookup, Option.some_inj, Json.string.injEq, ← ofToken?_eq_some_iff]
    cases Operator.ofToken? token <;> simp
  · rename_i other hother hlookup
    rw [hlookup, Option.some_inj]
    constructor
    · intro h
      cases h
    · intro h
      exact absurd h (hother _)

theorem requireFields_eq_ok_iff {op : Operator} {fields : List (String × Json)} :
    requireFields op fields = .ok () ↔
      ∀ name ∈ op.requiredFields, ∃ value, Json.lookup? name fields = some value := by
  have hmissing : (op.requiredFields.filter fun name => (Json.lookup? name fields).isNone) = [] ↔
      ∀ name ∈ op.requiredFields, ∃ value, Json.lookup? name fields = some value := by
    rw [List.filter_eq_nil_iff]
    simp only [Option.isNone_iff_eq_none, ← ne_eq, Option.ne_none_iff_exists']
  rw [← hmissing]
  unfold requireFields
  split
  · rename_i h
    exact iff_of_true rfl h
  · rename_i h
    exact iff_of_false (by rintro ⟨⟩) h

theorem requiredFields_combinator (combinator : Combinator) :
    combinator.operator.requiredFields = ["operator", "arguments"] := by
  cases combinator <;> rfl

section Required

variable {fields : List (String × Json)}

theorem requireFields_combinator_iff {combinator : Combinator} :
    requireFields combinator.operator fields = .ok () ↔
      (∃ operator, Json.lookup? "operator" fields = some operator) ∧
      ∃ arguments, Json.lookup? "arguments" fields = some arguments := by
  rw [requireFields_eq_ok_iff, requiredFields_combinator, List.forall_mem_cons,
    List.forall_mem_singleton]

theorem requireFields_inList_iff :
    requireFields .inList fields = .ok () ↔
      (∃ operator, Json.lookup? "operator" fields = some operator) ∧
      (∃ column, Json.lookup? "column" fields = some column) ∧
      ∃ values, Json.lookup? "values" fields = some values := by
  rw [requireFields_eq_ok_iff, Operator.requiredFields, List.forall_mem_cons,
    List.forall_mem_cons, List.forall_mem_singleton]

theorem requireFields_inRange_iff :
    requireFields .inRange fields = .ok () ↔
      (∃ operator, Json.lookup? "operator" fields = some operator) ∧
      (∃ column, Json.lookup? "column" fields = some column) ∧
      (∃ low, Json.lookup? "min_val" fields = some low) ∧
      ∃ high, Json.lookup? "max_val" fields = some high := by
  rw [requireFields_eq_ok_iff, Operator.requiredFields, List.forall_mem_cons,
    List.forall_mem_cons, List.forall_mem_cons, List.forall_mem_singleton]

end Required

theorem field_eq {name : String} {fields : List (String × Json)} {value : Json}
    (h : Json.lookup? name fields = some value) : field name fields = value := by
  rw [field, h, Option.getD_some]

theorem readColumn_eq_ok_iff {op : Operator} {column : Json} {ref : ColumnRef} :
    readColumn op column = .ok ref ↔ RefForm column ref := by
  constructor
  · intro h
    unfold readColumn at h
    split at h
    · cases h
      exact .name _
    · cases h
      exact .integer _ _
    · cases h
  · intro h
    cases h with
    | name value => rfl
    | integer i inRange => rfl

theorem numberForm_iff {number : Json.Number} {cell : Cell} :
    NumberForm number cell ↔ cell = Cell.ofNumber number := by
  constructor
  · intro h
    cases h with
    | integer i inRange => rw [Cell.ofNumber, int64?_toInt]
    | above i inRange large => rw [Cell.ofNumber, int64?, if_neg (by omega)]
    | real x finite => rfl
  · rintro rfl
    cases number with
    | real x finite => exact .real x finite
    | whole i inRange =>
      rw [Cell.ofNumber]
      cases hword : int64? i with
      | some word =>
        obtain rfl := int64?_eq_some_iff.mp hword
        exact .integer word inRange
      | none =>
        -- a whole number that the signed word does not hold lies above it, not below
        refine .above i inRange ?_
        by_contra hsmall
        rw [int64?, if_pos ⟨inRange.1, by omega⟩] at hword
        cases hword

theorem readBound_eq_ok_iff {name : String} {bound : Json} {cell : Cell} :
    readBound name bound = .ok cell ↔
      ∃ number, bound = .number number ∧ NumberForm number cell := by
  simp only [numberForm_iff]
  constructor
  · intro h
    unfold readBound at h
    split at h
    · cases h
      exact ⟨_, rfl, rfl⟩
    · cases h
  · rintro ⟨number, rfl, rfl⟩
    rfl

theorem isListable_iff {item : Json} : isListable item = true ↔ ∃ cell, ValueForm item cell := by
  constructor
  · intro h
    cases item with
    | string value => exact ⟨_, .string value⟩
    | number number => exact ⟨_, .number (numberForm_iff.mpr rfl)⟩
    | null | bool _ | array _ | object _ => cases h
  · rintro ⟨cell, hform⟩
    cases hform with
    | string value => rfl
    | number form => rfl

theorem valueForm_iff {item : Json} {cell : Cell} :
    ValueForm item cell ↔ isListable item = true ∧ Cell.ofJson? item = some cell := by
  constructor
  · intro h
    cases h with
    | string value => exact ⟨rfl, rfl⟩
    | number form => exact ⟨rfl, congrArg some (numberForm_iff.mp form).symm⟩
  · rintro ⟨hlistable, hcell⟩
    obtain ⟨cell', hform⟩ := isListable_iff.mp hlistable
    cases hform with
    | string value =>
      obtain rfl := Option.some.inj hcell
      exact .string value
    | number form =>
      obtain rfl := Option.some.inj hcell
      exact .number (numberForm_iff.mpr rfl)

/-- Reading listed values drops none of them. -/
theorem filterMap_ofJson?_eq_iff {items : List Json} (h : ∀ item ∈ items, isListable item = true) :
    ∀ {values : List Cell}, items.filterMap Cell.ofJson? = values ↔
      List.Forall₂ ValueForm items values := by
  induction items with
  | nil =>
    intro values
    rw [List.filterMap_nil, List.forall₂_nil_left_iff, eq_comm]
  | cons item rest ih =>
    intro values
    obtain ⟨hitem, hrest⟩ := List.forall_mem_cons.mp h
    obtain ⟨cell, hform⟩ := isListable_iff.mp hitem
    have hcell := (valueForm_iff.mp hform).2
    rw [List.filterMap_cons_some hcell]
    constructor
    · rintro rfl
      exact .cons hform ((ih hrest).mp rfl)
    · intro hall
      cases hall with
      | @cons _ cell' _ tail hfirst htail =>
        -- the form of an item determines its cell
        have hsame : cell = cell' := Option.some.inj (hcell.symm.trans (valueForm_iff.mp hfirst).2)
        rw [hsame, (ih hrest).mpr htail]

theorem readValues_eq_ok_iff {list : Json} {values : List Cell} :
    readValues list = .ok values ↔
      ∃ items, list = .array items ∧ List.Forall₂ ValueForm items values := by
  cases list with
  | array items =>
    have hlistable : (items.filter fun item => !isListable item) = [] ↔
        ∀ item ∈ items, isListable item = true := by
      rw [List.filter_eq_nil_iff]
      simp
    rw [readValues]
    split
    · rename_i hnone
      rw [Except.ok.injEq, filterMap_ofJson?_eq_iff (hlistable.mp hnone)]
      simp
    · rename_i hsome
      -- some item is no value, so no list of values can match the items
      refine iff_of_false (by rintro ⟨⟩) ?_
      rintro ⟨_, hitems, hforms⟩
      cases hitems
      have hcells := exists_forall₂_iff.mp ⟨values, hforms⟩
      exact hsome (hlistable.mpr fun item hitem => isListable_iff.mpr (hcells item hitem))
  | null | bool _ | number _ | string _ | object _ =>
    refine iff_of_false (by rintro ⟨⟩) ?_
    rintro ⟨_, h, _⟩
    cases h

/-! ## The local check of a node -/

theorem checkNode_combinator {fields : List (String × Json)} {combinator : Combinator}
    (h : readOperator fields = .ok combinator.operator) :
    checkNode fields = requireFields combinator.operator fields >>= fun _ =>
      match field "arguments" fields with
      | .array _ => .ok (.combinator combinator)
      | other => .error (.typeMismatch (.argumentsNotList combinator.operator other.kind)) := by
  rw [checkNode, h]
  cases combinator <;> rfl

theorem checkNode_inList {fields : List (String × Json)} (h : readOperator fields = .ok .inList) :
    checkNode fields = requireFields .inList fields >>= fun _ =>
      readColumn .inList (field "column" fields) >>= fun column =>
      readValues (field "values" fields) >>= fun values => .ok (.leaf (.inList column values)) := by
  rw [checkNode, h]
  rfl

theorem checkNode_inRange {fields : List (String × Json)} (h : readOperator fields = .ok .inRange) :
    checkNode fields = requireFields .inRange fields >>= fun _ =>
      readColumn .inRange (field "column" fields) >>= fun column =>
      readBound "max_val" (field "max_val" fields) >>= fun max =>
      readBound "min_val" (field "min_val" fields) >>= fun min =>
      .ok (.leaf (.inRange column min max)) := by
  rw [checkNode, h]
  rfl

/-- The operators are those of the combinators and of the two leaves. -/
theorem operator_cases (op : Operator) :
    (∃ combinator : Combinator, op = combinator.operator) ∨ op = .inList ∨ op = .inRange := by
  cases op with
  | all => exact .inl ⟨.all, rfl⟩
  | any => exact .inl ⟨.any, rfl⟩
  | none => exact .inl ⟨.none, rfl⟩
  | inList => exact .inr (.inl rfl)
  | inRange => exact .inr (.inr rfl)

/-- What the local check of a node finds: a combinator with a list of arguments, or a leaf. -/
inductive HeadForm (fields : List (String × Json)) : Head → Prop where
  | combinator {combinator : Combinator} {items : List Json}
      (operator : Json.lookup? "operator" fields = some (.string combinator.operator.token))
      (arguments : Json.lookup? "arguments" fields = some (.array items)) :
      HeadForm fields (.combinator combinator)
  | leaf {spec : Spec} (form : LeafForm fields spec) : HeadForm fields (.leaf spec)

theorem HeadForm.of_combinator {fields : List (String × Json)} {combinator : Combinator}
    {head : Head} (hop : readOperator fields = .ok combinator.operator)
    (h : checkNode fields = .ok head) : HeadForm fields head := by
  rw [checkNode_combinator hop] at h
  obtain ⟨_, hrequired, h⟩ := bind_eq_ok_iff.mp h
  obtain ⟨-, arguments, harguments⟩ := requireFields_combinator_iff.mp hrequired
  rw [field_eq harguments] at h
  split at h
  · cases h
    exact .combinator (readOperator_eq_ok_iff.mp hop) harguments
  · cases h

theorem HeadForm.of_inList {fields : List (String × Json)} {head : Head}
    (hop : readOperator fields = .ok .inList) (h : checkNode fields = .ok head) :
    HeadForm fields head := by
  rw [checkNode_inList hop] at h
  obtain ⟨_, hrequired, h⟩ := bind_eq_ok_iff.mp h
  obtain ⟨-, ⟨column, hcolumn⟩, list, hlist⟩ := requireFields_inList_iff.mp hrequired
  rw [field_eq hcolumn, field_eq hlist] at h
  obtain ⟨ref, href, h⟩ := bind_eq_ok_iff.mp h
  obtain ⟨values, hvalues, hhead⟩ := bind_eq_ok_iff.mp h
  obtain ⟨items, rfl, hforms⟩ := readValues_eq_ok_iff.mp hvalues
  cases hhead
  have hoperator := readOperator_eq_ok_iff.mp hop
  exact .leaf (.inList hoperator hcolumn hlist (readColumn_eq_ok_iff.mp href) hforms)

theorem HeadForm.of_inRange {fields : List (String × Json)} {head : Head}
    (hop : readOperator fields = .ok .inRange) (h : checkNode fields = .ok head) :
    HeadForm fields head := by
  rw [checkNode_inRange hop] at h
  obtain ⟨_, hrequired, h⟩ := bind_eq_ok_iff.mp h
  obtain ⟨-, ⟨column, hcolumn⟩, ⟨low, hlow⟩, high, hhigh⟩ := requireFields_inRange_iff.mp hrequired
  rw [field_eq hcolumn, field_eq hlow, field_eq hhigh] at h
  obtain ⟨ref, href, h⟩ := bind_eq_ok_iff.mp h
  -- the upper bound is read first
  obtain ⟨max, hmax, h⟩ := bind_eq_ok_iff.mp h
  obtain ⟨min, hmin, hhead⟩ := bind_eq_ok_iff.mp h
  obtain ⟨_, rfl, hmaxForm⟩ := readBound_eq_ok_iff.mp hmax
  obtain ⟨_, rfl, hminForm⟩ := readBound_eq_ok_iff.mp hmin
  cases hhead
  have hoperator := readOperator_eq_ok_iff.mp hop
  exact .leaf (.inRange hoperator hcolumn hlow hhigh (readColumn_eq_ok_iff.mp href) hminForm
    hmaxForm)

theorem HeadForm.of_checkNode {fields : List (String × Json)} {head : Head}
    (h : checkNode fields = .ok head) : HeadForm fields head := by
  -- the operator is read before anything else, and the rest of the check depends on it
  have hrun := h
  unfold checkNode at hrun
  obtain ⟨op, hop, -⟩ := bind_eq_ok_iff.mp hrun
  rcases operator_cases op with ⟨combinator, rfl⟩ | rfl | rfl
  · exact .of_combinator hop h
  · exact .of_inList hop h
  · exact .of_inRange hop h

theorem HeadForm.checkNode_eq {fields : List (String × Json)} {head : Head}
    (h : HeadForm fields head) : checkNode fields = .ok head := by
  cases h with
  | @combinator combinator items operator arguments =>
    rw [checkNode_combinator (readOperator_eq_ok_iff.mpr operator), bind_eq_ok_iff]
    refine ⟨(), requireFields_combinator_iff.mpr ⟨⟨_, operator⟩, _, arguments⟩, ?_⟩
    rw [field_eq arguments]
  | leaf form =>
    cases form with
    | inList operator columnField valuesField column_form values_form =>
      have hop : readOperator fields = .ok .inList := readOperator_eq_ok_iff.mpr operator
      have hrequired := requireFields_inList_iff.mpr
        ⟨⟨_, operator⟩, ⟨_, columnField⟩, _, valuesField⟩
      rw [checkNode_inList hop, hrequired, field_eq columnField, field_eq valuesField,
        readColumn_eq_ok_iff.mpr column_form, readValues_eq_ok_iff.mpr ⟨_, rfl, values_form⟩]
      rfl
    | inRange operator columnField minField maxField column_form min_form max_form =>
      have hop : readOperator fields = .ok .inRange := readOperator_eq_ok_iff.mpr operator
      have hrequired := requireFields_inRange_iff.mpr
        ⟨⟨_, operator⟩, ⟨_, columnField⟩, ⟨_, minField⟩, _, maxField⟩
      rw [checkNode_inRange hop, hrequired, field_eq columnField, field_eq minField,
        field_eq maxField, readColumn_eq_ok_iff.mpr column_form,
        readBound_eq_ok_iff.mpr ⟨_, rfl, min_form⟩, readBound_eq_ok_iff.mpr ⟨_, rfl, max_form⟩]
      rfl

/-- **The local check of a node** accepts the well-formed heads, and gives what they are read as. -/
theorem checkNode_eq_ok_iff {fields : List (String × Json)} {head : Head} :
    checkNode fields = .ok head ↔ HeadForm fields head :=
  ⟨HeadForm.of_checkNode, HeadForm.checkNode_eq⟩

end Spec

end Winnow
