import Winnow.Proofs.Spec.Grammar

/-!
# `Winnow.Proofs.Spec.Violations` — the first violation in a tree

A tree that is no specification is refused for one reason, though there may be many. The reasons are
ordered: the nodes of the tree come depth first, each before the nodes below it, and at one node the
checks come in a fixed order that does not look into its arguments. Reading stops early, inside a
recursion, but what it reports is what a scan of all nodes finds first.

## Contents
- **`Arguments`**, **`nodes`**: the nodes of a tree, with **`nodes_of_arguments`** and
  **`nodes_of_no_arguments`**.
- **`Violation`**: what is wrong with a node; **`checkNode_eq_error_iff`**: the local check finds it.
- **`localFault?`**, **`fault?_ofJson`**: reading as a scan of the nodes.
- **`FirstViolation`**, **`ofJson_violations`**: which violation is reported, and when there is one.
-/

namespace Winnow.Spec

/-! ## The nodes of a tree -/

/-- A well-formed combinator with its arguments: it names its operator, and its arguments are a
    list. -/
inductive Arguments : Json → List Json → Prop where
  | intro {fields : List (String × Json)} {combinator : Combinator} {items : List Json}
      (operator : Json.lookup? "operator" fields = some (.string combinator.operator.token))
      (argumentsField : Json.lookup? "arguments" fields = some (.array items)) :
      Arguments (.object fields) items

/-- Whether the fields of a node name a combinator. -/
def namesCombinator (fields : List (String × Json)) : Bool :=
  match Json.lookup? "operator" fields with
  | some (.string token) => [Combinator.all, .any, .none].any fun c => c.operator.token = token
  | _ => false

mutual

/-- The nodes of a tree, depth first: the tree itself, and below a combinator those of its
    arguments. -/
def nodes : Json → List Json
  | .object fields =>
    .object fields :: if namesCombinator fields then nodesOfArguments fields else []
  | tree => [tree]

/-- The nodes of the arguments among the fields of a node. -/
def nodesOfArguments : List (String × Json) → List Json
  | [] => []
  | (name, value) :: rest => if name = "arguments" then nodesOfList value else nodesOfArguments rest

/-- The nodes of the items of an array. -/
def nodesOfList : Json → List Json
  | .array items => nodesOfItems items
  | _ => []

/-- The nodes of trees, one tree after the other. -/
def nodesOfItems : List Json → List Json
  | [] => []
  | item :: rest => nodes item ++ nodesOfItems rest

end

theorem namesCombinator_iff {fields : List (String × Json)} :
    namesCombinator fields = true ↔ ∃ combinator : Combinator,
      Json.lookup? "operator" fields = some (.string combinator.operator.token) := by
  unfold namesCombinator
  split
  · rename_i token htoken
    rw [htoken]
    constructor
    · intro h
      obtain ⟨combinator, _, hsame⟩ := List.any_eq_true.mp h
      exact ⟨combinator, by rw [of_decide_eq_true hsame]⟩
    · rintro ⟨combinator, hsame⟩
      obtain rfl : token = combinator.operator.token := Json.string.inj (Option.some.inj hsame)
      cases combinator <;> decide
  · rename_i hother
    refine iff_of_false (by rintro ⟨⟩) ?_
    rintro ⟨combinator, h⟩
    exact hother _ h

theorem nodesOfItems_eq_flatMap (items : List Json) : nodesOfItems items = items.flatMap nodes := by
  induction items with
  | nil => rfl
  | cons first rest ih => rw [nodesOfItems, ih, List.flatMap_cons]

theorem nodesOfArguments_of_lookup {fields : List (String × Json)} {value : Json}
    (h : Json.lookup? "arguments" fields = some value) :
    nodesOfArguments fields = nodesOfList value := by
  induction fields with
  | nil => cases h
  | cons field rest ih =>
    obtain ⟨name, held⟩ := field
    rw [Json.lookup?] at h
    rw [nodesOfArguments]
    split at h
    · rename_i hname
      obtain rfl := Option.some.inj h
      rw [if_pos hname]
    · rename_i hname
      rw [if_neg hname]
      exact ih h

theorem nodesOfArguments_of_absent {fields : List (String × Json)}
    (h : Json.lookup? "arguments" fields = none) : nodesOfArguments fields = [] := by
  induction fields with
  | nil => rfl
  | cons field rest ih =>
    obtain ⟨name, held⟩ := field
    rw [Json.lookup?] at h
    split at h
    · cases h
    · rename_i hname
      rw [nodesOfArguments, if_neg hname]
      exact ih h

/-- Below a combinator come the nodes of its arguments. -/
theorem nodes_of_arguments {tree : Json} {items : List Json} (h : Arguments tree items) :
    nodes tree = tree :: items.flatMap nodes := by
  cases h with
  | intro operator argumentsField =>
    rw [nodes, if_pos (namesCombinator_iff.mpr ⟨_, operator⟩),
      nodesOfArguments_of_lookup argumentsField, nodesOfList, nodesOfItems_eq_flatMap]

/-- Every other tree is its only node. -/
theorem nodes_of_no_arguments {tree : Json} (h : ∀ items, ¬ Arguments tree items) :
    nodes tree = [tree] := by
  cases tree with
  | object fields =>
    rw [nodes]
    split
    · rename_i hnames
      obtain ⟨combinator, hoperator⟩ := namesCombinator_iff.mp hnames
      cases harguments : Json.lookup? "arguments" fields with
      | none => rw [nodesOfArguments_of_absent harguments]
      | some value =>
        rw [nodesOfArguments_of_lookup harguments]
        cases value with
        | array items => exact absurd (.intro hoperator harguments) (h items)
        | null | bool _ | number _ | string _ | object _ => rfl
    · rfl
  | null | bool _ | number _ | string _ | array _ => rfl

theorem LeafForm.no_arguments {fields : List (String × Json)} {spec : Spec}
    (h : LeafForm fields spec) : ∀ items, ¬ Arguments (.object fields) items := by
  intro items harguments
  cases harguments with
  | @intro _ combinator _ operator _ =>
    have htoken : combinator.operator.token ≠ "IN_LIST" ∧
        combinator.operator.token ≠ "IN_RANGE" := by
      cases combinator <;> decide
    cases h with
    | inList token =>
      exact htoken.1 (Json.string.inj (Option.some.inj (operator.symm.trans token)))
    | inRange token =>
      exact htoken.2 (Json.string.inj (Option.some.inj (operator.symm.trans token)))

/-! ## What is wrong with a node -/

instance : DecidablePred IsListed := fun item =>
  decidable_of_iff (isListable item = true) (isListable_iff.trans isListed_iff.symm)

/-- All required fields of an operator are there. -/
def Complete (op : Operator) (fields : List (String × Json)) : Prop :=
  ∀ name ∈ op.requiredFields, ∃ value, Json.lookup? name fields = some value

/-- The operators of leaves. -/
def IsLeaf (op : Operator) : Prop := op = .inList ∨ op = .inRange

/-- **What is wrong with a node.** The checks come in this order, and each one presupposes that those
    before it are passed: the node is an object; it has an operator, which is a known one; all
    required fields are there, or the absent ones are named in their order; the arguments of a
    combinator are a list. A leaf refers to a column; then the values of a list are a list, of which
    all items but strings and numbers are named in their order, or the bounds of a range are numbers,
    the upper one first. -/
inductive Violation : Json → Error → Prop where
  | notObject {tree : Json} (other : ∀ fields, tree ≠ .object fields) :
      Violation tree (.typeMismatch (.specNotObject tree.kind))
  | operatorMissing {fields : List (String × Json)}
      (absent : Json.lookup? "operator" fields = none) :
      Violation (.object fields) (.missingOperator (.object fields))
  | operatorUnknown {fields : List (String × Json)} {operator : Json}
      (given : Json.lookup? "operator" fields = some operator)
      (unknown : ∀ op : Operator, operator ≠ .string op.token) :
      Violation (.object fields) (.unknownOperator operator)
  | fieldsMissing {fields : List (String × Json)} {op : Operator} {missing : List String}
      (operator : Json.lookup? "operator" fields = some (.string op.token))
      (absent : missing = op.requiredFields.filter fun name => (Json.lookup? name fields).isNone)
      (any : missing ≠ []) :
      Violation (.object fields) (.missingFields (Json.object fields).compact missing)
  | argumentsNotList {fields : List (String × Json)} {combinator : Combinator} {other : Json}
      (operator : Json.lookup? "operator" fields = some (.string combinator.operator.token))
      (argumentsField : Json.lookup? "arguments" fields = some other)
      (noList : ∀ items, other ≠ .array items) :
      Violation (.object fields) (.typeMismatch (.argumentsNotList combinator.operator other.kind))
  | columnNotRef {fields : List (String × Json)} {op : Operator} {column : Json}
      (leaf : IsLeaf op) (operator : Json.lookup? "operator" fields = some (.string op.token))
      (complete : Complete op fields)
      (columnField : Json.lookup? "column" fields = some column)
      (noReference : ¬ IsReference column) :
      Violation (.object fields) (.typeMismatch (.columnNotRef op column.kind))
  | valuesNotList {fields : List (String × Json)} {column other : Json}
      (operator : Json.lookup? "operator" fields = some (.string "IN_LIST"))
      (columnField : Json.lookup? "column" fields = some column) (reference : IsReference column)
      (valuesField : Json.lookup? "values" fields = some other)
      (noList : ∀ items, other ≠ .array items) :
      Violation (.object fields) (.typeMismatch (.valuesNotList other.kind))
  | valuesInvalid {fields : List (String × Json)} {column : Json} {items invalid : List Json}
      (operator : Json.lookup? "operator" fields = some (.string "IN_LIST"))
      (columnField : Json.lookup? "column" fields = some column) (reference : IsReference column)
      (valuesField : Json.lookup? "values" fields = some (.array items))
      (unlisted : invalid = items.filter fun item => ¬ IsListed item) (any : invalid ≠ []) :
      Violation (.object fields) (.invalidValues invalid)
  | maxNotNumber {fields : List (String × Json)} {column high : Json}
      (operator : Json.lookup? "operator" fields = some (.string "IN_RANGE"))
      (complete : Complete .inRange fields)
      (columnField : Json.lookup? "column" fields = some column) (reference : IsReference column)
      (maxField : Json.lookup? "max_val" fields = some high)
      (noNumber : ∀ number, high ≠ .number number) :
      Violation (.object fields) (.typeMismatch (.boundNotNumber "max_val" high.kind))
  | minNotNumber {fields : List (String × Json)} {column low : Json} {high : Json.Number}
      (operator : Json.lookup? "operator" fields = some (.string "IN_RANGE"))
      (columnField : Json.lookup? "column" fields = some column) (reference : IsReference column)
      (maxField : Json.lookup? "max_val" fields = some (.number high))
      (minField : Json.lookup? "min_val" fields = some low)
      (noNumber : ∀ number, low ≠ .number number) :
      Violation (.object fields) (.typeMismatch (.boundNotNumber "min_val" low.kind))

/-! ### The parts of a node -/

theorem readOperator_eq_error_iff {fields : List (String × Json)} {e : Error} :
    readOperator fields = .error e ↔
      (Json.lookup? "operator" fields = none ∧ e = .missingOperator (.object fields)) ∨
      ∃ operator, Json.lookup? "operator" fields = some operator ∧
        (∀ op : Operator, operator ≠ .string op.token) ∧ e = .unknownOperator operator := by
  unfold readOperator
  split
  · rename_i habsent
    simp [habsent, @eq_comm Error e]
  · rename_i token hgiven
    rw [hgiven]
    cases hop : Operator.ofToken? token with
    | some op =>
      obtain rfl := ofToken?_eq_some_iff.mp hop
      have hknown : ¬ ∀ other : Operator, op.token ≠ other.token := fun h => h op rfl
      simp [hknown]
    | none =>
      have hunknown : ∀ op : Operator, token ≠ op.token := by
        intro op hsame
        rw [ofToken?_eq_some_iff.mpr hsame] at hop
        cases hop
      simp [hunknown, @eq_comm Error e]
  · rename_i other hother hgiven
    have hunknown : ∀ op : Operator, other ≠ .string op.token := fun op => hother _
    simp [hgiven, hunknown, @eq_comm Error e]

theorem requireFields_eq_error_iff {op : Operator} {fields : List (String × Json)} {e : Error} :
    requireFields op fields = .error e ↔
      ∃ missing, missing = (op.requiredFields.filter fun name => (Json.lookup? name fields).isNone) ∧
        missing ≠ [] ∧ e = .missingFields (Json.object fields).compact missing := by
  rw [exists_eq_left, requireFields]
  generalize (op.requiredFields.filter fun name => (Json.lookup? name fields).isNone) = missing
  cases missing <;> simp [@eq_comm Error e]

theorem readColumn_eq_error_iff {op : Operator} {column : Json} {e : Error} :
    readColumn op column = .error e ↔
      ¬ IsReference column ∧ e = .typeMismatch (.columnNotRef op column.kind) := by
  unfold readColumn
  split
  · rename_i name
    simp [IsReference.name name]
  · rename_i i inRange
    simp [IsReference.integer i inRange]
  · rename_i hname hinteger
    have hnone : ¬ IsReference column := by
      intro h
      cases h with
      | name value => exact hname _ rfl
      | integer i inRange => exact hinteger _ _ rfl
    simp [hnone, @eq_comm Error e]

theorem readValues_eq_error_iff {list : Json} {e : Error} :
    readValues list = .error e ↔
      ((∀ items, list ≠ .array items) ∧ e = .typeMismatch (.valuesNotList list.kind)) ∨
      ∃ items invalid, list = .array items ∧ invalid = (items.filter fun item => ¬ IsListed item) ∧
        invalid ≠ [] ∧ e = .invalidValues invalid := by
  cases list with
  | array items =>
    have hsame : (items.filter fun item => !isListable item) =
        items.filter fun item => ¬ IsListed item := by
      refine List.filter_congr fun item _ => ?_
      rw [Bool.eq_iff_iff, Bool.not_eq_true', decide_eq_true_iff, isListed_iff, ← isListable_iff,
        Bool.not_eq_true]
    have hitems : (∃ listed invalid, Json.array items = .array listed ∧
        invalid = (listed.filter fun item => ¬ IsListed item) ∧ invalid ≠ [] ∧
          e = .invalidValues invalid) ↔
        (items.filter fun item => ¬ IsListed item) ≠ [] ∧
          e = .invalidValues (items.filter fun item => ¬ IsListed item) := by
      constructor
      · rintro ⟨listed, invalid, hlisted, rfl, hany, he⟩
        cases hlisted
        exact ⟨hany, he⟩
      · rintro ⟨hany, he⟩
        exact ⟨items, _, rfl, rfl, hany, he⟩
    rw [readValues, hsame, hitems]
    generalize (items.filter fun item => ¬ IsListed item) = invalid
    cases invalid <;> simp [@eq_comm Error e]
  | null | bool _ | number _ | string _ | object _ => simp [readValues, @eq_comm Error e]

theorem readBound_eq_error_iff {name : String} {bound : Json} {e : Error} :
    readBound name bound = .error e ↔
      (∀ number, bound ≠ .number number) ∧
        e = .typeMismatch (.boundNotNumber name bound.kind) := by
  cases bound with
  | number number => simp [readBound]
  | null | bool _ | string _ | array _ | object _ => simp [readBound, @eq_comm Error e]

/-! ### The local check finds it -/

section Check

variable {fields : List (String × Json)} {e : Error}

theorem Violation.of_requireFields {op : Operator} (hop : readOperator fields = .ok op)
    (h : requireFields op fields = .error e) : Violation (.object fields) e := by
  obtain ⟨missing, habsent, hany, rfl⟩ := requireFields_eq_error_iff.mp h
  exact .fieldsMissing (readOperator_eq_ok_iff.mp hop) habsent hany

theorem Violation.of_readColumn {op : Operator} (hleaf : IsLeaf op)
    (hop : readOperator fields = .ok op) (hrequired : requireFields op fields = .ok ())
    {column : Json} (hcolumn : Json.lookup? "column" fields = some column)
    (h : readColumn op column = .error e) : Violation (.object fields) e := by
  obtain ⟨hnone, rfl⟩ := readColumn_eq_error_iff.mp h
  exact .columnNotRef hleaf (readOperator_eq_ok_iff.mp hop) (requireFields_eq_ok_iff.mp hrequired)
    hcolumn hnone

theorem Violation.of_combinator {combinator : Combinator}
    (hop : readOperator fields = .ok combinator.operator) (h : checkNode fields = .error e) :
    Violation (.object fields) e := by
  rw [checkNode_combinator hop] at h
  rcases bind_eq_error_iff.mp h with hmissing | ⟨_, hrequired, h⟩
  · exact .of_requireFields hop hmissing
  obtain ⟨-, arguments, harguments⟩ := requireFields_combinator_iff.mp hrequired
  rw [field_eq harguments] at h
  split at h
  · cases h
  · rename_i hother
    cases h
    exact .argumentsNotList (readOperator_eq_ok_iff.mp hop) harguments hother

theorem Violation.of_inList (hop : readOperator fields = .ok .inList)
    (h : checkNode fields = .error e) : Violation (.object fields) e := by
  rw [checkNode_inList hop] at h
  rcases bind_eq_error_iff.mp h with hmissing | ⟨_, hrequired, h⟩
  · exact .of_requireFields hop hmissing
  obtain ⟨-, ⟨column, hcolumn⟩, list, hlist⟩ := requireFields_inList_iff.mp hrequired
  rw [field_eq hcolumn, field_eq hlist] at h
  rcases bind_eq_error_iff.mp h with hfault | ⟨ref, href, h⟩
  · exact .of_readColumn (.inl rfl) hop hrequired hcolumn hfault
  have hoperator := readOperator_eq_ok_iff.mp hop
  have hreference := isReference_iff.mpr ⟨ref, readColumn_eq_ok_iff.mp href⟩
  rcases bind_eq_error_iff.mp h with hfault | ⟨values, _, h⟩
  · rcases readValues_eq_error_iff.mp hfault with
      ⟨hother, rfl⟩ | ⟨items, invalid, rfl, hinvalid, hany, rfl⟩
    · exact .valuesNotList hoperator hcolumn hreference hlist hother
    · exact .valuesInvalid hoperator hcolumn hreference hlist hinvalid hany
  · cases h

theorem Violation.of_inRange (hop : readOperator fields = .ok .inRange)
    (h : checkNode fields = .error e) : Violation (.object fields) e := by
  rw [checkNode_inRange hop] at h
  rcases bind_eq_error_iff.mp h with hmissing | ⟨_, hrequired, h⟩
  · exact .of_requireFields hop hmissing
  obtain ⟨-, ⟨column, hcolumn⟩, ⟨low, hlow⟩, high, hhigh⟩ := requireFields_inRange_iff.mp hrequired
  rw [field_eq hcolumn, field_eq hlow, field_eq hhigh] at h
  rcases bind_eq_error_iff.mp h with hfault | ⟨ref, href, h⟩
  · exact .of_readColumn (.inr rfl) hop hrequired hcolumn hfault
  have hoperator := readOperator_eq_ok_iff.mp hop
  have hreference := isReference_iff.mpr ⟨ref, readColumn_eq_ok_iff.mp href⟩
  -- the upper bound is read first
  rcases bind_eq_error_iff.mp h with hfault | ⟨max, hmax, hrest⟩
  · obtain ⟨hother, rfl⟩ := readBound_eq_error_iff.mp hfault
    exact .maxNotNumber hoperator (requireFields_eq_ok_iff.mp hrequired) hcolumn hreference hhigh
      hother
  obtain ⟨number, hnumber, _⟩ := readBound_eq_ok_iff.mp hmax
  rcases bind_eq_error_iff.mp hrest with hfault | ⟨min, _, hdone⟩
  · obtain ⟨hother, rfl⟩ := readBound_eq_error_iff.mp hfault
    exact .minNotNumber hoperator hcolumn hreference (hnumber ▸ hhigh) hlow hother
  · cases hdone

theorem Violation.of_checkNode (h : checkNode fields = .error e) :
    Violation (.object fields) e := by
  have hrun := h
  unfold checkNode at hrun
  rcases bind_eq_error_iff.mp hrun with hfault | ⟨op, hop, -⟩
  · rcases readOperator_eq_error_iff.mp hfault with ⟨habsent, rfl⟩ | ⟨operator, hgiven, hother, rfl⟩
    · exact .operatorMissing habsent
    · exact .operatorUnknown hgiven hother
  · rcases operator_cases op with ⟨combinator, rfl⟩ | rfl | rfl
    · exact .of_combinator hop h
    · exact .of_inList hop h
    · exact .of_inRange hop h

/-- An operator that is not read is the fault of the check. -/
theorem checkNode_of_readOperator (h : readOperator fields = .error e) :
    checkNode fields = .error e := by
  unfold checkNode
  exact bind_eq_error_iff.mpr (.inl h)

/-- Once the operator is read, absent fields are the fault of the check. -/
theorem checkNode_of_requireFields {op : Operator} (hop : readOperator fields = .ok op)
    (h : requireFields op fields = .error e) : checkNode fields = .error e := by
  unfold checkNode
  exact bind_eq_error_iff.mpr (.inr ⟨op, hop, bind_eq_error_iff.mpr (.inl h)⟩)

/-- On a list with a column, the fault of the values is that of the check. -/
theorem checkNode_of_readValues {column list : Json}
    (operator : Json.lookup? "operator" fields = some (.string "IN_LIST"))
    (columnField : Json.lookup? "column" fields = some column) (reference : IsReference column)
    (valuesField : Json.lookup? "values" fields = some list) (h : readValues list = .error e) :
    checkNode fields = .error e := by
  have hop : readOperator fields = .ok .inList := readOperator_eq_ok_iff.mpr operator
  have hrequired := requireFields_inList_iff.mpr
    ⟨⟨_, operator⟩, ⟨_, columnField⟩, _, valuesField⟩
  obtain ⟨ref, href⟩ := isReference_iff.mp reference
  rw [checkNode_inList hop, hrequired, field_eq columnField, field_eq valuesField,
    readColumn_eq_ok_iff.mpr href, h]
  rfl

theorem Violation.checkNode_eq (h : Violation (.object fields) e) :
    checkNode fields = .error e := by
  cases h with
  | notObject other => exact absurd rfl (other fields)
  | operatorMissing absent =>
    exact checkNode_of_readOperator (readOperator_eq_error_iff.mpr (.inl ⟨absent, rfl⟩))
  | operatorUnknown given unknown =>
    exact checkNode_of_readOperator
      (readOperator_eq_error_iff.mpr (.inr ⟨_, given, unknown, rfl⟩))
  | fieldsMissing operator absent any =>
    exact checkNode_of_requireFields (readOperator_eq_ok_iff.mpr operator)
      (requireFields_eq_error_iff.mpr ⟨_, absent, any, rfl⟩)
  | @argumentsNotList _ combinator other operator argumentsField noList =>
    have hrequired : requireFields combinator.operator fields = .ok () :=
      requireFields_combinator_iff.mpr ⟨⟨_, operator⟩, _, argumentsField⟩
    rw [checkNode_combinator (readOperator_eq_ok_iff.mpr operator), hrequired,
      field_eq argumentsField]
    cases other with
    | array items => exact absurd rfl (noList items)
    | null | bool _ | number _ | string _ | object _ => rfl
  | @columnNotRef _ op column leaf operator complete columnField noReference =>
    have hop := readOperator_eq_ok_iff.mpr operator
    have hrequired := requireFields_eq_ok_iff.mpr complete
    have hfault : readColumn op column = .error _ :=
      readColumn_eq_error_iff.mpr ⟨noReference, rfl⟩
    rcases leaf with rfl | rfl
    · rw [checkNode_inList hop, hrequired, field_eq columnField, hfault]
      rfl
    · rw [checkNode_inRange hop, hrequired, field_eq columnField, hfault]
      rfl
  | valuesNotList operator columnField reference valuesField noList =>
    have hfault := readValues_eq_error_iff.mpr (.inl ⟨noList, rfl⟩)
    exact checkNode_of_readValues operator columnField reference valuesField hfault
  | valuesInvalid operator columnField reference valuesField unlisted any =>
    have hfault := readValues_eq_error_iff.mpr (.inr ⟨_, _, rfl, unlisted, any, rfl⟩)
    exact checkNode_of_readValues operator columnField reference valuesField hfault
  | maxNotNumber operator complete columnField reference maxField noNumber =>
    have hop : readOperator fields = .ok .inRange := readOperator_eq_ok_iff.mpr operator
    have hrequired := requireFields_eq_ok_iff.mpr complete
    obtain ⟨ref, href⟩ := isReference_iff.mp reference
    rw [checkNode_inRange hop, hrequired, field_eq columnField, field_eq maxField,
      readColumn_eq_ok_iff.mpr href, readBound_eq_error_iff.mpr ⟨noNumber, rfl⟩]
    rfl
  | minNotNumber operator columnField reference maxField minField noNumber =>
    have hop : readOperator fields = .ok .inRange := readOperator_eq_ok_iff.mpr operator
    have hrequired := requireFields_inRange_iff.mpr
      ⟨⟨_, operator⟩, ⟨_, columnField⟩, ⟨_, minField⟩, _, maxField⟩
    obtain ⟨ref, href⟩ := isReference_iff.mp reference
    rw [checkNode_inRange hop, hrequired, field_eq columnField, field_eq maxField,
      field_eq minField, readColumn_eq_ok_iff.mpr href,
      readBound_eq_ok_iff.mpr ⟨_, rfl, numberForm_iff.mpr rfl⟩,
      readBound_eq_error_iff.mpr ⟨noNumber, rfl⟩]
    rfl

/-- **The local check of a node** fails with what is wrong with it. -/
theorem checkNode_eq_error_iff : checkNode fields = .error e ↔ Violation (.object fields) e :=
  ⟨Violation.of_checkNode, Violation.checkNode_eq⟩

end Check

/-! ## Reading as a scan of the nodes -/

/-- What the local check of a node finds wrong. -/
def localFault? : Json → Option Error
  | .object fields => fault? (checkNode fields)
  | tree => some (.typeMismatch (.specNotObject tree.kind))

theorem localFault?_eq_some_iff {node : Json} {e : Error} :
    localFault? node = some e ↔ Violation node e := by
  have hother : ∀ tree : Json, (∀ fields, tree ≠ .object fields) →
      (some (Error.typeMismatch (.specNotObject tree.kind)) = some e ↔ Violation tree e) := by
    intro tree hother
    constructor
    · rintro ⟨⟩
      exact .notObject hother
    · intro h
      cases h with
      | notObject _ => rfl
      | _ => exact absurd rfl (hother _)
  cases node with
  | object fields => rw [localFault?, fault?_eq_some_iff, checkNode_eq_error_iff]
  | null | bool _ | number _ | string _ | array _ => exact hother _ nofun

theorem localFault?_eq_none_iff {node : Json} :
    localFault? node = none ↔ ∀ e, ¬ Violation node e := by
  simp only [Option.eq_none_iff_forall_ne_some, ne_eq, localFault?_eq_some_iff]

/-- **Reading is a scan.** It ends with the first fault among the nodes, depth first. -/
theorem fault?_ofJson (tree : Json) : fault? (ofJson tree) = (nodes tree).findSome? localFault? := by
  induction tree using nodeInduction with
  | other tree hother =>
    have hnone : ∀ items, ¬ Arguments tree items := by
      rintro items ⟨⟩
      exact hother _ rfl
    have hfault := localFault?_eq_some_iff.mpr (.notObject hother)
    rw [ofJson_other hother, nodes_of_no_arguments hnone, List.findSome?_singleton, hfault]
    rfl
  | node fields ih =>
    rw [ofJson_object]
    cases hcheck : checkNode fields with
    | error e =>
      -- the node itself comes first, whatever nodes are below it
      have hfirst : localFault? (.object fields) = some e :=
        localFault?_eq_some_iff.mpr (checkNode_eq_error_iff.mp hcheck)
      rw [nodes, findSome?_cons_or, hfirst]
      rfl
    | ok head =>
      have hclear : localFault? (.object fields) = none := by rw [localFault?, hcheck]; rfl
      cases checkNode_eq_ok_iff.mp hcheck with
      | @combinator combinator items operator arguments =>
        have hbelow : fault? (ofArguments fields) = (items.flatMap nodes).findSome? localFault? := by
          rw [ofArguments_of_lookup arguments, fault?_mapM, findSome?_flatMap]
          exact findSome?_congr (ih items arguments)
        rw [nodes_of_arguments (.intro operator arguments), findSome?_cons_or, hclear,
          Option.none_or, ← hbelow]
        exact fault?_bind_pure _ _
      | leaf form =>
        rw [nodes_of_no_arguments form.no_arguments, List.findSome?_singleton, hclear]
        rfl

/-! ## The first violation -/

/-- **The first violation** among nodes: something is wrong with one of them, and nothing with those
    before it. -/
inductive FirstViolation : List Json → Error → Prop where
  | intro {before after : List Json} {node : Json} {e : Error}
      (clear : ∀ earlier ∈ before, ∀ other, ¬ Violation earlier other)
      (violation : Violation node e) : FirstViolation (before ++ node :: after) e

theorem firstViolation_iff {nodes : List Json} {e : Error} :
    nodes.findSome? localFault? = some e ↔ FirstViolation nodes e := by
  rw [List.findSome?_eq_some_iff]
  constructor
  · rintro ⟨before, node, after, rfl, hfault, hclear⟩
    exact .intro (fun earlier hearlier => localFault?_eq_none_iff.mp (hclear earlier hearlier))
      (localFault?_eq_some_iff.mp hfault)
  · rintro ⟨hclear, hviolation⟩
    exact ⟨_, _, _, rfl, localFault?_eq_some_iff.mpr hviolation,
      fun earlier hearlier => localFault?_eq_none_iff.mpr (hclear earlier hearlier)⟩

/-- **The first violation is reported.** Reading a tree fails exactly when something is wrong with
    one of its nodes, and always with the first violation, depth first; so does the check that keeps
    nothing of the tree. -/
theorem ofJson_violations (tree : Json) :
    ((∃ e, ofJson tree = .error e) ↔ ∃ node ∈ nodes tree, ∃ e, Violation node e) ∧
    (∀ e, ofJson tree = .error e ↔ FirstViolation (nodes tree) e) ∧
    ∀ e, validate tree = .error e ↔ FirstViolation (nodes tree) e := by
  have hread : ∀ e, ofJson tree = .error e ↔ FirstViolation (nodes tree) e := by
    intro e
    rw [← fault?_eq_some_iff, fault?_ofJson, firstViolation_iff]
  refine ⟨?_, hread, fun e => ?_⟩
  · rw [exists_error_iff, fault?_ofJson, List.findSome?_isSome_iff]
    simp only [Option.isSome_iff_exists, localFault?_eq_some_iff]
  · rw [← hread, validate, ← fault?_eq_some_iff, fault?_map, fault?_eq_some_iff]

end Winnow.Spec
