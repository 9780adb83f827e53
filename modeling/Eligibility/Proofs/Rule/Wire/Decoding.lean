import Eligibility.Proofs.Rule.Wire.Agreement

/-!
# What a JSON value decodes to

A node is an object or an array of two to four items, and it is either a leaf
without children or a join of two children that are nodes themselves.  This file
says so without a reader: a value is read as a rule exactly if it decodes to that
rule.  An object that decodes to none has several faults at times; the fields
are then blamed in the order of their names, each before what is missing, and
the children that the kind does not allow are blamed last.
-/

namespace Eligibility

open Json (Value lookup)

/-- A value names a kind: by the name alone, or as an object in which that name
alone stands for null. -/
inductive NamesKind : Value → Kind → Prop
  | string (kind : Kind) : NamesKind (.string kind.name) kind
  | object {members : List (String × Value)} {kind : Kind} :
      (∀ member ∈ members, member.1 = kind.name) → lookup kind.name members = some .null →
      NamesKind (.object members) kind

namespace NodeField

/-- The place of a field among the items of an array. -/
def place : NodeField → Nat
  | nodeType => 0
  | value => 1
  | left => 2
  | right => 3

/-- The fields that are read from an object before a given one, in the order of
the names. -/
def readBefore : NodeField → List NodeField
  | left => []
  | nodeType => [left]
  | right => [left, nodeType]
  | value => [left, nodeType, right]

end NodeField

/-- What a value holds for a field of a node: what stands under the name of the
field, or the item at its place. -/
def heldFor? (node : Value) (field : NodeField) : Option Value :=
  match node with
  | .object members => lookup field.name members
  | .array items => items[field.place]?
  | _ => none

/-- The values that can be nodes, judged by their outermost shape. -/
inductive HasNodeShape : Value → Prop
  | object {members : List (String × Value)} : HasNodeShape (.object members)
  | array {items : List Value} : 2 ≤ items.length → items.length ≤ 4 → HasNodeShape (.array items)

/-- A child that is left out or null. -/
def IsAbsent (found : Option Value) : Prop :=
  found = none ∨ found = some .null

/-- A value decodes to a rule. -/
inductive Decodes : Value → Rule → Prop
  | leaf {node kind : Value} {condition : String} :
      HasNodeShape node → heldFor? node .nodeType = some kind → NamesKind kind .operand →
      heldFor? node .value = some (.string condition) →
      IsAbsent (heldFor? node .left) → IsAbsent (heldFor? node .right) →
      Decodes node (.leaf condition)
  | join {node kind left right : Value} {connective : String} {leftRule rightRule : Rule} :
      HasNodeShape node → heldFor? node .nodeType = some kind → NamesKind kind .operator →
      heldFor? node .value = some (.string connective) →
      heldFor? node .left = some left → left ≠ .null → Decodes left leftRule →
      heldFor? node .right = some right → right ≠ .null → Decodes right rightRule →
      Decodes node (.join connective leftRule rightRule)

namespace Rule

/-! ## The parts of a node -/

theorem namesKind_string_iff {name : String} {kind : Kind} :
    NamesKind (.string name) kind ↔ name = kind.name := by
  constructor
  · rintro ⟨⟩
    rfl
  · rintro rfl
    exact .string kind

theorem namesKind_object_iff {members : List (String × Value)} {kind : Kind} :
    NamesKind (.object members) kind ↔
      (∀ member ∈ members, member.1 = kind.name) ∧ lookup kind.name members = some .null := by
  constructor
  · rintro (_ | ⟨alone, found⟩)
    exact ⟨alone, found⟩
  · rintro ⟨alone, found⟩
    exact .object alone found

/-- An object with a first member names a kind if the name of that member does,
stands alone and stands for null. -/
theorem kindOfJson_cons_eq_ok_iff {name : String} {first : Value}
    {members : List (String × Value)} {kind : Kind} :
    kindOfJson (.object ((name, first) :: members)) = .ok kind ↔
      (∀ member ∈ members, member.1 = name) ∧ Kind.ofName? name = some kind ∧
        lookup name ((name, first) :: members) = some .null := by
  rw [kindOfJson]
  split
  · rename_i alone
    have others : ∀ member ∈ members, member.1 = name := by simpa using alone
    rw [and_iff_right others]
    cases Kind.ofName? name with
    | none => simp
    | some known =>
        cases lookup name ((name, first) :: members) with
        | none => simp
        | some found => cases found <;> simp
  · rename_i joined
    simp only [reduceCtorEq, false_iff]
    rintro ⟨others, -⟩
    exact joined (by simpa using others)

/-- Exactly the values that name a kind are read as that kind. -/
theorem kindOfJson_eq_ok_iff {value : Value} {kind : Kind} :
    kindOfJson value = .ok kind ↔ NamesKind value kind := by
  cases value with
  | string name =>
      rw [namesKind_string_iff, ← Kind.ofName?_eq_some_iff, kindOfJson]
      cases Kind.ofName? name <;> simp
  | object members =>
      rw [namesKind_object_iff]
      cases members with
      | nil => simp [kindOfJson]
      | cons member members =>
          rcases member with ⟨name, first⟩
          rw [kindOfJson_cons_eq_ok_iff, Kind.ofName?_eq_some_iff, List.forall_mem_cons]
          constructor
          · rintro ⟨others, rfl, found⟩
            exact ⟨⟨rfl, others⟩, found⟩
          · rintro ⟨⟨name_eq, others⟩, found⟩
            obtain rfl : name = kind.name := name_eq
            exact ⟨others, rfl, found⟩
  | null | bool flag | number number | array items =>
      simp only [kindOfJson, reduceCtorEq, false_iff]
      intro named
      cases named

theorem textOfJson_eq_ok_iff {value : Value} {text : String} :
    textOfJson value = .ok text ↔ value = .string text := by
  cases value <;> simp [textOfJson]

theorem childOfJson_eq_none_iff {value : Value} :
    childOfJson value = .ok none ↔ value = .null := by
  cases value with
  | object members => simp [childOfJson_object_eq_ok_iff]
  | array items => simp [childOfJson_array_eq_ok_iff]
  | null | bool flag | number number | string text => simp [childOfJson]

theorem ne_null_of_childOfJson {value : Value} {rule : Rule}
    (read : childOfJson value = .ok (some rule)) : value ≠ .null := by
  intro null
  rw [childOfJson_eq_none_iff.mpr null] at read
  cases read

section

variable {α β : Type} {read : α → Except DecodeFault β} {found : Option α}

theorem readOptional_eq_ok_none_iff : readOptional read found = .ok none ↔ found = none := by
  cases found <;> simp [readOptional, map_eq_ok_iff]

theorem readOptional_eq_ok_some_iff {result : β} :
    readOptional read found = .ok (some result) ↔
      ∃ value, found = some value ∧ read value = .ok result := by
  cases found <;> simp [readOptional, map_eq_ok_iff]

theorem readOptional_eq_error_iff {fault : DecodeFault} :
    readOptional read found = .error fault ↔
      ∃ value, found = some value ∧ read value = .error fault := by
  cases found <;> simp [readOptional, map_eq_error_iff]

end

/-- A child counts as absent if it is left out or null. -/
theorem getD_eq_none_iff_isAbsent {found : Option Value} {child : Option (Option Rule)}
    (read : readOptional childOfJson found = .ok child) :
    child.getD none = none ↔ IsAbsent found := by
  cases child with
  | none => simp [IsAbsent, readOptional_eq_ok_none_iff.mp read]
  | some actual =>
      rcases readOptional_eq_ok_some_iff.mp read with ⟨value, rfl, valueRead⟩
      rw [Option.getD_some, IsAbsent, Option.some.injEq, ← childOfJson_eq_none_iff, valueRead]
      simp

/-- A child that is there has been read from a value. -/
theorem getD_eq_some_iff {found : Option Value} {child : Option (Option Rule)} {rule : Rule}
    (read : readOptional childOfJson found = .ok child) :
    child.getD none = some rule ↔
      ∃ value, found = some value ∧ childOfJson value = .ok (some rule) := by
  cases child with
  | none => simp [readOptional_eq_ok_none_iff.mp read]
  | some actual =>
      rcases readOptional_eq_ok_some_iff.mp read with ⟨value, rfl, valueRead⟩
      simp [valueRead]

/-! ## Items as members -/

/-- Items under the names of the fields that they stand for. -/
def underNames (order : List NodeField) (items : List Value) : List (String × Value) :=
  (order.map NodeField.name).zip items

theorem not_mem_underNames {field : NodeField} {order : List NodeField}
    (absent : field ∉ order) (items : List Value) :
    field.name ∉ (underNames order items).map Prod.fst := by
  intro member
  rcases List.mem_map.mp member with ⟨⟨name, value⟩, named, name_eq⟩
  rcases List.mem_map.mp (List.of_mem_zip named).1 with ⟨other, otherMem, other_eq⟩
  have same := NodeField.name_injective (other_eq.trans name_eq)
  exact absent (same ▸ otherMem)

/-- Items are read as the members that they are under the names of their
fields. -/
theorem fieldsOfItems_eq_ok_iff {order : List NodeField} {items : List Value}
    {known result : NodeFields} (distinct : order.Nodup)
    (unset : ∀ field ∈ order, known.Lacks field) :
    fieldsOfItems order known items = .ok result ↔
      items.length ≤ order.length ∧
        ∀ field : NodeField,
          ReadOver (lookup field.name (underNames order items)) known result field := by
  induction items generalizing order known with
  | nil =>
      rw [fieldsOfItems.eq_def, underNames, List.zip_nil_right]
      simp only [Except.ok.injEq, List.length_nil, Nat.zero_le, true_and]
      constructor
      · rintro rfl field
        exact NodeFields.agreeOn_refl known field
      · intro same
        exact NodeFields.ext_of_agreeOn same
  | cons item items ih =>
      cases order with
      | nil => simp [fieldsOfItems]
      | cons field later =>
          rcases List.nodup_cons.mp distinct with ⟨absent, laterDistinct⟩
          rcases List.forall_mem_cons.mp unset with ⟨fieldUnset, laterUnset⟩
          have rest : ∀ next, SetsFromJson item known field next →
              (fieldsOfItems later next items = .ok result ↔ items.length ≤ later.length ∧
                ∀ other : NodeField,
                  ReadOver (lookup other.name (underNames later items)) next result other) := by
            intro next set
            apply ih laterDistinct
            intro other member
            have different : other ≠ field := fun same => absent (same ▸ member)
            exact (NodeFields.lacks_congr (set.agreeOn_of_ne different)).mp
              (laterUnset other member)
          rw [underNames, List.map_cons, List.zip_cons_cons, ← underNames,
            forall_readOver_cons_iff (not_mem_underNames absent items),
            fieldsOfItems_cons_eq_ok_iff, List.length_cons, List.length_cons,
            Nat.add_le_add_iff_right]
          constructor
          · rintro ⟨_, _, next, ⟨rfl, rfl⟩, set, read⟩
            rcases (rest next set).mp read with ⟨short, readOver⟩
            exact ⟨short, next, fieldUnset, set, readOver⟩
          · rintro ⟨short, next, -, set, readOver⟩
            exact ⟨field, later, next, rfl, set, (rest next set).mpr ⟨short, readOver⟩⟩

theorem lookup_underNames (field : NodeField) (items : List Value) :
    lookup field.name (underNames NodeField.order items) = items[field.place]? := by
  match items with
  | [] | [_] | [_, _] | [_, _, _] | _ :: _ :: _ :: _ :: _ =>
      cases field <;>
        simp [underNames, NodeField.order, NodeField.name, NodeField.place, lookup]

/-! ## Whole nodes -/

/-- The fields of a node have been read from what it holds for them. -/
def FieldsHeld (node : Value) (fields : NodeFields) : Prop :=
  ∀ field : NodeField, ReadFrom (heldFor? node field) fields field

theorem fieldsHeld_iff {node : Value} {fields : NodeFields} :
    FieldsHeld node fields ↔
      readOptional kindOfJson (heldFor? node .nodeType) = .ok fields.kind ∧
      readOptional textOfJson (heldFor? node .value) = .ok fields.value ∧
      readOptional childOfJson (heldFor? node .left) = .ok fields.left ∧
      readOptional childOfJson (heldFor? node .right) = .ok fields.right := by
  constructor
  · intro held
    exact ⟨readFrom_iff.mp (held .nodeType), readFrom_iff.mp (held .value),
      readFrom_iff.mp (held .left), readFrom_iff.mp (held .right)⟩
  · rintro ⟨kindRead, textRead, leftRead, rightRead⟩ field
    apply readFrom_iff.mpr
    cases field with
    | nodeType => exact kindRead
    | value => exact textRead
    | left => exact leftRead
    | right => exact rightRead

section

variable {node : Value} {fields : NodeFields} (held : FieldsHeld node fields)

include held

theorem kind_eq_some_iff {kind : Kind} :
    fields.kind = some kind ↔
      ∃ value, heldFor? node .nodeType = some value ∧ NamesKind value kind := by
  have read := (fieldsHeld_iff.mp held).1
  simp only [← kindOfJson_eq_ok_iff, ← readOptional_eq_ok_some_iff, read, Except.ok.injEq]

theorem kind_eq_none_iff : fields.kind = none ↔ heldFor? node .nodeType = none := by
  have read := (fieldsHeld_iff.mp held).1
  constructor
  · intro unset
    exact readOptional_eq_ok_none_iff.mp (unset ▸ read)
  · intro missing
    rw [missing] at read
    exact (Except.ok.inj read).symm

theorem value_eq_some_iff {text : String} :
    fields.value = some text ↔ heldFor? node .value = some (.string text) := by
  have read := (fieldsHeld_iff.mp held).2.1
  constructor
  · intro set
    rcases readOptional_eq_ok_some_iff.mp (set ▸ read) with ⟨value, found, textRead⟩
    rw [found, textOfJson_eq_ok_iff.mp textRead]
  · intro found
    rw [found] at read
    exact (Except.ok.inj read).symm

theorem value_eq_none_iff : fields.value = none ↔ heldFor? node .value = none := by
  have read := (fieldsHeld_iff.mp held).2.1
  constructor
  · intro unset
    exact readOptional_eq_ok_none_iff.mp (unset ▸ read)
  · intro missing
    rw [missing] at read
    exact (Except.ok.inj read).symm

end

/-- A node with fields that form a rule is read as that rule. -/
theorem childOfJson_eq_some_iff {node : Value} {rule : Rule} :
    childOfJson node = .ok (some rule) ↔
      HasNodeShape node ∧ ∃ fields, FieldsHeld node fields ∧ fields.namedRule = .ok rule := by
  cases node with
  | object members =>
      rw [childOfJson_object_eq_ok_iff]
      constructor
      · rintro ⟨fields, read, named, formed, same⟩
        cases same
        exact ⟨.object, fields, named, formed⟩
      · rintro ⟨-, fields, held, formed⟩
        exact ⟨fields, rule, held, formed, rfl⟩
  | array items =>
      have unset : ∀ field ∈ NodeField.order, NodeFields.none.Lacks field := by
        rintro (_ | _ | _ | _) - <;> rfl
      have read : ∀ fields, fieldsOfItems NodeField.order NodeFields.none items = .ok fields ↔
          items.length ≤ 4 ∧ FieldsHeld (.array items) fields := by
        intro fields
        rw [fieldsOfItems_eq_ok_iff (by decide) unset]
        simp only [lookup_underNames, readOver_none_iff]
        rfl
      rw [childOfJson_array_eq_ok_iff]
      constructor
      · rintro ⟨fields, actual, itemsRead, formed, same⟩
        cases same
        rcases (read fields).mp itemsRead with ⟨short, held⟩
        rcases NodeFields.namedRule_eq_ok_iff.mp formed with ⟨kind, text, -, text_eq, -⟩
        have second : items[1]? = some (.string text) := (value_eq_some_iff held).mp text_eq
        have long : 1 < items.length := (List.getElem?_eq_some_iff.mp second).1
        exact ⟨.array long short, fields, held, formed⟩
      · rintro ⟨shape, fields, held, formed⟩
        cases shape with
        | array long short =>
            exact ⟨fields, rule, (read fields).mpr ⟨short, held⟩, formed, rfl⟩
  | null | bool flag | number number | string text =>
      simp only [childOfJson]
      constructor
      · intro read
        cases read
      · rintro ⟨shape, -⟩
        cases shape

/-- What is read as a rule has the shape of a node, a kind, a text, and children
that fit the kind. -/
theorem childOfJson_eq_some_iff_parts {node : Value} {rule : Rule} :
    childOfJson node = .ok (some rule) ↔
      HasNodeShape node ∧ ∃ kindValue kind text left right,
        heldFor? node .nodeType = some kindValue ∧ NamesKind kindValue kind ∧
        heldFor? node .value = some (.string text) ∧
        readOptional childOfJson (heldFor? node .left) = .ok left ∧
        readOptional childOfJson (heldFor? node .right) = .ok right ∧
        ofNode kind text (left.getD none) (right.getD none) = .ok rule := by
  rw [childOfJson_eq_some_iff]
  apply and_congr_right'
  constructor
  · rintro ⟨fields, held, formed⟩
    rcases NodeFields.namedRule_eq_ok_iff.mp formed with ⟨kind, text, kind_eq, text_eq, node_eq⟩
    rcases (kind_eq_some_iff held).mp kind_eq with ⟨kindValue, found, named⟩
    rcases fieldsHeld_iff.mp held with ⟨-, -, leftRead, rightRead⟩
    exact ⟨kindValue, kind, text, fields.left, fields.right, found, named,
      (value_eq_some_iff held).mp text_eq, leftRead, rightRead, node_eq⟩
  · rintro ⟨kindValue, kind, text, left, right, kindFound, named, textFound, leftRead, rightRead,
      node_eq⟩
    have kindRead : readOptional kindOfJson (heldFor? node .nodeType) = .ok (some kind) :=
      readOptional_eq_ok_some_iff.mpr ⟨kindValue, kindFound, kindOfJson_eq_ok_iff.mpr named⟩
    have textRead : readOptional textOfJson (heldFor? node .value) = .ok (some text) :=
      readOptional_eq_ok_some_iff.mpr ⟨_, textFound, textOfJson_eq_ok_iff.mpr rfl⟩
    exact ⟨⟨some kind, some text, left, right⟩,
      fieldsHeld_iff.mpr ⟨kindRead, textRead, leftRead, rightRead⟩,
      NodeFields.namedRule_eq_ok_iff.mpr ⟨kind, text, rfl, rfl, node_eq⟩⟩

theorem exists_readOptional_of_isAbsent {found : Option Value} (absent : IsAbsent found) :
    ∃ child, readOptional childOfJson found = .ok child ∧ child.getD none = none := by
  rcases absent with rfl | rfl
  · exact ⟨none, rfl, rfl⟩
  · exact ⟨some none,
      readOptional_eq_ok_some_iff.mpr ⟨_, rfl, childOfJson_eq_none_iff.mpr rfl⟩, rfl⟩

/-- What decodes to a rule is read as that rule. -/
theorem childOfJson_of_decodes {node : Value} {rule : Rule} (decodes : Decodes node rule) :
    childOfJson node = .ok (some rule) := by
  induction decodes with
  | leaf shape kindFound named textFound leftAbsent rightAbsent =>
      rcases exists_readOptional_of_isAbsent leftAbsent with ⟨left, leftRead, left_eq⟩
      rcases exists_readOptional_of_isAbsent rightAbsent with ⟨right, rightRead, right_eq⟩
      exact childOfJson_eq_some_iff_parts.mpr
        ⟨shape, _, _, _, left, right, kindFound, named, textFound, leftRead, rightRead,
          by rw [left_eq, right_eq]; rfl⟩
  | join shape kindFound named textFound leftFound _ _ rightFound _ _ leftRead rightRead =>
      exact childOfJson_eq_some_iff_parts.mpr
        ⟨shape, _, _, _, some (some _), some (some _), kindFound, named, textFound,
          readOptional_eq_ok_some_iff.mpr ⟨_, leftFound, leftRead⟩,
          readOptional_eq_ok_some_iff.mpr ⟨_, rightFound, rightRead⟩, rfl⟩

/-- A value that is read as a rule decodes to it. -/
theorem decodes_of_childOfJson {node : Value} {rule : Rule}
    (read : childOfJson node = .ok (some rule)) : Decodes node rule := by
  induction rule generalizing node with
  | leaf condition =>
      rcases childOfJson_eq_some_iff_parts.mp read with
        ⟨shape, kindValue, kind, text, left, right, kindFound, named, textFound, leftRead,
          rightRead, node_eq⟩
      rcases ofNode_eq_ok_iff.mp node_eq with
        ⟨rfl, left_eq, right_eq, rule_eq⟩ | ⟨-, _, _, -, -, rule_eq⟩
      · cases rule_eq
        exact .leaf shape kindFound named textFound
          ((getD_eq_none_iff_isAbsent leftRead).mp left_eq)
          ((getD_eq_none_iff_isAbsent rightRead).mp right_eq)
      · cases rule_eq
  | join connective leftRule rightRule leftDecodes rightDecodes =>
      rcases childOfJson_eq_some_iff_parts.mp read with
        ⟨shape, kindValue, kind, text, left, right, kindFound, named, textFound, leftRead,
          rightRead, node_eq⟩
      rcases ofNode_eq_ok_iff.mp node_eq with
        ⟨-, -, -, rule_eq⟩ | ⟨rfl, _, _, left_eq, right_eq, rule_eq⟩
      · cases rule_eq
      · cases rule_eq
        rcases (getD_eq_some_iff leftRead).mp left_eq with ⟨leftValue, leftFound, leftOk⟩
        rcases (getD_eq_some_iff rightRead).mp right_eq with ⟨rightValue, rightFound, rightOk⟩
        exact .join shape kindFound named textFound leftFound (ne_null_of_childOfJson leftOk)
          (leftDecodes leftOk) rightFound (ne_null_of_childOfJson rightOk) (rightDecodes rightOk)

/-! ## Faults of an object -/

/-- What is wrong with what a field of a node was given: a kind or a text that is
none, or a child that is not null and no node either. -/
def FieldFault (found : Value) : NodeField → DecodeFault → Prop
  | .nodeType, fault => kindOfJson found = .error fault
  | .value, fault => textOfJson found = .error fault
  | .left, fault | .right, fault => found ≠ .null ∧ ofJson found = .error fault

/-- A field of an object is there and cannot be read. -/
def Unreadable (members : List (String × Value)) (field : NodeField) (fault : DecodeFault) : Prop :=
  ∃ found, lookup field.name members = some found ∧ FieldFault found field fault

/-- A field of an object is left out or can be read. -/
def Readable (members : List (String × Value)) (field : NodeField) : Prop :=
  ∀ fault, ¬ Unreadable members field fault

/-- What an object is blamed for that decodes to no rule. -/
inductive ObjectFault (members : List (String × Value)) : DecodeFault → Prop
  | unreadable {field : NodeField} {fault : DecodeFault} : Unreadable members field fault →
      (∀ earlier ∈ field.readBefore, Readable members earlier) →
      ObjectFault members fault
  | noType : (∀ field, Readable members field) → lookup NodeField.nodeType.name members = none →
      ObjectFault members (.missingField .nodeType)
  | noValue {kind : Value} : (∀ field, Readable members field) →
      lookup NodeField.nodeType.name members = some kind →
      lookup NodeField.value.name members = none → ObjectFault members (.missingField .value)
  | strayChildren {kind : Value} {text : String} : (∀ field, Readable members field) →
      lookup NodeField.nodeType.name members = some kind → NamesKind kind .operand →
      lookup NodeField.value.name members = some (.string text) →
      ¬ (IsAbsent (lookup NodeField.left.name members) ∧
        IsAbsent (lookup NodeField.right.name members)) →
      ObjectFault members (.strayChildren text)
  | lackingChildren {kind : Value} {text : String} : (∀ field, Readable members field) →
      lookup NodeField.nodeType.name members = some kind → NamesKind kind .operator →
      lookup NodeField.value.name members = some (.string text) →
      IsAbsent (lookup NodeField.left.name members) ∨
        IsAbsent (lookup NodeField.right.name members) →
      ObjectFault members (.lackingChildren text)

/-- A child cannot be read if it is not null and no rule can be read from it. -/
theorem childOfJson_eq_error_iff {value : Value} {fault : DecodeFault} :
    childOfJson value = .error fault ↔ value ≠ .null ∧ ofJson value = .error fault := by
  rw [ofJson]
  cases read : childOfJson value with
  | error actual =>
      have present : value ≠ .null := by
        rintro rfl
        rw [childOfJson] at read
        cases read
      simp [present]
  | ok child =>
      cases child with
      | none => simp [childOfJson_eq_none_iff.mp read]
      | some rule => simp

/-- Each field has its own reader, which fails if the field cannot be read. -/
theorem unreadable_iff {members : List (String × Value)} {field : NodeField}
    {fault : DecodeFault} :
    Unreadable members field fault ↔ match field with
      | .nodeType =>
          readOptional kindOfJson (lookup NodeField.nodeType.name members) = .error fault
      | .value =>
          readOptional textOfJson (lookup NodeField.value.name members) = .error fault
      | .left =>
          readOptional childOfJson (lookup NodeField.left.name members) = .error fault
      | .right =>
          readOptional childOfJson (lookup NodeField.right.name members) = .error fault := by
  cases field <;>
    simp only [Unreadable, FieldFault, readOptional_eq_error_iff, childOfJson_eq_error_iff]

/-- The reader of a field that can be read has a result. -/
theorem readable_iff {members : List (String × Value)} {field : NodeField} :
    Readable members field ↔ match field with
      | .nodeType =>
          ∃ kind, readOptional kindOfJson (lookup NodeField.nodeType.name members) = .ok kind
      | .value =>
          ∃ text, readOptional textOfJson (lookup NodeField.value.name members) = .ok text
      | .left =>
          ∃ child, readOptional childOfJson (lookup NodeField.left.name members) = .ok child
      | .right =>
          ∃ child, readOptional childOfJson (lookup NodeField.right.name members) = .ok child := by
  cases field <;>
    simp only [Readable, ← ne_eq, unreadable_iff, forall_ne_error_iff]

/-- An object is refused for the first field that cannot be read, or for the
fields that have been read from it. -/
theorem childOfJson_object_eq_error_iff {members : List (String × Value)} {fault : DecodeFault} :
    childOfJson (.object members) = .error fault ↔
      (∃ field, Unreadable members field fault ∧
        ∀ earlier ∈ field.readBefore, Readable members earlier) ∨
      ∃ fields, FieldsHeld (.object members) fields ∧ fields.namedRule = .error fault := by
  simp only [childOfJson, bind, bind_eq_error_iff, childNamed_eq_readOptional, reduceCtorEq,
    and_false, exists_const, or_false]
  constructor
  · rintro (leftFails | ⟨left, leftRead, typeFails | ⟨kind, kindRead, rightFails |
      ⟨right, rightRead, textFails | ⟨text, textRead, formed⟩⟩⟩⟩)
    · exact .inl ⟨.left, unreadable_iff.mpr leftFails, List.forall_mem_nil _⟩
    all_goals have leftReadable : Readable members .left := readable_iff.mpr ⟨left, leftRead⟩
    · exact .inl ⟨.nodeType, unreadable_iff.mpr typeFails,
        List.forall_mem_singleton.mpr leftReadable⟩
    all_goals have typeReadable : Readable members .nodeType := readable_iff.mpr ⟨kind, kindRead⟩
    · exact .inl ⟨.right, unreadable_iff.mpr rightFails,
        List.forall_mem_cons.mpr ⟨leftReadable, List.forall_mem_singleton.mpr typeReadable⟩⟩
    · have rightReadable : Readable members .right := readable_iff.mpr ⟨right, rightRead⟩
      exact .inl ⟨.value, unreadable_iff.mpr textFails, List.forall_mem_cons.mpr ⟨leftReadable,
        List.forall_mem_cons.mpr ⟨typeReadable, List.forall_mem_singleton.mpr rightReadable⟩⟩⟩
    · exact .inr ⟨⟨kind, text, left, right⟩,
        fieldsHeld_iff.mpr ⟨kindRead, textRead, leftRead, rightRead⟩, formed⟩
  · rintro (⟨field, unreadable, earlierRead⟩ | ⟨fields, held, formed⟩)
    · have fails := unreadable_iff.mp unreadable
      cases field with
      | left => exact .inl fails
      | nodeType =>
          rcases readable_iff.mp (List.forall_mem_singleton.mp earlierRead) with ⟨left, leftRead⟩
          exact .inr ⟨left, leftRead, .inl fails⟩
      | right =>
          rcases List.forall_mem_cons.mp earlierRead with ⟨leftReadable, others⟩
          rcases readable_iff.mp leftReadable with ⟨left, leftRead⟩
          rcases readable_iff.mp (List.forall_mem_singleton.mp others) with ⟨kind, kindRead⟩
          exact .inr ⟨left, leftRead, .inr ⟨kind, kindRead, .inl fails⟩⟩
      | value =>
          rcases List.forall_mem_cons.mp earlierRead with ⟨leftReadable, others⟩
          rcases List.forall_mem_cons.mp others with ⟨typeReadable, others⟩
          rcases readable_iff.mp leftReadable with ⟨left, leftRead⟩
          rcases readable_iff.mp typeReadable with ⟨kind, kindRead⟩
          rcases readable_iff.mp (List.forall_mem_singleton.mp others) with ⟨right, rightRead⟩
          exact .inr ⟨left, leftRead, .inr ⟨kind, kindRead, .inr ⟨right, rightRead, .inl fails⟩⟩⟩
    · rcases fieldsHeld_iff.mp held with ⟨kindRead, textRead, leftRead, rightRead⟩
      exact .inr ⟨fields.left, leftRead, .inr ⟨fields.kind, kindRead,
        .inr ⟨fields.right, rightRead, .inr ⟨fields.value, textRead, formed⟩⟩⟩⟩

/-- Members of which every field can be read give fields. -/
theorem exists_fieldsHeld_iff {members : List (String × Value)} :
    (∃ fields, FieldsHeld (.object members) fields) ↔ ∀ field, Readable members field := by
  constructor
  · rintro ⟨fields, held⟩ field
    apply readable_iff.mpr
    have read := readFrom_iff.mp (held field)
    cases field with
    | nodeType | value | left | right => exact ⟨_, read⟩
  · intro readable
    rcases readable_iff.mp (readable .nodeType) with ⟨kind, kindRead⟩
    rcases readable_iff.mp (readable .value) with ⟨text, textRead⟩
    rcases readable_iff.mp (readable .left) with ⟨left, leftRead⟩
    rcases readable_iff.mp (readable .right) with ⟨right, rightRead⟩
    exact ⟨⟨kind, text, left, right⟩,
      fieldsHeld_iff.mpr ⟨kindRead, textRead, leftRead, rightRead⟩⟩

/-- What the fields of a node lack, said of the node. -/
theorem namedRule_eq_error_iff_of_held {node : Value} {fields : NodeFields} {fault : DecodeFault}
    (held : FieldsHeld node fields) :
    fields.namedRule = .error fault ↔
      heldFor? node .nodeType = none ∧ .missingField .nodeType = fault ∨
      (∃ value, heldFor? node .nodeType = some value) ∧ heldFor? node .value = none ∧
        .missingField .value = fault ∨
      ∃ value kind text, heldFor? node .nodeType = some value ∧ NamesKind value kind ∧
        heldFor? node .value = some (.string text) ∧
        (kind = .operand ∧ ¬ (IsAbsent (heldFor? node .left) ∧ IsAbsent (heldFor? node .right)) ∧
            .strayChildren text = fault ∨
          kind = .operator ∧ (IsAbsent (heldFor? node .left) ∨ IsAbsent (heldFor? node .right)) ∧
            .lackingChildren text = fault) := by
  rcases fieldsHeld_iff.mp held with ⟨-, -, leftRead, rightRead⟩
  rw [NodeFields.namedRule_eq_error_iff, ← kind_eq_none_iff held, ← value_eq_none_iff held]
  simp only [ofNode_eq_error_iff, getD_eq_none_iff_isAbsent leftRead,
    getD_eq_none_iff_isAbsent rightRead, ← value_eq_some_iff held]
  apply or_congr Iff.rfl
  apply or_congr
  · apply and_congr_left'
    exact (not_congr (kind_eq_none_iff held)).trans Option.ne_none_iff_exists'
  · constructor
    · rintro ⟨kind, text, kind_eq, text_eq, children⟩
      rcases (kind_eq_some_iff held).mp kind_eq with ⟨value, found, named⟩
      exact ⟨value, kind, text, found, named, text_eq, children⟩
    · rintro ⟨value, kind, text, found, named, text_eq, children⟩
      exact ⟨kind, text, (kind_eq_some_iff held).mpr ⟨value, found, named⟩, text_eq, children⟩

/-- An object that is read as no rule has a fault, and exactly the fault that it
is blamed for is reported. -/
theorem ofJson_object_eq_error_iff {members : List (String × Value)} {fault : DecodeFault} :
    ofJson (.object members) = .error fault ↔ ObjectFault members fault := by
  have refused : ofJson (.object members) = .error fault ↔
      childOfJson (.object members) = .error fault := by
    rw [childOfJson_eq_error_iff]
    exact (and_iff_right nofun).symm
  rw [refused, childOfJson_object_eq_error_iff]
  constructor
  · rintro (⟨field, unreadable, earlierRead⟩ | ⟨fields, held, formed⟩)
    · exact .unreadable unreadable earlierRead
    · have readable := exists_fieldsHeld_iff.mp ⟨fields, held⟩
      rcases (namedRule_eq_error_iff_of_held held).mp formed with
        ⟨missing, rfl⟩ | ⟨⟨kind, found⟩, missing, rfl⟩ |
          ⟨value, kind, text, found, named, textFound, ⟨rfl, present, rfl⟩ | ⟨rfl, absent, rfl⟩⟩
      · exact .noType readable missing
      · exact .noValue readable found missing
      · exact .strayChildren readable found named textFound present
      · exact .lackingChildren readable found named textFound absent
  · intro blamed
    have later (readable : ∀ field, Readable members field)
        (formed : ∀ fields, FieldsHeld (.object members) fields →
          fields.namedRule = .error fault) :
        ∃ fields, FieldsHeld (.object members) fields ∧ fields.namedRule = .error fault := by
      rcases exists_fieldsHeld_iff.mpr readable with ⟨fields, held⟩
      exact ⟨fields, held, formed fields held⟩
    cases blamed with
    | unreadable unreadable earlierRead => exact .inl ⟨_, unreadable, earlierRead⟩
    | noType readable missing =>
        refine .inr (later readable fun fields held => ?_)
        exact (namedRule_eq_error_iff_of_held held).mpr (.inl ⟨missing, rfl⟩)
    | noValue readable found missing =>
        refine .inr (later readable fun fields held => ?_)
        exact (namedRule_eq_error_iff_of_held held).mpr (.inr (.inl ⟨⟨_, found⟩, missing, rfl⟩))
    | strayChildren readable found named textFound present =>
        refine .inr (later readable fun fields held => ?_)
        exact (namedRule_eq_error_iff_of_held held).mpr
          (.inr (.inr ⟨_, _, _, found, named, textFound, .inl ⟨rfl, present, rfl⟩⟩))
    | lackingChildren readable found named textFound absent =>
        refine .inr (later readable fun fields held => ?_)
        exact (namedRule_eq_error_iff_of_held held).mpr
          (.inr (.inr ⟨_, _, _, found, named, textFound, .inr ⟨rfl, absent, rfl⟩⟩))

/-- A value is read as a rule exactly if it decodes to that rule, so no node that
is half a leaf and half a join is ever read.  What is reported about an object
that is read as no rule is the fault that it is blamed for. -/
theorem ofJson_decodes_or_blames :
    (∀ (value : Value) (rule : Rule), ofJson value = .ok rule ↔ Decodes value rule) ∧
    ∀ (members : List (String × Value)) (fault : DecodeFault),
      ofJson (.object members) = .error fault ↔ ObjectFault members fault := by
  constructor
  · intro value rule
    rw [ofJson_eq_ok_iff_childOfJson]
    exact ⟨decodes_of_childOfJson, childOfJson_of_decodes⟩
  · exact fun members fault => ofJson_object_eq_error_iff

/-- The fault inside the left child comes before that of the kind and before the
text that is missing. -/
example :
    ofJson (.object [("nodeType", .string "leaf"),
      ("left", .object [("nodeType", .string "operand")])]) = .error (.missingField .value) := by
  decide +kernel

end Rule

end Eligibility
