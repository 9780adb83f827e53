import Eligibility.Proofs.Failure
import Eligibility.Rule.Wire.FromJson
import Eligibility.Rule.Wire.FromText
import Mathlib.Logic.Basic

/-!
# Nodes that are read

A node is read field by field.  Both readers of the wire form set one field at a
time, each in its own order, and put the node together at the end.  What they can
do to the fields in one step is the same for both, given what each of them takes
for a kind, for a text and for a child.
-/

namespace Eligibility

namespace Kind

theorem ofName?_eq_some_iff {name : String} {kind : Kind} :
    ofName? name = some kind ↔ name = kind.name := by
  constructor
  · intro read
    unfold ofName? at read
    cases kind <;> grind [Kind.name]
  · rintro rfl
    exact ofName?_name kind

end Kind

namespace NodeField

theorem ofName?_eq_some_iff {name : String} {field : NodeField} :
    ofName? name = some field ↔ name = field.name := by
  constructor
  · intro read
    unfold ofName? at read
    cases field <;> grind [NodeField.name]
  · rintro rfl
    exact ofName?_name field

theorem name_injective {field other : NodeField} (same : field.name = other.name) :
    field = other := by
  have read := ofName?_name field
  rw [same, ofName?_name] at read
  exact (Option.some.inj read).symm

end NodeField

namespace NodeFields

/-- A field has not been set. -/
def Lacks (fields : NodeFields) : NodeField → Prop
  | .nodeType => fields.kind = .none
  | .value => fields.value = .none
  | .left => fields.left = .none
  | .right => fields.right = .none

/-- Setting one field, to something that a reader takes for its value. -/
inductive Sets (isKind : Kind → Prop) (isText : String → Prop) (isChild : Option Rule → Prop)
    (known : NodeFields) : NodeField → NodeFields → Prop
  | nodeType {kind : Kind} : isKind kind →
      Sets isKind isText isChild known .nodeType { known with kind := some kind }
  | value {text : String} : isText text →
      Sets isKind isText isChild known .value { known with value := some text }
  | left {child : Option Rule} : isChild child →
      Sets isKind isText isChild known .left { known with left := some child }
  | right {child : Option Rule} : isChild child →
      Sets isKind isText isChild known .right { known with right := some child }

/-- What it means to set a given field. -/
theorem sets_iff {isKind : Kind → Prop} {isText : String → Prop} {isChild : Option Rule → Prop}
    {known next : NodeFields} {field : NodeField} :
    Sets isKind isText isChild known field next ↔ match field with
      | .nodeType => ∃ kind, isKind kind ∧ { known with kind := some kind } = next
      | .value => ∃ text, isText text ∧ { known with value := some text } = next
      | .left => ∃ child, isChild child ∧ { known with left := some child } = next
      | .right => ∃ child, isChild child ∧ { known with right := some child } = next := by
  constructor
  · intro set
    cases set with
    | nodeType fits | value fits | left fits | right fits => exact ⟨_, fits, rfl⟩
  · intro set
    cases field with
    | nodeType | value | left | right =>
        rcases set with ⟨_, fits, rfl⟩
        constructor
        exact fits

/-- Readers that take the same things for values set the same fields. -/
theorem sets_congr {isKind isKind' : Kind → Prop} {isText isText' : String → Prop}
    {isChild isChild' : Option Rule → Prop} (kinds : ∀ kind, isKind kind ↔ isKind' kind)
    (texts : ∀ text, isText text ↔ isText' text)
    (children : ∀ child, isChild child ↔ isChild' child) {known next : NodeFields}
    {field : NodeField} :
    Sets isKind isText isChild known field next ↔
      Sets isKind' isText' isChild' known field next := by
  have sameKinds : isKind = isKind' := funext fun kind => propext (kinds kind)
  have sameTexts : isText = isText' := funext fun text => propext (texts text)
  have sameChildren : isChild = isChild' := funext fun child => propext (children child)
  rw [sameKinds, sameTexts, sameChildren]

theorem namedRule_eq_ok_iff {fields : NodeFields} {rule : Rule} :
    fields.namedRule = .ok rule ↔
      ∃ kind value, fields.kind = some kind ∧ fields.value = some value ∧
        Rule.ofNode kind value (fields.left.getD .none) (fields.right.getD .none) =
          .ok rule := by
  rcases fields with ⟨_ | kind, _ | value, left, right⟩ <;> simp [namedRule]

theorem namedRule_eq_error_iff {fields : NodeFields} {fault : DecodeFault} :
    fields.namedRule = .error fault ↔
      fields.kind = .none ∧ .missingField .nodeType = fault ∨
      fields.kind ≠ .none ∧ fields.value = .none ∧ .missingField .value = fault ∨
      ∃ kind value, fields.kind = some kind ∧ fields.value = some value ∧
        Rule.ofNode kind value (fields.left.getD .none) (fields.right.getD .none) =
          .error fault := by
  rcases fields with ⟨_ | kind, _ | value, left, right⟩ <;> simp [namedRule]

theorem listedRule_eq_ok_iff {fields : NodeFields} {rule : Rule} :
    fields.listedRule = .ok rule ↔ fields.namedRule = .ok rule := by
  rcases fields with ⟨_ | kind, _ | value, left, right⟩ <;> simp [namedRule, listedRule]

end NodeFields

namespace Rule

open Json (Raw)
open NodeFields (Sets)

theorem ofNode_eq_ok_iff {kind : Kind} {value : String} {left right : Option Rule}
    {rule : Rule} :
    ofNode kind value left right = .ok rule ↔
      (kind = .operand ∧ left = none ∧ right = none ∧ leaf value = rule) ∨
      (kind = .operator ∧ ∃ leftRule rightRule, left = some leftRule ∧
        right = some rightRule ∧ join value leftRule rightRule = rule) := by
  cases kind <;> cases left <;> cases right <;> simp [ofNode]

theorem ofNode_eq_error_iff {kind : Kind} {value : String} {left right : Option Rule}
    {fault : DecodeFault} :
    ofNode kind value left right = .error fault ↔
      kind = .operand ∧ ¬ (left = none ∧ right = none) ∧ .strayChildren value = fault ∨
      kind = .operator ∧ (left = none ∨ right = none) ∧ .lackingChildren value = fault := by
  cases kind <;> cases left <;> cases right <;> simp [ofNode]

theorem takeField_eq_ok_iff {α : Type} {field : NodeField} {known result : Option α}
    {read : Except WireError α} :
    takeField field known read = .ok result ↔
      known = none ∧ ∃ value, read = .ok value ∧ some value = result := by
  cases known with
  | none => simp [takeField, map_eq_ok_iff]
  | some value => simp [takeField]

theorem closeNode_eq_ok_iff {closed : Bool} {rule : Except DecodeFault Rule}
    {child : Option Rule} :
    closeNode closed rule = .ok child ↔
      closed = true ∧ ∃ whole, rule = .ok whole ∧ some whole = child := by
  cases closed <;> cases rule <;> simp [closeNode]

/-! ## One step of reading a text -/

/-- A value of a text is read as one field of a node. -/
abbrev SetsFromRaw (levels : Nat) (raw : Raw) : NodeFields → NodeField → NodeFields → Prop :=
  Sets (fun kind => kindOfRaw levels raw = .ok kind) (fun text => textOfRaw raw = .ok text)
    (fun child => childOfRaw levels raw = .ok child)

/-- One more member sets a field that was not set, or is passed over. -/
theorem fieldsOfMembers_cons_eq_ok_iff {levels : Nat} {known result : NodeFields}
    {key : Option String} {raw : Raw} {members : List (Option String × Raw)} :
    fieldsOfMembers levels known ((key, raw) :: members) = .ok result ↔
      ∃ name, key = some name ∧
        ((∃ field next, NodeField.ofName? name = some field ∧ known.Lacks field ∧
            SetsFromRaw levels raw known field next ∧
            fieldsOfMembers levels next members = .ok result) ∨
          (NodeField.ofName? name = none ∧ raw.isWhole = true ∧
            fieldsOfMembers levels known members = .ok result)) := by
  cases key with
  | none => simp [fieldsOfMembers]
  | some name =>
      simp only [Option.some.injEq, exists_eq_left']
      rw [fieldsOfMembers]
      cases named : NodeField.ofName? name with
      | none => cases raw.isWhole <;> simp
      | some field =>
          cases field with
          | nodeType | value | left | right =>
              simp [bind, bind_eq_ok_iff, takeField_eq_ok_iff, NodeFields.sets_iff,
                NodeFields.Lacks, and_assoc]

/-- One more item sets the first field that is still to come. -/
theorem fieldsOfRawItems_cons_eq_ok_iff {levels : Nat} {order : List NodeField}
    {known result : NodeFields} {item : Raw} {items : List Raw} :
    fieldsOfRawItems levels order known (item :: items) = .ok result ↔
      ∃ field later next, order = field :: later ∧ SetsFromRaw levels item known field next ∧
        fieldsOfRawItems levels later next items = .ok result := by
  cases order with
  | nil => simp [fieldsOfRawItems]
  | cons field later =>
      simp only [List.cons.injEq, and_assoc, exists_and_left, exists_eq_left']
      cases field with
      | nodeType | value | left | right =>
          rw [fieldsOfRawItems]
          simp [bind, bind_eq_ok_iff, NodeFields.sets_iff]

/-! ## What is read as a child -/

theorem childOfRaw_eq_none_iff {levels : Nat} {raw : Raw} :
    childOfRaw levels raw = .ok none ↔ raw = .null := by
  cases levels <;> cases raw <;>
    simp [childOfRaw, bind, bind_eq_ok_iff, closeNode_eq_ok_iff]

/-- Nothing is read as a rule where no object may be nested. -/
theorem childOfRaw_zero_ne_some (raw : Raw) (rule : Rule) :
    childOfRaw 0 raw ≠ .ok (some rule) := by
  cases raw <;> simp [childOfRaw]

/-- The closed objects and arrays whose fields form a rule are read as that
rule. -/
theorem childOfRaw_succ_eq_some_iff {levels : Nat} {raw : Raw} {rule : Rule} :
    childOfRaw (levels + 1) raw = .ok (some rule) ↔
      (∃ members fields, raw = .object members true ∧
        fieldsOfMembers levels NodeFields.none members = .ok fields ∧
        fields.namedRule = .ok rule) ∨
      (∃ items fields, raw = .array items true ∧
        fieldsOfRawItems levels NodeField.order NodeFields.none items = .ok fields ∧
        fields.namedRule = .ok rule) := by
  cases raw with
  | object members closed | array items closed =>
      cases closed <;>
        simp [childOfRaw, bind, bind_eq_ok_iff, closeNode_eq_ok_iff,
          NodeFields.listedRule_eq_ok_iff]
  | null | bool value | number numeral | string text | missing => simp [childOfRaw]

/-- A text is read as a rule if its document is, and nothing follows it. -/
theorem ofWire_eq_ok_iff {text : String} {rule : Rule} :
    ofWire text = .ok rule ↔
      childOfRaw Json.nestingLimit (Json.Document.ofText text.toList).root = .ok (some rule) ∧
        (Json.Document.ofText text.toList).trailing = false := by
  rw [ofWire, ofDocument]
  cases childOfRaw Json.nestingLimit (Json.Document.ofText text.toList).root with
  | error error => simp [bind, Except.bind]
  | ok child =>
      cases child with
      | none => simp [bind, Except.bind]
      | some read =>
          cases (Json.Document.ofText text.toList).trailing <;> simp [bind, Except.bind]

theorem ofJson_eq_ok_iff_childOfJson {value : Json.Value} {rule : Rule} :
    ofJson value = .ok rule ↔ childOfJson value = .ok (some rule) := by
  rw [ofJson]
  cases childOfJson value with
  | error fault => simp
  | ok child => cases child <;> simp

end Rule

end Eligibility
