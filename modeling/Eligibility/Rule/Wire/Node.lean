import Eligibility.Rule.Basic

/-!
# Nodes of the wire form

In its wire form every node of a rule has four fields: its type, its text and
its two children, which a leaf lacks.  The fields have a fixed order, in which
they are also written as the items of an array.  A node is put together from the
fields that have been read, and no node is ever half a leaf and half a join.
-/

namespace Eligibility

/-- A field of a node, in the order of the fields. -/
inductive NodeField
  | nodeType
  | value
  | left
  | right
deriving DecidableEq, Repr

namespace NodeField

/-- The name of a field. -/
def name : NodeField → String
  | nodeType => "nodeType"
  | value => "value"
  | left => "left"
  | right => "right"

/-- The field that has a given name. -/
def ofName? (name : String) : Option NodeField :=
  if name = "nodeType" then some nodeType
  else if name = "value" then some value
  else if name = "left" then some left
  else if name = "right" then some right
  else none

/-- The fields in the order of the items of an array. -/
def order : List NodeField :=
  [nodeType, value, left, right]

@[simp]
theorem ofName?_name (field : NodeField) : ofName? field.name = some field := by
  cases field <;> decide

end NodeField

/-- Why a JSON value is no node. -/
inductive DecodeFault
  | invalidType
  | invalidLength
  | invalidValue
  /-- A name that is not the name of a kind. -/
  | unknownKind (name : String)
  | missingField (field : NodeField)
  | duplicateField (field : NodeField)
  /-- A leaf with a child. -/
  | strayChildren (value : String)
  /-- A join that lacks a child. -/
  | lackingChildren (value : String)
deriving DecidableEq, Repr

namespace DecodeFault

/-- The wording of a fault. -/
def message : DecodeFault → String
  | invalidType => "invalid type"
  | invalidLength => "invalid length"
  | invalidValue => "invalid value"
  | unknownKind name => "unknown variant `" ++ name ++ "`, expected `operand` or `operator`"
  | missingField field => "missing field `" ++ field.name ++ "`"
  | duplicateField field => "duplicate field `" ++ field.name ++ "`"
  | strayChildren value => "operand node '" ++ value ++ "' must not have children"
  | lackingChildren value => "operator node '" ++ value ++ "' requires both children"

end DecodeFault

namespace Rule

/-- The rule of a node whose fields are known. -/
def ofNode (kind : Kind) (value : String) (left right : Option Rule) :
    Except DecodeFault Rule :=
  match kind, left, right with
  | .operand, none, none => .ok (leaf value)
  | .operand, _, _ => .error (.strayChildren value)
  | .operator, some left, some right => .ok (join value left right)
  | .operator, _, _ => .error (.lackingChildren value)

end Rule

/-- The fields of a node that have been read; a child may have been read as
absent. -/
structure NodeFields where
  kind : Option Kind
  value : Option String
  left : Option (Option Rule)
  right : Option (Option Rule)
deriving Repr

namespace NodeFields

/-- No field has been read. -/
def none : NodeFields :=
  ⟨.none, .none, .none, .none⟩

/-- The rule of a node that is written with names. -/
def namedRule (fields : NodeFields) : Except DecodeFault Rule :=
  match fields.kind, fields.value with
  | .none, _ => .error (.missingField .nodeType)
  | _, .none => .error (.missingField .value)
  | some kind, some value =>
      Rule.ofNode kind value (fields.left.getD .none) (fields.right.getD .none)

/-- The rule of a node that is written as the items of an array. -/
def listedRule (fields : NodeFields) : Except DecodeFault Rule :=
  match fields.kind, fields.value with
  | some kind, some value =>
      Rule.ofNode kind value (fields.left.getD .none) (fields.right.getD .none)
  | _, _ => .error .invalidLength

end NodeFields

end Eligibility
