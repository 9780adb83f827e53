import Eligibility.Json.Value
import Eligibility.Rule.Wire.Node

/-!
# Reading the wire form from a JSON value

A node is an object, whose other entries are ignored, or an array of two to four
items.  A child that is null or left out is absent.  The fields of an object are
read in the order of their names, and the first one that cannot be read is
reported; a field that is missing is noticed after that, and children that the
kind of the node does not allow come last.
-/

namespace Eligibility.Rule

/-- The kind that a JSON value names: its name, or an object in which that name
alone stands for null. -/
def kindOfJson : Json.Value → Except DecodeFault Kind
  | .string name =>
      match Kind.ofName? name with
      | some kind => .ok kind
      | none => .error (.unknownKind name)
  | .object [] => .error .invalidValue
  | .object ((name, first) :: members) =>
      if members.all fun member => member.1 == name then
        match Kind.ofName? name, Json.lookup name ((name, first) :: members) with
        | some kind, some .null => .ok kind
        | some _, _ => .error .invalidType
        | none, _ => .error (.unknownKind name)
      else .error .invalidValue
  | _ => .error .invalidType

/-- The text that a JSON value is. -/
def textOfJson : Json.Value → Except DecodeFault String
  | .string text => .ok text
  | _ => .error .invalidType

/-- Reads a field that may be left out. -/
def readOptional {α β : Type} (read : α → Except DecodeFault β) :
    Option α → Except DecodeFault (Option β)
  | none => .ok none
  | some value => (read value).map some

mutual

/-- The child that a JSON value is; null is no child. -/
def childOfJson : Json.Value → Except DecodeFault (Option Rule)
  | .null => .ok none
  | .object members => do
      let left ← childNamed NodeField.left.name members
      let kind ← readOptional kindOfJson (Json.lookup NodeField.nodeType.name members)
      let right ← childNamed NodeField.right.name members
      let value ← readOptional textOfJson (Json.lookup NodeField.value.name members)
      let rule ← NodeFields.namedRule { kind, value, left, right }
      .ok (some rule)
  | .array items => do
      let fields ← fieldsOfItems NodeField.order NodeFields.none items
      let rule ← fields.listedRule
      .ok (some rule)
  | _ => .error .invalidType

/-- The child that members give under a name, if they do; the last one counts. -/
def childNamed (name : String) :
    List (String × Json.Value) → Except DecodeFault (Option (Option Rule))
  | [] => .ok none
  | (other, value) :: members =>
      if other = name ∧ Json.lookup name members = none then (childOfJson value).map some
      else childNamed name members

/-- Reads items as the fields that are still to come. -/
def fieldsOfItems : List NodeField → NodeFields → List Json.Value →
    Except DecodeFault NodeFields
  | _, fields, [] => .ok fields
  | .nodeType :: order, fields, item :: items => do
      let kind ← kindOfJson item
      fieldsOfItems order { fields with kind := some kind } items
  | .value :: order, fields, item :: items => do
      let value ← textOfJson item
      fieldsOfItems order { fields with value := some value } items
  | .left :: order, fields, item :: items => do
      let child ← childOfJson item
      fieldsOfItems order { fields with left := some child } items
  | .right :: order, fields, item :: items => do
      let child ← childOfJson item
      fieldsOfItems order { fields with right := some child } items
  | [], _, _ :: _ => .error .invalidLength

end

/-- The rule whose wire form a JSON value is. -/
def ofJson (value : Json.Value) : Except DecodeFault Rule :=
  match childOfJson value with
  | .ok (some rule) => .ok rule
  | .ok none => .error .invalidType
  | .error fault => .error fault

end Eligibility.Rule
