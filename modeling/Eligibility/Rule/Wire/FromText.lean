import Eligibility.Json.Reader
import Eligibility.Rule.Wire.Node

/-!
# Reading the wire form from a text

A text is read as a stream: what comes first in it is reported first, whether
the text stops being JSON there or a node goes wrong.  The fields of an object
may come in any order, but none of them twice, and other entries are passed
over.  A node nested deeper than the limit is reported as if the text stopped
being JSON at its opening bracket.
-/

namespace Eligibility

/-- Why a text is no wire form. -/
inductive WireError
  /-- The text is no JSON. -/
  | notJson
  /-- The text is JSON as far as it was read, but no node. -/
  | decode (fault : DecodeFault)
deriving DecidableEq, Repr

/-- The error at a value of which only the type matters. -/
def WireError.ofType (raw : Json.Raw) : WireError :=
  if raw.showsType then .decode .invalidType else .notJson

namespace Rule

open Json (Raw)

/-- The kind that has a given name. -/
def kindOfName (name : String) : Except WireError Kind :=
  match Kind.ofName? name with
  | some kind => .ok kind
  | none => .error (.decode (.unknownKind name))

/-- The kind that is written: its name, or an object with that name alone,
which stands for null. -/
def kindOfRaw : Nat → Raw → Except WireError Kind
  | _, .string (some name) => kindOfName name
  | _ + 1, .object ((some name, item) :: members) closed => do
      let kind ← kindOfName name
      match item with
      | .null => if members.isEmpty ∧ closed then .ok kind else .error .notJson
      | item => .error (.ofType item)
  | _, _ => .error .notJson

/-- The text that is written. -/
def textOfRaw : Raw → Except WireError String
  | .string (some text) => .ok text
  | raw => .error (.ofType raw)

/-- Takes a field that has been read, unless it is already there. -/
def takeField {α : Type} (field : NodeField) (known : Option α)
    (read : Except WireError α) : Except WireError (Option α) :=
  match known with
  | some _ => .error (.decode (.duplicateField field))
  | none => read.map some

/-- The rule of the fields of a closed object or array. -/
def closeNode (closed : Bool) (rule : Except DecodeFault Rule) :
    Except WireError (Option Rule) :=
  if closed then
    match rule with
    | .ok rule => .ok (some rule)
    | .error fault => .error (.decode fault)
  else .error .notJson

mutual

/-- The child that is written; null is no child. -/
def childOfRaw : Nat → Raw → Except WireError (Option Rule)
  | _, .null => .ok none
  | levels + 1, .object members closed => do
      let fields ← fieldsOfMembers levels NodeFields.none members
      closeNode closed fields.namedRule
  | levels + 1, .array items closed => do
      let fields ← fieldsOfRawItems levels NodeField.order NodeFields.none items
      closeNode closed fields.listedRule
  | 0, .object _ _ => .error .notJson
  | 0, .array _ _ => .error .notJson
  | _, raw => .error (.ofType raw)

/-- Reads the fields that members give. -/
def fieldsOfMembers : Nat → NodeFields → List (Option String × Raw) →
    Except WireError NodeFields
  | _, fields, [] => .ok fields
  | levels, fields, (some name, raw) :: members =>
      match NodeField.ofName? name with
      | some .nodeType => do
          let kind ← takeField .nodeType fields.kind (kindOfRaw levels raw)
          fieldsOfMembers levels { fields with kind } members
      | some .value => do
          let value ← takeField .value fields.value (textOfRaw raw)
          fieldsOfMembers levels { fields with value } members
      | some .left => do
          let left ← takeField .left fields.left (childOfRaw levels raw)
          fieldsOfMembers levels { fields with left } members
      | some .right => do
          let right ← takeField .right fields.right (childOfRaw levels raw)
          fieldsOfMembers levels { fields with right } members
      | none =>
          if raw.isWhole then fieldsOfMembers levels fields members else .error .notJson
  | _, _, _ :: _ => .error .notJson

/-- Reads items as the fields that are still to come. -/
def fieldsOfRawItems : Nat → List NodeField → NodeFields → List Raw →
    Except WireError NodeFields
  | _, _, fields, [] => .ok fields
  | levels, .nodeType :: order, fields, item :: items => do
      let kind ← kindOfRaw levels item
      fieldsOfRawItems levels order { fields with kind := some kind } items
  | levels, .value :: order, fields, item :: items => do
      let value ← textOfRaw item
      fieldsOfRawItems levels order { fields with value := some value } items
  | levels, .left :: order, fields, item :: items => do
      let child ← childOfRaw levels item
      fieldsOfRawItems levels order { fields with left := some child } items
  | levels, .right :: order, fields, item :: items => do
      let child ← childOfRaw levels item
      fieldsOfRawItems levels order { fields with right := some child } items
  | _, [], _, _ :: _ => .error .notJson

end

/-- The rule whose wire form a document is. -/
def ofDocument (levels : Nat) (document : Json.Document) : Except WireError Rule := do
  match ← childOfRaw levels document.root with
  | some rule => if document.trailing then .error .notJson else .ok rule
  | none => .error (.decode .invalidType)

/-- The rule whose wire form a text is. -/
def ofWire (text : String) : Except WireError Rule :=
  ofDocument Json.nestingLimit (Json.Document.ofText text.toList)

end Rule

end Eligibility
