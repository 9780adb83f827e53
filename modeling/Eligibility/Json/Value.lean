import Eligibility.Json.Number

/-!
# JSON values

The members of an object keep the order in which they were written, and a name
may be written more than once.  A name stands for the last of its values, so
every look-up goes through `lookup`, which answers that one.
-/

namespace Eligibility.Json

/-- A JSON value. -/
inductive Value
  | null
  | bool (value : Bool)
  | number (value : Number)
  | string (text : String)
  | array (items : List Value)
  | object (members : List (String × Value))
deriving Inhabited, Repr

/-- The last value that members give for a name. -/
def lookup (name : String) : List (String × Value) → Option Value
  | [] => none
  | (other, value) :: members =>
      match lookup name members with
      | some later => some later
      | none => if other = name then some value else none

@[simp]
theorem lookup_nil (name : String) : lookup name [] = none :=
  rfl

namespace Value

/-- The members of an object. -/
def members? : Value → Option (List (String × Value))
  | object members => some members
  | _ => none

/-- The text of a string. -/
def text? : Value → Option String
  | string text => some text
  | _ => none

/-- The value that an object has under a name. -/
def field? (value : Value) (name : String) : Option Value :=
  value.members?.bind (lookup name)

end Value

end Eligibility.Json
