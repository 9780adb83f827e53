import Eligibility.Json.Document
import Eligibility.Json.Value

/-!
# Reading JSON values

A document is a JSON value if nothing in it is missing or left open, every
string has its characters, every numeral has its number, and its arrays and
objects are nested no deeper than a given number of levels.  A reader that only
passes over a value asks for less: neither the depth nor the size of a number
matters then.
-/

namespace Eligibility.Json

/-- How deep the arrays and objects of a text may be nested. -/
def nestingLimit : Nat :=
  127

namespace Raw

mutual

/-- The value that is written, with at most some levels of nesting. -/
def value? : Nat → Raw → Option Value
  | _, .null => some .null
  | _, .bool value => some (.bool value)
  | _, .number numeral => (Number.ofNumeral? numeral).map .number
  | _, .string text => text.map .string
  | levels + 1, .array items true => (itemValues? levels items).map .array
  | levels + 1, .object members true => (memberValues? levels members).map .object
  | _, _ => none

/-- The values of items, each with at most some levels of nesting. -/
def itemValues? : Nat → List Raw → Option (List Value)
  | _, [] => some []
  | levels, item :: items => do
      let value ← value? levels item
      let values ← itemValues? levels items
      return value :: values

/-- The values of members, each with at most some levels of nesting. -/
def memberValues? : Nat → List (Option String × Raw) → Option (List (String × Value))
  | _, [] => some []
  | levels, (some name, item) :: members => do
      let value ← value? levels item
      let values ← memberValues? levels members
      return (name, value) :: values
  | _, _ => none

end

mutual

/-- Whether a value can be passed over. -/
def isWhole : Raw → Bool
  | .array items closed => closed && areWhole items
  | .object members closed => closed && membersAreWhole members
  | .missing => false
  | _ => true

/-- Whether all items can be passed over. -/
def areWhole : List Raw → Bool
  | [] => true
  | item :: items => isWhole item && areWhole items

/-- Whether all members can be passed over. -/
def membersAreWhole : List (Option String × Raw) → Bool
  | [] => true
  | (_, item) :: members => isWhole item && membersAreWhole members

end

end Raw

/-- Whether a value shows its type: a string and a numeral only if they can be
read, an array or object already by its opening bracket. -/
def Raw.showsType : Raw → Bool
  | .string text => text.isSome
  | .number numeral => (Number.ofNumeral? numeral).isSome
  | .missing => false
  | _ => true

/-- The JSON value that a text is, with at most some levels of nesting. -/
def read? (levels : Nat) (text : String) : Option Value :=
  let document := Document.ofText text.toList
  if document.trailing then none else document.root.value? levels

end Eligibility.Json
