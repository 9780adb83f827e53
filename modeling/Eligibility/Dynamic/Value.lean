import Eligibility.Number.Double
import Eligibility.Rule.Basic

/-!
# Dynamically typed values

A host without static types hands over values of these kinds.  Its whole numbers
have any size, its floating-point numbers may be infinite or undefined, and its
texts may hold a surrogate that no character stands for.  A value of a derived
type holds a value of the base type, which is read without asking the derived type,
with one exception: a type of whole numbers may define how they are converted to
floating-point numbers.
-/

namespace Eligibility.Dynamic

/-- Why a whole number has no floating-point form. -/
inductive FloatFault
  /-- The number is beyond the finite doubles. -/
  | tooLarge
  /-- The conversion raises an exception of a type of its own choice. -/
  | raised (typeName : String)
deriving DecidableEq, Repr

/-- A value of the host. -/
inductive Value
  | null
  | bool (value : Bool)
  | int (value : Int)
  | float (value : ExtendedDouble)
  | text (value : String)
  /-- A text that goes on with an unpaired surrogate. -/
  | brokenText (start : String)
  | list (items : List Value)
  | tuple (items : List Value)
  | dict (entries : List (Value × Value))
  /-- An instance of a type derived from that of a base value, which acts as that value. -/
  | derived (base : Value)
  /-- A whole number of a derived type that converts its instances to floating-point
  numbers in its own way, with what this gives. -/
  | ownFloat (value : Int) (form : Except FloatFault ExtendedDouble)
  | rule (rule : Rule)
  /-- Any other object, of which only the name of its type is known. -/
  | foreign (typeName : String)
deriving Inhabited, Repr

namespace Value

/-- The value as which a value acts. -/
def base : Value → Value
  | derived value => value.base
  | value => value

/-- The text of a value that acts as a text. -/
def text? (value : Value) : Option String :=
  match value.base with
  | text characters => some characters
  | _ => none

/-- Entries with one more entry, which replaces the value of an earlier entry
for the same text. -/
def putEntry (key value : Value) : List (Value × Value) → List (Value × Value)
  | [] => [(key, value)]
  | (other, old) :: entries =>
      if key.text?.isSome ∧ other.text? = key.text? then (other, value) :: entries
      else (other, old) :: putEntry key value entries

/-- The dictionary into which entries are put one after another. -/
def ofEntries (entries : List (Value × Value)) : Value :=
  .dict (entries.foldl (fun known entry => putEntry entry.1 entry.2 known) [])

end Value

end Eligibility.Dynamic
