import Eligibility.Dynamic.Value
import Eligibility.Json.Value
import Eligibility.Number.Rounding

/-!
# Converting dynamically typed values to JSON

A value is walked depth first, each key of a dictionary just before its value,
and the first problem met is the error.  Whole numbers stay whole as long as
sixty-four bits hold them with a sign and are asked for their floating-point form
beyond that, which is the nearest double unless their type says otherwise; lists and
tuples both become arrays.
-/

namespace Eligibility.Dynamic

/-- Why a value has no JSON form. -/
inductive ConversionFault
  | unsupportedType (name : String)
  /-- A floating-point number that is infinite or undefined. -/
  | nonFinite (value : ExtendedDouble)
  /-- A whole number without floating-point form. -/
  | noFloat (fault : FloatFault)
  /-- A text with an unpaired surrogate. -/
  | notUnicode
  /-- A key that is no text. -/
  | keyNotText
deriving DecidableEq, Repr

namespace ConversionFault

/-- The spelling of a floating-point number that is not finite. -/
def spelling : ExtendedDouble → String
  | .infinite true => "-inf"
  | .infinite false => "inf"
  | _ => "NaN"

/-- The wording of a fault; that of a broken rule of the host itself, or of an exception
that a value raises, is left to the host. -/
def message? : ConversionFault → Option String
  | unsupportedType name => some ("Unsupported value type: " ++ name)
  | nonFinite value => some ("Non-finite number: " ++ spelling value)
  | noFloat _ | notUnicode | keyNotText => none

end ConversionFault

namespace Value

/-- The floating-point form of a whole number whose type does not say otherwise. -/
def floatOfInt (value : Int) : Except FloatFault ExtendedDouble :=
  (Double.ofInt? value).elim (.error .tooLarge) fun nearest => .ok (.finite nearest)

/-- The JSON number of a floating-point number. -/
def floatToJson : ExtendedDouble → Except ConversionFault Json.Value
  | .finite value => .ok (.number (.double value))
  | value => .error (.nonFinite value)

/-- The JSON number of a whole number with a given floating-point form. -/
def intToJson (value : Int) (form : Except FloatFault ExtendedDouble) :
    Except ConversionFault Json.Value :=
  match WideInteger.signed? value with
  | some whole => .ok (.number (.integer whole))
  | none => do
      let number ← form.mapError .noFloat
      floatToJson number

/-- The name that a key of a dictionary gives to a member. -/
def keyName (key : Value) : Except ConversionFault String :=
  match key.base with
  | .text name => .ok name
  | .brokenText _ => .error .notUnicode
  | _ => .error .keyNotText

mutual

/-- The JSON form of a value. -/
def toJson : Value → Except ConversionFault Json.Value
  | .null => .ok .null
  | .bool value => .ok (.bool value)
  | .int value => intToJson value (floatOfInt value)
  | .float value => floatToJson value
  | .text value => .ok (.string value)
  | .brokenText _ => .error .notUnicode
  | .list items => (itemsToJson items).map .array
  | .tuple items => (itemsToJson items).map .array
  | .dict entries => (entriesToJson entries).map .object
  | .derived value => toJson value
  | .ownFloat value own => intToJson value own
  | .rule _ => .error (.unsupportedType "Rule")
  | .foreign typeName => .error (.unsupportedType typeName)

/-- The JSON forms of items. -/
def itemsToJson : List Value → Except ConversionFault (List Json.Value)
  | [] => .ok []
  | item :: items => do
      let first ← toJson item
      let others ← itemsToJson items
      .ok (first :: others)

/-- The members that entries of a dictionary become. -/
def entriesToJson : List (Value × Value) → Except ConversionFault (List (String × Json.Value))
  | [] => .ok []
  | (key, value) :: entries => do
      let name ← keyName key
      let first ← toJson value
      let others ← entriesToJson entries
      .ok ((name, first) :: others)

end

end Value

end Eligibility.Dynamic
