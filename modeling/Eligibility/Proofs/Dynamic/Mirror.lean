import Eligibility.Dynamic.Exception
import Eligibility.Proofs.Json.Reader
import Eligibility.Proofs.Number.Rounding
import Eligibility.Proofs.Rule.Resembling
import Mathlib.Data.List.Basic

/-!
# Dictionaries that mirror JSON objects

A value of the host mirrors a JSON value if it holds the same data: an array may
be a list or a tuple, the entries of a dictionary may come in any order, and
every value may be of a derived type.  A derived type of whole numbers may convert them
to floating-point numbers in its own way, as long as large numbers keep their values;
where it gives another double, that is the number it mirrors.  Converting the value need
not give the JSON value back, since large whole numbers become doubles on the way.  But
what it gives resembles the JSON value, so no rule can tell the two records apart.
-/

namespace Eligibility.Dynamic

open Json.Value Value

mutual

/-- A value of the host holds the data of a JSON value. -/
inductive Mirrors : Value → Json.Value → Prop
  | null : Mirrors .null .null
  | bool (value : Bool) : Mirrors (.bool value) (.bool value)
  | int (whole : WideInteger) : Mirrors (.int whole.value) (.number (.integer whole))
  | float (value : Double) : Mirrors (.float (.finite value)) (.number (.double value))
  | text (value : String) : Mirrors (.text value) (.string value)
  | list {items : List Value} {values : List Json.Value} :
      MirrorsItems items values → Mirrors (.list items) (.array values)
  | tuple {items : List Value} {values : List Json.Value} :
      MirrorsItems items values → Mirrors (.tuple items) (.array values)
  /-- The entries hold each name with its value, in any order. -/
  | dict {entries : List (Value × Value)} {listed members : List (String × Json.Value)} :
      MirrorsEntries entries listed →
      (∀ name, Json.lookup name listed = Json.lookup name members) →
      Mirrors (.dict entries) (.object members)
  | derived {value : Value} {json : Json.Value} :
      Mirrors value json → Mirrors (.derived value) json
  /-- The conversion of the number is free as long as sixty-four bits hold it with a sign;
  beyond that it has to be the usual one. -/
  | ownFloat {whole : WideInteger} {form : Except FloatFault ExtendedDouble} :
      (0x8000000000000000 ≤ whole.value → form = floatOfInt whole.value) →
      Mirrors (.ownFloat whole.value form) (.number (.integer whole))
  /-- A number that sixty-four bits do not hold mirrors the double that it gives. -/
  | ownDouble {value : Int} {number : Double} :
      value < -0x8000000000000000 ∨ 0x8000000000000000 ≤ value →
      Mirrors (.ownFloat value (.ok (.finite number))) (.number (.double number))

/-- Items hold the data of JSON values. -/
inductive MirrorsItems : List Value → List Json.Value → Prop
  | nil : MirrorsItems [] []
  | cons {item : Value} {value : Json.Value} {items : List Value} {values : List Json.Value} :
      Mirrors item value → MirrorsItems items values →
      MirrorsItems (item :: items) (value :: values)

/-- Entries hold the data of members, in their order. -/
inductive MirrorsEntries : List (Value × Value) → List (String × Json.Value) → Prop
  | nil : MirrorsEntries [] []
  | cons {key value : Value} {name : String} {json : Json.Value}
      {entries : List (Value × Value)} {members : List (String × Json.Value)} :
      key.base = .text name → Mirrors value json → MirrorsEntries entries members →
      MirrorsEntries ((key, value) :: entries) ((name, json) :: members)

end

/-! ## Converting -/

/-- One more member for the same name on both sides keeps look-ups related. -/
theorem rel_lookup_cons {related : Json.Value → Json.Value → Prop} {name other : String}
    {first second : Json.Value} {members others : List (String × Json.Value)}
    (value : related first second)
    (rest : Option.Rel related (Json.lookup other members) (Json.lookup other others)) :
    Option.Rel related (Json.lookup other ((name, first) :: members))
      (Json.lookup other ((name, second) :: others)) := by
  rw [Json.lookup, Json.lookup]
  generalize Json.lookup other members = found at rest
  generalize Json.lookup other others = otherFound at rest
  cases rest with
  | some later => exact .some later
  | none =>
      dsimp only
      split
      · exact .some value
      · exact .none

/-- A whole number of sixty-four bits becomes itself or the double nearest to
it. -/
theorem exists_intToJson_eq {whole : WideInteger} {form : Except FloatFault ExtendedDouble}
    (usual : 0x8000000000000000 ≤ whole.value → form = floatOfInt whole.value) :
    ∃ converted : Json.Number, intToJson whole.value form = .ok (.number converted) ∧
      converted.toDouble = whole.toDouble := by
  rw [intToJson]
  cases known : WideInteger.signed? whole.value with
  | some other =>
      have same := (WideInteger.signed?_eq_some_iff.mp known).1
      exact ⟨.integer other, rfl, congrArg WideInteger.toDouble (WideInteger.eq_of_value_eq same)⟩
  | none =>
      have lower := whole.lower
      have large : 0x8000000000000000 ≤ whole.value := by
        have outside := WideInteger.signed?_eq_none_iff.mp known
        omega
      rw [usual large, floatOfInt, Double.ofInt?_value]
      exact ⟨.double whole.toDouble, rfl, rfl⟩

theorem intToJson_of_outside {value : Int} {number : Double}
    (outside : value < -0x8000000000000000 ∨ 0x8000000000000000 ≤ value) :
    intToJson value (.ok (.finite number)) = .ok (.number (.double number)) := by
  rw [intToJson, WideInteger.signed?_eq_none_iff.mpr outside]
  rfl

mutual

/-- A value that mirrors a JSON value is converted to one that resembles it. -/
theorem Mirrors.exists_toJson_eq {value : Value} {json : Json.Value} :
    Mirrors value json → ∃ converted, value.toJson = .ok converted ∧ Resembles converted json
  | .null => ⟨.null, rfl, .null⟩
  | .bool value => ⟨.bool value, rfl, .bool value⟩
  | .int whole => by
      rcases exists_intToJson_eq fun _ => rfl with ⟨converted, converts, same⟩
      exact ⟨.number converted, converts, .number same⟩
  | .float value => ⟨.number (.double value), rfl, .number rfl⟩
  | .text value => ⟨.string value, rfl, .string value⟩
  | .list items => by
      rcases items.exists_itemsToJson_eq with ⟨converted, converts, resemble⟩
      exact ⟨.array converted, by rw [Value.toJson, converts]; rfl, .array resemble⟩
  | .tuple items => by
      rcases items.exists_itemsToJson_eq with ⟨converted, converts, resemble⟩
      exact ⟨.array converted, by rw [Value.toJson, converts]; rfl, .array resemble⟩
  | .dict entries same => by
      rcases entries.exists_entriesToJson_eq with ⟨converted, converts, resemble⟩
      refine ⟨.object converted, by rw [Value.toJson, converts]; rfl, .object fun name => ?_⟩
      rw [← same name]
      exact resemble name
  | .derived base => by
      rcases base.exists_toJson_eq with ⟨converted, converts, resembles⟩
      exact ⟨converted, by rw [Value.toJson, converts], resembles⟩
  | .ownFloat usual => by
      rcases exists_intToJson_eq usual with ⟨converted, converts, same⟩
      exact ⟨.number converted, converts, .number same⟩
  | .ownDouble outside => ⟨_, intToJson_of_outside outside, .number rfl⟩

theorem MirrorsItems.exists_itemsToJson_eq {items : List Value} {values : List Json.Value} :
    MirrorsItems items values →
    ∃ converted, Value.itemsToJson items = .ok converted ∧ List.Forall₂ Resembles converted values
  | .nil => ⟨[], rfl, .nil⟩
  | .cons first others => by
      rcases first.exists_toJson_eq with ⟨converted, converts, resembles⟩
      rcases others.exists_itemsToJson_eq with ⟨later, laterConvert, laterResemble⟩
      refine ⟨converted :: later, ?_, .cons resembles laterResemble⟩
      rw [Value.itemsToJson, converts, laterConvert]
      rfl

/-- The members of a dictionary are converted so that look-ups hit together and miss
together, which one more member in front leaves as it is. -/
theorem MirrorsEntries.exists_entriesToJson_eq {entries : List (Value × Value)}
    {members : List (String × Json.Value)} :
    MirrorsEntries entries members →
    ∃ converted, Value.entriesToJson entries = .ok converted ∧
      ∀ name, Option.Rel Resembles (Json.lookup name converted) (Json.lookup name members)
  | .nil => ⟨[], rfl, fun _ => .none⟩
  | @MirrorsEntries.cons _ _ name _ _ _ named first others => by
      rcases first.exists_toJson_eq with ⟨converted, converts, resembles⟩
      rcases others.exists_entriesToJson_eq with ⟨later, laterConvert, laterResemble⟩
      refine ⟨(name, converted) :: later, ?_, fun other => ?_⟩
      · rw [Value.entriesToJson, Value.keyName, named, converts, laterConvert]
        rfl
      · exact rel_lookup_cons resembles (laterResemble other)

end

theorem Mirrors.isDict {data : Value} {members : List (String × Json.Value)} :
    Mirrors data (.object members) → data.isDict = true
  | .dict _ _ => rfl
  | .derived base => base.isDict

end Eligibility.Dynamic
