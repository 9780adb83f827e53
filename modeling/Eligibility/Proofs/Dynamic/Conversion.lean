import Eligibility.Dynamic.ToJson
import Eligibility.Proofs.Failure
import Eligibility.Proofs.Number.Closest

/-!
# What converting a value reports and gives

A walk over a value stops at all its parts, depth first, and at each key of a
dictionary just before the value of the key.  What a part is converted to does not
depend on the others, so the problem that a conversion reports is the first one on
this walk.  If there is none, then the JSON value is a copy of the value, in which
only whole numbers beyond sixty-four bits with a sign are rounded.  A derived type
matters only if it converts such a number to another floating-point number than the
base type does.
-/

namespace Eligibility

namespace Dynamic

/-! ## Walks -/

/-- A place at which a walk over a value stops. -/
inductive Stop
  | key (name : Value)
  | value (part : Value)

/-- The problem with the floating-point form of a number, which has to be finite. -/
def formProblem? : Except FloatFault ExtendedDouble → Option ConversionFault
  | .ok (.finite _) => none
  | .ok number => some (.nonFinite number)
  | .error fault => some (.noFloat fault)

/-- The problem at a stop.  A key has to be a text, and a value has to be of a type
that JSON has; a number has to have a finite double, and every text its characters.  A
derived type is asked for its own conversion only beyond sixty-four bits with a sign. -/
def Stop.problem? : Stop → Option ConversionFault
  | key name =>
      match name.base with
      | .text _ => none
      | .brokenText _ => some .notUnicode
      | _ => some .keyNotText
  | value part =>
      match part.base with
      | .int whole =>
          if 2 ^ 1024 - 2 ^ 970 ≤ whole.natAbs then some (.noFloat .tooLarge) else none
      | .ownFloat whole form =>
          if -2 ^ 63 ≤ whole ∧ whole < 2 ^ 63 then none else formProblem? form
      | .float number => formProblem? (.ok number)
      | .brokenText _ => some .notUnicode
      | .rule _ => some (.unsupportedType "Rule")
      | .foreign typeName => some (.unsupportedType typeName)
      | _ => none

namespace Value

mutual

/-- The stops of a walk over a value. -/
def walk : Value → List Stop
  | .list items => .value (.list items) :: walkItems items
  | .tuple items => .value (.tuple items) :: walkItems items
  | .dict entries => .value (.dict entries) :: walkEntries entries
  | .derived value => walk value
  | value => [.value value]

/-- The stops of a walk over items. -/
def walkItems : List Value → List Stop
  | [] => []
  | item :: items => walk item ++ walkItems items

/-- The stops of a walk over the entries of a dictionary. -/
def walkEntries : List (Value × Value) → List Stop
  | [] => []
  | (key, value) :: entries => .key key :: (walk value ++ walkEntries entries)

end

/-- A whole number has the problem of its floating-point form, unless sixty-four bits
hold it with a sign. -/
theorem error?_intToJson (value : Int) (form : Except FloatFault ExtendedDouble) :
    error? (intToJson value form) =
      if -2 ^ 63 ≤ value ∧ value < 2 ^ 63 then none else formProblem? form := by
  rw [intToJson]
  cases known : WideInteger.signed? value with
  | some whole =>
      obtain ⟨same, small⟩ := WideInteger.signed?_eq_some_iff.mp known
      have inside := WideInteger.not_outside same small
      rw [if_pos (by omega)]
      rfl
  | none =>
      have outside := WideInteger.signed?_eq_none_iff.mp known
      rw [if_neg (by omega)]
      rcases form with fault | number
      · rfl
      · cases number <;> rfl

theorem formProblem?_floatOfInt (value : Int) :
    formProblem? (floatOfInt value) =
      if 2 ^ 1024 - 2 ^ 970 ≤ value.natAbs then some (.noFloat .tooLarge) else none := by
  rw [floatOfInt]
  cases rounded : Double.ofInt? value with
  | none =>
      rw [if_pos (Double.ofInt?_eq_none_iff.mp rounded)]
      rfl
  | some nearest =>
      rw [if_neg (mt Double.ofInt?_eq_none_iff.mpr (by simp [rounded]))]
      rfl

/-- A whole number that converts as usual has a problem if it is too large for a
double. -/
theorem error?_intToJson_floatOfInt (value : Int) :
    error? (intToJson value (floatOfInt value)) = (Stop.value (.int value)).problem? := by
  simp only [error?_intToJson, formProblem?_floatOfInt, Stop.problem?, base]
  split
  · rename_i fits
    have rounded := Double.ofInt?_value ⟨value, by omega, by omega⟩
    rw [if_neg]
    exact mt Double.ofInt?_eq_none_iff.mpr (Option.ne_none_iff_exists'.mpr ⟨_, rounded⟩)
  · rfl

theorem error?_floatToJson (value : ExtendedDouble) :
    error? (floatToJson value) = (Stop.value (.float value)).problem? := by
  cases value <;> rfl

theorem error?_keyName (key : Value) : error? (keyName key) = (Stop.key key).problem? := by
  rw [keyName, Stop.problem?]
  cases key.base <;> rfl

mutual

/-- Converting a value reports the first problem of the walk over it. -/
theorem error?_toJson : (value : Value) →
    error? value.toJson = value.walk.findSome? Stop.problem?
  | .null => rfl
  | .bool _ => rfl
  | .int value => (error?_intToJson_floatOfInt value).trans List.findSome?_singleton.symm
  | .float value => (error?_floatToJson value).trans List.findSome?_singleton.symm
  | .text _ => rfl
  | .brokenText _ => rfl
  | .list items => by
      rw [toJson, error?_map, error?_itemsToJson items]
      rfl
  | .tuple items => by
      rw [toJson, error?_map, error?_itemsToJson items]
      rfl
  | .dict entries => by
      rw [toJson, error?_map, error?_entriesToJson entries]
      rfl
  | .derived value => error?_toJson value
  | .ownFloat value form => (error?_intToJson value form).trans List.findSome?_singleton.symm
  | .rule _ => rfl
  | .foreign _ => rfl

theorem error?_itemsToJson : (items : List Value) →
    error? (itemsToJson items) = (walkItems items).findSome? Stop.problem?
  | [] => rfl
  | item :: items => by
      rw [itemsToJson, walkItems, List.findSome?_append, ← error?_toJson item,
        ← error?_itemsToJson items]
      exact error?_bind fun first => error?_bind_ok _ _

theorem error?_entriesToJson : (entries : List (Value × Value)) →
    error? (entriesToJson entries) = (walkEntries entries).findSome? Stop.problem?
  | [] => rfl
  | (key, value) :: entries => by
      rw [entriesToJson, walkEntries, ← List.singleton_append, List.findSome?_append,
        List.findSome?_append, List.findSome?_singleton, ← error?_keyName, ← error?_toJson value,
        ← error?_entriesToJson entries]
      exact error?_bind fun name => error?_bind fun first => error?_bind_ok _ _

end

end Value

/-! ## Copies -/

mutual

/-- A JSON value copies a value of the host part by part. -/
inductive Copies : Value → Json.Value → Prop
  | null : Copies .null .null
  | bool (value : Bool) : Copies (.bool value) (.bool value)
  /-- A whole number that sixty-four bits hold with a sign stays as it is. -/
  | int {value : Int} {whole : WideInteger} :
      whole.value = value → value < 2 ^ 63 → Copies (.int value) (.number (.integer whole))
  /-- Any other whole number is rounded. -/
  | rounded {value : Int} {nearest : Double} :
      value < -2 ^ 63 ∨ 2 ^ 63 ≤ value → nearest.IsNearestTo value →
      Copies (.int value) (.number (.double nearest))
  | float (value : Double) : Copies (.float (.finite value)) (.number (.double value))
  | text (value : String) : Copies (.text value) (.string value)
  | list {items : List Value} {values : List Json.Value} :
      CopiesItems items values → Copies (.list items) (.array values)
  | tuple {items : List Value} {values : List Json.Value} :
      CopiesItems items values → Copies (.tuple items) (.array values)
  | dict {entries : List (Value × Value)} {members : List (String × Json.Value)} :
      CopiesEntries entries members → Copies (.dict entries) (.object members)
  | derived {value : Value} {json : Json.Value} :
      Copies value json → Copies (.derived value) json
  | ownInt {value : Int} {form : Except FloatFault ExtendedDouble} {whole : WideInteger} :
      whole.value = value → value < 2 ^ 63 →
      Copies (.ownFloat value form) (.number (.integer whole))
  /-- Any other whole number of a type with a conversion of its own becomes what this
  gives. -/
  | ownFloat {value : Int} {number : Double} :
      value < -2 ^ 63 ∨ 2 ^ 63 ≤ value →
      Copies (.ownFloat value (.ok (.finite number))) (.number (.double number))

/-- JSON values copy items, in their order. -/
inductive CopiesItems : List Value → List Json.Value → Prop
  | nil : CopiesItems [] []
  | cons {item : Value} {value : Json.Value} {items : List Value} {values : List Json.Value} :
      Copies item value → CopiesItems items values → CopiesItems (item :: items) (value :: values)

/-- Members copy entries, in their order. -/
inductive CopiesEntries : List (Value × Value) → List (String × Json.Value) → Prop
  | nil : CopiesEntries [] []
  | cons {key value : Value} {name : String} {json : Json.Value}
      {entries : List (Value × Value)} {members : List (String × Json.Value)} :
      key.base = .text name → Copies value json → CopiesEntries entries members →
      CopiesEntries ((key, value) :: entries) ((name, json) :: members)

end

namespace Value

theorem keyName_eq_ok_iff {key : Value} {name : String} :
    keyName key = .ok name ↔ key.base = .text name := by
  rw [keyName]
  cases key.base <;> simp

/-- A whole number becomes itself or its floating-point form. -/
theorem intToJson_eq_ok_iff {value : Int} {form : Except FloatFault ExtendedDouble}
    {json : Json.Value} :
    intToJson value form = .ok json ↔
      (∃ whole : WideInteger, whole.value = value ∧ value < 2 ^ 63 ∧
        .number (.integer whole) = json) ∨
      (value < -2 ^ 63 ∨ 2 ^ 63 ≤ value) ∧
        ∃ number, form = .ok (.finite number) ∧ .number (.double number) = json := by
  rw [intToJson]
  cases known : WideInteger.signed? value with
  | some whole =>
      obtain ⟨same, small⟩ := WideInteger.signed?_eq_some_iff.mp known
      constructor
      · rintro ⟨⟩
        exact .inl ⟨whole, same, small, rfl⟩
      · rintro (⟨other, otherSame, -, rfl⟩ | ⟨outside, -⟩)
        · rw [WideInteger.eq_of_value_eq (same.trans otherSame.symm)]
        · exact absurd outside (WideInteger.not_outside same small)
  | none =>
      have outside := WideInteger.signed?_eq_none_iff.mp known
      constructor
      · intro converts
        rcases form with fault | (number | infinite | undefined)
        · cases converts
        · cases converts
          exact .inr ⟨outside, number, rfl, rfl⟩
        · cases converts
        · cases converts
      · rintro (⟨whole, same, small, -⟩ | ⟨-, number, rfl, rfl⟩)
        · exact absurd outside (WideInteger.not_outside same small)
        · rfl

/-- A whole number is copied, and rounded only if sixty-four bits do not hold it with a
sign. -/
theorem copies_of_intToJson {value : Int} {json : Json.Value}
    (converts : intToJson value (floatOfInt value) = .ok json) : Copies (.int value) json := by
  rcases intToJson_eq_ok_iff.mp converts with
    ⟨whole, same, small, rfl⟩ | ⟨outside, nearest, rounded, rfl⟩
  · exact .int same small
  · rw [floatOfInt] at rounded
    cases known : Double.ofInt? value with
    | none =>
        rw [known] at rounded
        cases rounded
    | some double =>
        rw [known] at rounded
        cases rounded
        exact .rounded outside (Double.isNearestTo_of_ofInt? known)

theorem copies_of_intToJson_own {value : Int} {form : Except FloatFault ExtendedDouble}
    {json : Json.Value} (converts : intToJson value form = .ok json) :
    Copies (.ownFloat value form) json := by
  rcases intToJson_eq_ok_iff.mp converts with
    ⟨whole, same, small, rfl⟩ | ⟨outside, number, rfl, rfl⟩
  · exact .ownInt same small
  · exact .ownFloat outside

mutual

/-- What a value is converted to is a copy of it. -/
theorem copies_of_toJson : (value : Value) → {json : Json.Value} →
    value.toJson = .ok json → Copies value json
  | .null, _, rfl => .null
  | .bool value, _, rfl => .bool value
  | .int _, _, converts => copies_of_intToJson converts
  | .float (.finite value), _, rfl => .float value
  | .text value, _, rfl => .text value
  | .list items, _, converts => by
      rcases map_eq_ok_iff.mp converts with ⟨values, itemsConvert, rfl⟩
      exact .list (copiesItems_of_itemsToJson items itemsConvert)
  | .tuple items, _, converts => by
      rcases map_eq_ok_iff.mp converts with ⟨values, itemsConvert, rfl⟩
      exact .tuple (copiesItems_of_itemsToJson items itemsConvert)
  | .dict entries, _, converts => by
      rcases map_eq_ok_iff.mp converts with ⟨members, entriesConvert, rfl⟩
      exact .dict (copiesEntries_of_entriesToJson entries entriesConvert)
  | .derived value, _, converts => .derived (copies_of_toJson value converts)
  | .ownFloat _ _, _, converts => copies_of_intToJson_own converts

theorem copiesItems_of_itemsToJson : (items : List Value) → {values : List Json.Value} →
    itemsToJson items = .ok values → CopiesItems items values
  | [], _, rfl => .nil
  | item :: items, _, converts => by
      rcases bind_eq_ok_iff.mp converts with ⟨first, itemConverts, converts⟩
      rcases bind_eq_ok_iff.mp converts with ⟨others, itemsConvert, ⟨⟩⟩
      exact .cons (copies_of_toJson item itemConverts) (copiesItems_of_itemsToJson items itemsConvert)

theorem copiesEntries_of_entriesToJson : (entries : List (Value × Value)) →
    {members : List (String × Json.Value)} →
    entriesToJson entries = .ok members → CopiesEntries entries members
  | [], _, rfl => .nil
  | (key, value) :: entries, _, converts => by
      rcases bind_eq_ok_iff.mp converts with ⟨name, named, converts⟩
      rcases bind_eq_ok_iff.mp converts with ⟨first, valueConverts, converts⟩
      rcases bind_eq_ok_iff.mp converts with ⟨others, entriesConvert, ⟨⟩⟩
      exact .cons (keyName_eq_ok_iff.mp named) (copies_of_toJson value valueConverts)
        (copiesEntries_of_entriesToJson entries entriesConvert)

end

end Value

mutual

/-- A value has only one copy. -/
theorem Copies.unique {value : Value} {json other : Json.Value} :
    Copies value json → Copies value other → json = other
  | .null, .null => rfl
  | .bool _, .bool _ => rfl
  | .int same _, .int otherSame _ => by
      rw [WideInteger.eq_of_value_eq (same.trans otherSame.symm)]
  | .int same small, .rounded outside _ => absurd outside (WideInteger.not_outside same small)
  | .rounded outside _, .int same small => absurd outside (WideInteger.not_outside same small)
  | .rounded _ nearest, .rounded _ otherNearest => by
      rw [nearest.unique otherNearest]
  | .float _, .float _ => rfl
  | .text _, .text _ => rfl
  | .list items, .list others => congrArg _ (items.unique others)
  | .tuple items, .tuple others => congrArg _ (items.unique others)
  | .dict entries, .dict others => congrArg _ (entries.unique others)
  | .derived base, .derived other => base.unique other
  | .ownInt same _, .ownInt otherSame _ => by
      rw [WideInteger.eq_of_value_eq (same.trans otherSame.symm)]
  | .ownInt same small, .ownFloat outside => absurd outside (WideInteger.not_outside same small)
  | .ownFloat outside, .ownInt same small => absurd outside (WideInteger.not_outside same small)
  | .ownFloat _, .ownFloat _ => rfl

theorem CopiesItems.unique {items : List Value} {values others : List Json.Value} :
    CopiesItems items values → CopiesItems items others → values = others
  | .nil, .nil => rfl
  | .cons first later, .cons otherFirst otherLater => by
      rw [first.unique otherFirst, later.unique otherLater]

theorem CopiesEntries.unique {entries : List (Value × Value)}
    {members others : List (String × Json.Value)} :
    CopiesEntries entries members → CopiesEntries entries others → members = others
  | .nil, .nil => rfl
  | .cons named first later, .cons otherNamed otherFirst otherLater => by
      cases named.symm.trans otherNamed
      rw [first.unique otherFirst, later.unique otherLater]

end

end Dynamic

/-! ## Numbers in copies -/

namespace Json

end Json

namespace Dynamic

theorem CopiesItems.exists_copies {items : List Value} {values : List Json.Value}
    {value : Json.Value} : CopiesItems items values → value ∈ values → ∃ item, Copies item value
  | .cons first _, .head _ => ⟨_, first⟩
  | .cons _ later, .tail _ held => later.exists_copies held

theorem CopiesEntries.exists_copies {entries : List (Value × Value)}
    {members : List (String × Json.Value)} {name : String} {value : Json.Value} :
    CopiesEntries entries members → (name, value) ∈ members → ∃ item, Copies item value
  | .cons _ first _, .head _ => ⟨_, first⟩
  | .cons _ _ later, .tail _ held => later.exists_copies held

namespace Copies

end Copies

/-! ## Derived types -/

namespace Value

mutual

/-- A value without the derived types of its parts. -/
def plain : Value → Value
  | .list items => .list (plainItems items)
  | .tuple items => .tuple (plainItems items)
  | .dict entries => .dict (plainEntries entries)
  | .derived value => plain value
  | .ownFloat value _ => .int value
  | value => value

/-- Items without the derived types of their parts. -/
def plainItems : List Value → List Value
  | [] => []
  | item :: items => plain item :: plainItems items

/-- Entries without the derived types of their parts. -/
def plainEntries : List (Value × Value) → List (Value × Value)
  | [] => []
  | (key, value) :: entries => (plain key, plain value) :: plainEntries entries

end

/-- The whole numbers at some stops are converted as the host expects of integral
numbers: wherever the floating-point form is asked for, it is that of the number, also if
the type of the number converts in its own way. -/
def AreIntegral (stops : List Stop) : Prop :=
  ∀ whole form, .value (.ownFloat whole form) ∈ stops →
    whole < -2 ^ 63 ∨ 2 ^ 63 ≤ whole → form = floatOfInt whole

/-- Every whole number in a value is converted as the host expects of integral numbers. -/
def IsIntegral (value : Value) : Prop :=
  AreIntegral value.walk

theorem AreIntegral.of_subset {stops others : List Stop} (subset : stops ⊆ others)
    (integral : AreIntegral others) : AreIntegral stops :=
  fun whole form member => integral whole form (subset member)

/-- Sixty-four bits or the usual form decide what a whole number becomes. -/
theorem intToJson_congr {value : Int} {form : Except FloatFault ExtendedDouble}
    (same : value < -2 ^ 63 ∨ 2 ^ 63 ≤ value → form = floatOfInt value) :
    intToJson value form = intToJson value (floatOfInt value) := by
  rw [intToJson, intToJson]
  cases known : WideInteger.signed? value with
  | some whole => rfl
  | none => rw [same (WideInteger.signed?_eq_none_iff.mp known)]

theorem keyName_plain : (key : Value) → keyName key.plain = keyName key
  | .derived value => keyName_plain value
  | .null | .bool _ | .int _ | .float _ | .text _ | .brokenText _ | .list _ | .tuple _ | .dict _
  | .ownFloat _ _ | .rule _ | .foreign _ => rfl

mutual

/-- Derived types do not matter for a value with integral numbers. -/
theorem toJson_plain : (value : Value) → value.IsIntegral → value.plain.toJson = value.toJson
  | .derived value, integral => toJson_plain value integral
  | .ownFloat value form, integral =>
      (intToJson_congr fun outside => integral value form (.head _) outside).symm
  | .list items, integral => by
      have later : AreIntegral (walkItems items) := integral.of_subset (List.subset_cons_self _ _)
      rw [plain, toJson, toJson, itemsToJson_plain items later]
  | .tuple items, integral => by
      have later : AreIntegral (walkItems items) := integral.of_subset (List.subset_cons_self _ _)
      rw [plain, toJson, toJson, itemsToJson_plain items later]
  | .dict entries, integral => by
      have later : AreIntegral (walkEntries entries) :=
        integral.of_subset (List.subset_cons_self _ _)
      rw [plain, toJson, toJson, entriesToJson_plain entries later]
  | .null, _ | .bool _, _ | .int _, _ | .float _, _ | .text _, _ | .brokenText _, _ | .rule _, _
  | .foreign _, _ => rfl

theorem itemsToJson_plain : (items : List Value) → AreIntegral (walkItems items) →
    itemsToJson (plainItems items) = itemsToJson items
  | [], _ => rfl
  | item :: items, integral => by
      have first : item.IsIntegral := integral.of_subset (List.subset_append_left _ _)
      have later : AreIntegral (walkItems items) :=
        integral.of_subset (List.subset_append_right _ _)
      rw [plainItems, itemsToJson, itemsToJson, toJson_plain item first,
        itemsToJson_plain items later]

theorem entriesToJson_plain : (entries : List (Value × Value)) →
    AreIntegral (walkEntries entries) →
    entriesToJson (plainEntries entries) = entriesToJson entries
  | [], _ => rfl
  | (key, value) :: entries, integral => by
      have behindKey : AreIntegral (walk value ++ walkEntries entries) :=
        integral.of_subset (List.subset_cons_self _ _)
      have first : value.IsIntegral := behindKey.of_subset (List.subset_append_left _ _)
      have later : AreIntegral (walkEntries entries) :=
        behindKey.of_subset (List.subset_append_right _ _)
      rw [plainEntries, entriesToJson, entriesToJson, keyName_plain, toJson_plain value first,
        entriesToJson_plain entries later]

end

end Value

/-! ## Results -/

namespace Value

end Value

end Dynamic

end Eligibility
