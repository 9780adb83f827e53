import Eligibility.Json.Reader
import Mathlib.Data.List.Nodup

/-!
# Values with distinct names

In most texts no object repeats a name.  Such an object has at most one value for
every name, so its members can be looked up in any order.  What is read as a value
has no gap, and a reader that only passes over it does not stop there.
-/

namespace Eligibility.Json

namespace Value

mutual

/-- Whether no object in a value repeats a name. -/
def distinctNames : Value → Bool
  | .array items => itemsDistinctNames items
  | .object members => decide (members.map Prod.fst).Nodup && membersDistinctNames members
  | _ => true

/-- Whether no object in some items repeats a name. -/
def itemsDistinctNames : List Value → Bool
  | [] => true
  | item :: items => distinctNames item && itemsDistinctNames items

/-- Whether no object in the values of some members repeats a name. -/
def membersDistinctNames : List (String × Value) → Bool
  | [] => true
  | (_, value) :: members => distinctNames value && membersDistinctNames members

end

end Value

/-- A name that no member has stands for nothing. -/
theorem lookup_eq_none_of_not_mem {name : String} {members : List (String × Value)}
    (absent : name ∉ members.map Prod.fst) : lookup name members = none := by
  induction members with
  | nil => rfl
  | cons member members ih =>
      rcases member with ⟨other, value⟩
      rw [List.map_cons, List.mem_cons, not_or] at absent
      rw [lookup, ih absent.2]
      exact if_neg (Ne.symm absent.1)

theorem lookup_cons_self {name : String} {value : Value} {members : List (String × Value)}
    (absent : name ∉ members.map Prod.fst) :
    lookup name ((name, value) :: members) = some value := by
  rw [lookup, lookup_eq_none_of_not_mem absent]
  exact if_pos rfl

theorem lookup_cons_of_ne {name other : String} {value : Value}
    {members : List (String × Value)} (different : other ≠ name) :
    lookup name ((other, value) :: members) = lookup name members := by
  rw [lookup]
  cases lookup name members with
  | none => exact if_neg different
  | some later => rfl

namespace Raw

/-- The values of one more item. -/
theorem itemValues?_cons_eq_some_iff {levels : Nat} {item : Raw} {items : List Raw}
    {values : List Value} :
    itemValues? levels (item :: items) = some values ↔
      ∃ value later, value? levels item = some value ∧ itemValues? levels items = some later ∧
        value :: later = values := by
  rw [itemValues?]
  cases value? levels item with
  | none => simp
  | some value => cases itemValues? levels items <;> simp

/-- The values of one more member, which has a name. -/
theorem memberValues?_cons_eq_some_iff {levels : Nat} {key : Option String} {item : Raw}
    {members : List (Option String × Raw)} {values : List (String × Value)} :
    memberValues? levels ((key, item) :: members) = some values ↔
      ∃ name value later, key = some name ∧ value? levels item = some value ∧
        memberValues? levels members = some later ∧ (name, value) :: later = values := by
  cases key with
  | none => simp [memberValues?]
  | some name =>
      rw [memberValues?]
      cases value? levels item with
      | none => simp
      | some value => cases memberValues? levels members <;> simp

/-- How a value can be written with at most some levels of nesting. -/
inductive Writes : Nat → Raw → Value → Prop
  | null {levels : Nat} : Writes levels .null .null
  | bool {levels : Nat} {flag : Bool} : Writes levels (.bool flag) (.bool flag)
  | number {levels : Nat} {numeral : Numeral} {number : Number} :
      Number.ofNumeral? numeral = some number → Writes levels (.number numeral) (.number number)
  | string {levels : Nat} {text : String} : Writes levels (.string (some text)) (.string text)
  | array {levels : Nat} {items : List Raw} {values : List Value} :
      itemValues? levels items = some values →
      Writes (levels + 1) (.array items true) (.array values)
  | object {levels : Nat} {members : List (Option String × Raw)}
      {values : List (String × Value)} : memberValues? levels members = some values →
      Writes (levels + 1) (.object members true) (.object values)

/-- What has a value writes it in one of these ways. -/
theorem writes_of_value? {levels : Nat} {raw : Raw} {value : Value}
    (read : value? levels raw = some value) : Writes levels raw value := by
  rw [value?.eq_def] at read
  split at read
  · cases read
    exact .null
  · cases read
    exact .bool
  · rcases Option.map_eq_some_iff.mp read with ⟨number, known, rfl⟩
    exact .number known
  · rcases Option.map_eq_some_iff.mp read with ⟨text, rfl, rfl⟩
    exact .string
  · rcases Option.map_eq_some_iff.mp read with ⟨values, itemsRead, rfl⟩
    exact .array itemsRead
  · rcases Option.map_eq_some_iff.mp read with ⟨values, membersRead, rfl⟩
    exact .object membersRead
  · contradiction

theorem eq_null_iff_of_value? {levels : Nat} {raw : Raw} {value : Value}
    (read : value? levels raw = some value) : raw = .null ↔ value = .null := by
  cases writes_of_value? read <;> simp

/-! ## Passing over values -/

section

variable {levels : Nat}
  (whole : ∀ raw value, value? levels raw = some value → isWhole raw = true)
include whole

theorem areWhole_of_itemValues? {items : List Raw} {values : List Value}
    (read : itemValues? levels items = some values) : areWhole items = true := by
  induction items generalizing values with
  | nil => rfl
  | cons item items ih =>
      rcases itemValues?_cons_eq_some_iff.mp read with ⟨value, later, itemRead, rest, -⟩
      rw [areWhole, whole item value itemRead, ih rest]
      rfl

theorem membersAreWhole_of_memberValues? {members : List (Option String × Raw)}
    {values : List (String × Value)} (read : memberValues? levels members = some values) :
    membersAreWhole members = true := by
  induction members generalizing values with
  | nil => rfl
  | cons member members ih =>
      rcases member with ⟨key, item⟩
      rcases memberValues?_cons_eq_some_iff.mp read with
        ⟨name, value, later, -, itemRead, rest, -⟩
      rw [membersAreWhole, whole item value itemRead, ih rest]
      rfl

end

/-- What has a value can be passed over. -/
theorem isWhole_of_value? {levels : Nat} {raw : Raw} {value : Value}
    (read : value? levels raw = some value) : isWhole raw = true := by
  induction levels using Nat.strongRecOn generalizing raw value with
  | ind levels ih =>
      cases writes_of_value? read with
      | null | bool | number known | string => rfl
      | @array levels items values itemsRead =>
          exact areWhole_of_itemValues? (fun raw value => ih levels levels.lt_succ_self) itemsRead
      | @object levels members values membersRead =>
          exact membersAreWhole_of_memberValues? (fun raw value => ih levels levels.lt_succ_self)
            membersRead

end Raw

end Eligibility.Json
