import Eligibility.Proofs.Rule.Alike
import Eligibility.Proofs.Rule.Described

/-!
# JSON values with other numbers and another order

Two JSON values resemble each other if they differ only in whether a number is kept as
a whole number or as the double nearest to it, and in where the members of an object
stand.  A condition compares through doubles, and a description is read by names and
texts, so neither tells such values apart.
-/

namespace Eligibility

theorem optionRel_imp {α : Type} {related weaker : α → α → Prop}
    (imp : ∀ {first second}, related first second → weaker first second)
    {first second : Option α} : Option.Rel related first second → Option.Rel weaker first second
  | .some holds => .some (imp holds)
  | .none => .none

namespace Json.Value

/-- Two values differ only in how they keep their numbers and order their members. -/
inductive Resembles : Json.Value → Json.Value → Prop
  | null : Resembles .null .null
  | bool (value : Bool) : Resembles (.bool value) (.bool value)
  | number {first second : Number} :
      first.toDouble = second.toDouble → Resembles (.number first) (.number second)
  | string (text : String) : Resembles (.string text) (.string text)
  | array {items others : List Json.Value} :
      List.Forall₂ Resembles items others → Resembles (.array items) (.array others)
  | object {members others : List (String × Json.Value)} :
      (∀ name, Option.Rel Resembles (lookup name members) (lookup name others)) →
      Resembles (.object members) (.object others)

namespace Resembles

variable {value other : Json.Value}

theorem entryAlike {alike : Json.Value → Json.Value → Prop}
    (imp : ∀ {first second}, Resembles first second → alike first second)
    (resembles : Resembles value other) (name : String) :
    Rule.EntryAlike name alike value other := by
  cases resembles with
  | object entries => exact optionRel_imp imp (entries name)
  | null | bool | number | string | array => exact .none

theorem members?_isSome (resembles : Resembles value other) :
    value.members?.isSome = other.members?.isSome := by
  cases resembles <;> rfl

theorem textAlike (resembles : Resembles value other) : Rule.TextAlike value other := by
  cases resembles <;> rfl

theorem sideAlike (resembles : Resembles value other) : Rule.SideAlike value other where
  object := resembles.members?_isSome
  operand := resembles.entryAlike textAlike "operand"

theorem itemAlike (resembles : Resembles value other) : Rule.ItemAlike value other where
  object := resembles.members?_isSome
  side side := resembles.entryAlike sideAlike side.name
  operator := resembles.entryAlike textAlike "operator"

end Resembles

end Json.Value

/-- Descriptions that resemble each other give the same rule or the same error. -/
theorem Rule.ofDescription_eq_of_resembles {description other : Json.Value}
    (resembles : description.Resembles other) :
    ofDescription description = ofDescription other := by
  have entries : EntryAlike "rules" Json.Value.Resembles description other :=
    resembles.entryAlike id "rules"
  rw [EntryAlike] at entries
  rw [ofDescription, ofDescription]
  generalize description.field? "rules" = entry at entries
  generalize other.field? "rules" = otherEntry at entries
  cases entries with
  | none => rfl
  | some entry =>
      cases entry with
      | null | bool | number | string => rfl
      | array items =>
          change (describedItems _ >>= fun rules => _) = _
          rw [describedItems_congr (items.imp fun _ _ => Json.Value.Resembles.itemAlike)]
      | object members =>
          exact describedItem_congr (Json.Value.Resembles.object members).itemAlike

end Eligibility
