import Eligibility.Error
import Eligibility.Json.Value
import Eligibility.Table

/-!
# Records

A record gives a JSON value to each of its fields.  It is read from an object,
of which the last member counts where several have one name.
-/

namespace Eligibility

/-- The data that a rule is evaluated on. -/
abbrev Record :=
  Table Json.Value

namespace Record

/-- The record that a JSON value is. -/
def ofJson : Json.Value → Except RuleError Record
  | .object members => .ok (Table.ofPairs members)
  | _ => .error (.invalidStructure .recordKind)

/-- A field has the last value that the members give for it. -/
theorem get?_ofPairs (members : List (String × Json.Value)) (name : String) :
    (Table.ofPairs members).get? name = Json.lookup name members := by
  have step (table : Record) :
      (members.foldl (fun table pair => table.put pair.1 pair.2) table).get? name =
        (Json.lookup name members).or (table.get? name) := by
    induction members generalizing table with
    | nil => rfl
    | cons member members ih =>
        obtain ⟨other, value⟩ := member
        rw [List.foldl_cons, ih, Table.get?_put, Json.lookup]
        cases Json.lookup name members with
        | some later => rfl
        | none => by_cases same : name = other <;> simp [same, eq_comm]
  rw [Table.ofPairs, step, Table.get?_empty, Option.or_none]

end Record

end Eligibility
