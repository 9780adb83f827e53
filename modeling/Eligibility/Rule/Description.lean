import Eligibility.Json.Reader
import Eligibility.Rule.Combine

/-!
# Structured descriptions

A description is an object whose entry `rules` is one described rule or a list
of them, which is combined with AND.  A described rule has an operator and two
sides, each an object with an operand, and all three of them are taken over as
they are.  Every other entry is ignored.
-/

namespace Eligibility.Rule

/-- The leaf that one side of a described rule gives. -/
def describedSide (side : Side) (members : List (String × Json.Value)) :
    Except RuleError Rule :=
  match Json.lookup side.name members with
  | some (.object entries) =>
      match Json.lookup "operand" entries with
      | some (.string operand) => .ok (leaf operand)
      | _ => .error (.invalidStructure (.operandKind side))
  | _ => .error (.invalidStructure (.sideKind side))

/-- The rule that the members of an object describe. -/
def describedRule (members : List (String × Json.Value)) : Except RuleError Rule := do
  let left ← describedSide .left members
  let right ← describedSide .right members
  match Json.lookup "operator" members with
  | some (.string operator) => .ok (join operator left right)
  | _ => .error (.invalidStructure .operatorKind)

/-- The rule that an item of a list describes. -/
def describedItem : Json.Value → Except RuleError Rule
  | .object members => describedRule members
  | _ => .error (.invalidStructure .itemKind)

/-- The rules that the items of a list describe. -/
def describedItems : List Json.Value → Except RuleError (List Rule)
  | [] => .ok []
  | item :: items => do
      let rule ← describedItem item
      let rules ← describedItems items
      .ok (rule :: rules)

/-- The rule that a description gives. -/
def ofDescription (description : Json.Value) : Except RuleError Rule :=
  match description.field? "rules" with
  | none | some .null => .error (.invalidStructure .noRules)
  | some (.array items) => do
      let rules ← describedItems items
      if rules.isEmpty then .error (.invalidStructure .emptyList)
      else combineAll Connective.and.word rules
  | some (.object members) => describedRule members
  | some _ => .error (.invalidStructure .rulesKind)

/-- The rule that the text of a description gives. -/
def ofDescriptionText (text : String) : Except RuleError Rule :=
  match Json.read? Json.nestingLimit text with
  | some description => ofDescription description
  | none => .error (.invalidStructure .malformedText)

end Eligibility.Rule
