import Eligibility.Condition
import Eligibility.Number.Literal
import Eligibility.Record
import Eligibility.Rule.Basic

/-!
# Evaluating rules

A condition compares a field of a record with its literal: a string field only
for equality with the literal as text, a number field in the order of doubles
with the literal as a number.  Nothing else can be compared.  Both sides of a
joined rule are evaluated, the left one first, and only then is the connective
read, so an error on either side is never hidden by the verdict of the other.
-/

namespace Eligibility

namespace Condition

/-- The verdict on a string field. -/
def checkText (condition : Condition) (actual : String) : Except RuleError Bool :=
  match condition.comparator with
  | .equal => .ok (actual == condition.literal)
  | comparator =>
      .error (.unsupportedOperator (String.singleton comparator.symbol) condition.field)

/-- The verdict on a number field. -/
def checkNumber (condition : Condition) (actual : Double) : Except RuleError Bool :=
  match Literal.value? condition.literal.toList with
  | some expected => .ok (condition.comparator.accepts (actual.order expected))
  | none => .error (.invalidLiteral condition.literal)

/-- The verdict of a condition on a record. -/
def check (condition : Condition) (record : Record) : Except RuleError Bool :=
  match record.get? condition.field with
  | some (.string actual) => condition.checkText actual
  | some (.number actual) => condition.checkNumber actual.toDouble
  | _ => .error (.unsupportedFieldType condition.field)

end Condition

namespace Rule

/-- The verdict of a condition that is still a text. -/
def checkLeaf (text : String) (record : Record) : Except RuleError Bool := do
  let condition ← Condition.parse text
  condition.check record

/-- The verdict of a rule on a record. -/
def evaluate (record : Record) : Rule → Except RuleError Bool
  | leaf text => checkLeaf text record
  | join connective left right => do
      let leftVerdict ← left.evaluate record
      let rightVerdict ← right.evaluate record
      match Connective.ofString? connective with
      | some joining => .ok (joining.apply leftVerdict rightVerdict)
      | none => .error (.unknownConnective connective)

end Rule

end Eligibility
