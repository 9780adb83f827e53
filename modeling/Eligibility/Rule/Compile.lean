import Eligibility.Error
import Eligibility.Rule.Basic
import Eligibility.Rule.Segment

/-!
# Compiling rule texts

A rule text is a condition, or a shorter rule text followed by a connective and
a condition.  The connectives bind alike and group to the left.  A condition
that cannot compare is reported before any misplaced connective, even one that
comes earlier in the text.
-/

namespace Eligibility.Rule

/-- Reports the first condition that does not compare. -/
def checkSegments : List Segment → Except RuleError Unit
  | [] => .ok ()
  | .connective _ :: segments => checkSegments segments
  | .condition text :: segments =>
      if text.any Segment.isComparator then checkSegments segments
      else .error (.invalidExpression (.noComparator (String.ofList text)))

/-- Joins the conditions that follow to the rule of those before them.  The
whole text is reported when it ends too early. -/
def extend (whole : String) (rule : Rule) : List Segment → Except RuleError Rule
  | [] => .ok rule
  | .condition text :: _ =>
      .error (.invalidExpression (.noConnective (String.ofList text)))
  | [.connective _] => .error (.invalidExpression (.incomplete whole))
  | .connective _ :: .connective connective :: _ =>
      .error (.invalidExpression (.noOperand connective))
  | .connective connective :: .condition text :: segments =>
      extend whole (.join connective.word rule (.leaf (String.ofList text))) segments

/-- The rule that segments form. -/
def ofSegments (whole : String) : List Segment → Except RuleError Rule
  | [] => .error (.invalidExpression (.incomplete whole))
  | .connective connective :: _ => .error (.invalidExpression (.noOperand connective))
  | .condition text :: segments => extend whole (.leaf (String.ofList text)) segments

/-- The rule that a text writes. -/
def compile (text : String) : Except RuleError Rule := do
  let segments := Segment.ofText text.toList
  checkSegments segments
  ofSegments (String.ofList (Text.trim text.toList)) segments

end Eligibility.Rule
