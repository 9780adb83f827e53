import Eligibility.Error
import Eligibility.Rule.Basic

/-!
# Combining rules

Two rules are combined by joining them.  A list of rules is combined from the
left, so a single rule stays as it is and an empty list gives no rule.
-/

namespace Eligibility.Rule

/-- The left-nested combination of rules under one connective. -/
def combineAll (connective : String) : List Rule → Except RuleError Rule
  | [] => .error .emptyCombination
  | first :: others => .ok (others.foldl (join connective) first)

@[simp]
theorem combineAll_singleton (connective : String) (rule : Rule) :
    combineAll connective [rule] = .ok rule :=
  rfl

end Eligibility.Rule
