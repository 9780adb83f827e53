/-!
# Rules

A rule is a binary tree: its leaves are conditions, kept as the text that they
were written as, and its inner nodes join two rules by a connective, which is
likewise kept as text.  Neither text is checked when a tree is built; a text
that means nothing is noticed when the rule is evaluated.
-/

namespace Eligibility

/-- A rule. -/
inductive Rule
  | leaf (condition : String)
  | join (connective : String) (left right : Rule)
deriving DecidableEq, Inhabited, Repr

/-- The two kinds of nodes. -/
inductive Kind
  | operand
  | operator
deriving DecidableEq, Repr

namespace Kind

/-- The name of a kind of node. -/
def name : Kind → String
  | operand => "operand"
  | operator => "operator"

/-- The kind of node that has a given name. -/
def ofName? (name : String) : Option Kind :=
  if name = "operand" then some operand
  else if name = "operator" then some operator
  else none

@[simp]
theorem ofName?_name (kind : Kind) : ofName? kind.name = some kind := by
  cases kind <;> decide

end Kind

namespace Rule

/-- The kind of the topmost node. -/
def kind : Rule → Kind
  | leaf _ => .operand
  | join _ _ _ => .operator

/-- The text of the topmost node: the condition or the connective. -/
def value : Rule → String
  | leaf condition => condition
  | join connective _ _ => connective

/-- The left one of the two joined rules. -/
def left? : Rule → Option Rule
  | leaf _ => none
  | join _ left _ => some left

/-- The right one of the two joined rules. -/
def right? : Rule → Option Rule
  | leaf _ => none
  | join _ _ right => some right

/-- A rule as text, with every joined pair between parentheses. -/
def display : Rule → String
  | leaf condition => condition
  | join connective left right =>
      "(" ++ left.display ++ " " ++ connective ++ " " ++ right.display ++ ")"

@[simp]
theorem display_leaf (condition : String) : (leaf condition).display = condition :=
  rfl

end Rule

end Eligibility
