import Eligibility.Connective

/-!
# Errors

An error names its cause, and `message` words it.  The causes fall into those
of reading a rule text, those of reading a structured description or a record,
those of combining rules, and those of evaluating a rule.
-/

namespace Eligibility

/-- What is wrong with a rule text. -/
inductive ExpressionFault
  /-- A condition without a comparator. -/
  | noComparator (condition : String)
  /-- A connective without a condition before it. -/
  | noOperand (connective : Connective)
  /-- A condition that follows another one directly. -/
  | noConnective (condition : String)
  /-- A text that ends where a condition should follow. -/
  | incomplete (text : String)
deriving DecidableEq, Repr

/-- One of the two sides of a described rule. -/
inductive Side
  | left
  | right
deriving DecidableEq, Repr

/-- What is wrong with a structured description or a record. -/
inductive StructureFault
  /-- The text is no JSON.  What the reader of the text says about the place is not
  part of the fault. -/
  | malformedText
  /-- There is no entry for the rules. -/
  | noRules
  /-- The rules are neither one rule nor a list. -/
  | rulesKind
  /-- An item of the list is no object. -/
  | itemKind
  /-- The list is empty. -/
  | emptyList
  /-- A side is missing or no object. -/
  | sideKind (side : Side)
  /-- The operand of a side is missing or no string. -/
  | operandKind (side : Side)
  /-- The operator is missing or no string. -/
  | operatorKind
  /-- A record is no object. -/
  | recordKind
deriving DecidableEq, Repr

/-- Why a rule cannot be built or evaluated. -/
inductive RuleError
  | invalidExpression (fault : ExpressionFault)
  | invalidStructure (fault : StructureFault)
  | emptyCombination
  | invalidOperand (text : String)
  | invalidLiteral (literal : String)
  | unsupportedOperator (symbol field : String)
  | unsupportedFieldType (field : String)
  | unknownConnective (connective : String)
deriving DecidableEq, Repr

namespace ExpressionFault

/-- The wording of a fault in a rule text. -/
def detail : ExpressionFault → String
  | noComparator condition => "Invalid token format: " ++ condition
  | noOperand connective => "Not enough operands before operator: " ++ connective.word
  | noConnective condition => "Missing operator before: " ++ condition
  | incomplete text => text

end ExpressionFault

namespace Side

/-- The name of a side in a description. -/
def name : Side → String
  | left => "left"
  | right => "right"

end Side

namespace StructureFault

/-- The wording of a fault in a description or a record.  For a text that is no
JSON it is the beginning of the wording, which goes on with a colon and the
reader's own account of the place. -/
def detail : StructureFault → String
  | malformedText => "Malformed JSON"
  | noRules => "Invalid JSON structure for rules"
  | rulesKind => "Rules must be a valid JSON object or a list"
  | itemKind => "Each rule must be a valid JSON object"
  | emptyList => "Rules list cannot be empty"
  | sideKind side => side.name ++ " must be a valid JSON object"
  | operandKind side => side.name ++ ".operand must be a string"
  | operatorKind => "operator must be a string"
  | recordKind => "Data record must be a JSON object"

end StructureFault

namespace RuleError

/-- The wording of an error. -/
def message : RuleError → String
  | invalidExpression fault => "Invalid rule expression: " ++ fault.detail
  | invalidStructure fault => "Invalid rule structure: " ++ fault.detail
  | emptyCombination => "Rule list cannot be empty"
  | invalidOperand text => "Invalid operand format: " ++ text
  | invalidLiteral literal => "Invalid numeric literal: " ++ literal
  | unsupportedOperator symbol field =>
      "Operator '" ++ symbol ++ "' is not supported for string field '" ++ field ++ "'"
  | unsupportedFieldType field => "Unsupported data type for field: " ++ field
  | unknownConnective connective => "Unknown logical operator: " ++ connective

end RuleError

end Eligibility
