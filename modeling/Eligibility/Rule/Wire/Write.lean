import Eligibility.Json.Quoted
import Eligibility.Json.Value
import Eligibility.Rule.Wire.Node

/-!
# Writing the wire form

A rule has a wire form as a JSON value and as a text.  The text has no space
between its tokens and gives the four fields of every node in their order.
-/

namespace Eligibility.Rule

/-- The JSON value of a node whose children are already JSON values. -/
def nodeToJson (kind : Kind) (value : String) (left right : Json.Value) : Json.Value :=
  .object
    [(NodeField.nodeType.name, .string kind.name), (NodeField.value.name, .string value),
      (NodeField.left.name, left), (NodeField.right.name, right)]

/-- The wire form of a rule as a JSON value. -/
def toJson : Rule → Json.Value
  | leaf condition => nodeToJson .operand condition .null .null
  | join connective left right => nodeToJson .operator connective left.toJson right.toJson

/-- The text of a node up to its children. -/
def writeHead (kind : Kind) (value : String) : List Char :=
  "\x7b\"nodeType\":".toList ++ Json.Quoted.write kind.name.toList ++
    ",\"value\":".toList ++ Json.Quoted.write value.toList ++ ",\"left\":".toList

/-- The wire form of a rule as characters. -/
def write : Rule → List Char
  | leaf condition => writeHead .operand condition ++ "null,\"right\":null\x7d".toList
  | join connective left right =>
      writeHead .operator connective ++ left.write ++ ",\"right\":".toList ++ right.write ++
        ['\x7d']

/-- The wire form of a rule in front of a text, which is built from its end so
that no part of it is copied. -/
def writeBefore : Rule → List Char → List Char
  | leaf condition, rest =>
      writeHead .operand condition ++ ("null,\"right\":null\x7d".toList ++ rest)
  | join connective left right, rest =>
      writeHead .operator connective ++
        left.writeBefore (",\"right\":".toList ++ right.writeBefore ('\x7d' :: rest))

/-- The wire form of a rule as text. -/
def wire (rule : Rule) : String :=
  String.ofList (rule.writeBefore [])

@[simp]
theorem writeBefore_eq_append (rule : Rule) (rest : List Char) :
    rule.writeBefore rest = rule.write ++ rest := by
  induction rule generalizing rest with
  | leaf condition => simp only [writeBefore, write, List.append_assoc]
  | join connective left right leftWritten rightWritten =>
      simp only [writeBefore, write, leftWritten, rightWritten, List.append_assoc,
        List.singleton_append]

@[simp]
theorem toList_wire (rule : Rule) : rule.wire.toList = rule.write := by
  simp [wire]

end Eligibility.Rule
