import Eligibility.Error
import Eligibility.Text.Blank
import Eligibility.Text.FieldChar

/-!
# Conditions

A condition names a field, a comparator and a literal.  Blank text may stand
around the comparator, and the literal may have a quote before it, after it or
on both sides; the two quotes need not be alike.  The literal itself holds no
quote and loses the blank text at its ends, so it may become empty, but
something other than a closing quote must stand where it is written.  A lone
quote closes the literal if blank text comes before it.
-/

namespace Eligibility

/-- The three ways to compare a field with a literal. -/
inductive Comparator
  | equal
  | greater
  | less
deriving DecidableEq, Repr

namespace Comparator

/-- The character for a comparator. -/
def symbol : Comparator → Char
  | equal => '='
  | greater => '>'
  | less => '<'

/-- The comparator that a character stands for. -/
def ofChar? (c : Char) : Option Comparator :=
  if c = '=' then some equal
  else if c = '>' then some greater
  else if c = '<' then some less
  else none

/-- Whether the comparison of a field with a literal comes out as asked. -/
def accepts : Comparator → Ordering → Bool
  | equal, order => order == .eq
  | greater, order => order == .gt
  | less, order => order == .lt

@[simp]
theorem ofChar?_symbol (comparator : Comparator) :
    ofChar? comparator.symbol = some comparator := by
  cases comparator <;> decide

end Comparator

/-- A condition, taken apart. -/
structure Condition where
  field : String
  comparator : Comparator
  /-- The literal without its quotes and without blank text at its ends. -/
  literal : String
deriving DecidableEq, Repr

namespace Condition

/-- The characters that may stand around a literal. -/
def isQuote (c : Char) : Bool :=
  c == '\'' || c == '"'

/-- A text without the quote at its end, if there is one. -/
def dropClosingQuote (text : List Char) : List Char :=
  match text.getLast? with
  | some last => if isQuote last then text.dropLast else text
  | none => text

/-- A literal of which the quotes have been taken off. -/
def bareLiteral? (text : List Char) : Option (List Char) :=
  if text = [] ∨ text.any isQuote then none else some (Text.trim text)

/-- The literal that is written after a comparator, in a text without blank
characters at its end. -/
def literal? (text : List Char) : Option (List Char) :=
  match Text.trimStart text with
  | [] => none
  | first :: rest =>
      if isQuote first then
        if rest = [] then
          if text.length = 1 then none else some []
        else bareLiteral? (dropClosingQuote rest)
      else bareLiteral? (dropClosingQuote (first :: rest))

/-- The condition that a text without blank characters at its ends writes. -/
def ofTrimmed? (text : List Char) : Option Condition :=
  let field := text.takeWhile Text.isFieldChar
  match field, Text.trimStart (text.dropWhile Text.isFieldChar) with
  | _ :: _, symbol :: rest => do
      let comparator ← Comparator.ofChar? symbol
      let literal ← literal? rest
      return { field := String.ofList field, comparator, literal := String.ofList literal }
  | _, _ => none

/-- The condition that a text writes. -/
def parse (text : String) : Except RuleError Condition :=
  match ofTrimmed? (Text.trim text.toList) with
  | some condition => .ok condition
  | none => .error (.invalidOperand text)

end Condition

end Eligibility
