import Eligibility.Connective
import Eligibility.Text.Blank

/-!
# Segments of a rule text

The words of a rule text are its maximal runs without blank characters.  A word
for a connective is a segment of its own.  All words between two connectives
form one condition, which keeps the blank text between them but not the blank
text around them.  Quotes and parentheses mean nothing here.
-/

namespace Eligibility

/-- A segment of a rule text. -/
inductive Segment
  | condition (text : List Char)
  | connective (connective : Connective)
deriving DecidableEq, Repr

namespace Segment

/-- Puts a word in front of segments, with the blank text that follows the
word. -/
def prependWord (word gap : List Char) (segments : List Segment) : List Segment :=
  match Connective.ofString? (String.ofList word), segments with
  | some joining, _ => .connective joining :: segments
  | none, .condition text :: rest => .condition (word ++ gap ++ text) :: rest
  | none, _ => .condition word :: segments

/-- Puts a run of characters in front of the blank text and the segments that
follow it. -/
def prependRun (run : List Char) (after : List Char × List Segment) :
    List Char × List Segment :=
  if run.all Text.isBlank then (run, after.2) else ([], prependWord run after.1 after.2)

/-- The segments of a text, in text order. -/
def ofText (text : List Char) : List Segment :=
  ((Text.runs text).foldr prependRun ([], [])).2

/-- Whether a character is one of those that compare. -/
def isComparator (c : Char) : Bool :=
  c == '=' || c == '>' || c == '<'

end Segment

end Eligibility
