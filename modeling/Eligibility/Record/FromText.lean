import Eligibility.Json.Reader
import Eligibility.Record

/-!
# Reading records from a text

A record is read as a stream.  A text that begins with a value other than an
object is rejected for that, whatever follows that beginning; a text that begins
with an object must be JSON to its end.
-/

namespace Eligibility.Record

/-- Why a text is no record. -/
inductive TextError
  | notJson
  | notObject
deriving DecidableEq, Repr

/-- The record that a text writes. -/
def ofText (text : String) : Except TextError Record :=
  let document := Json.Document.ofText text.toList
  match document.root with
  | .object members closed =>
      match Json.Raw.value? Json.nestingLimit (.object members closed), document.trailing with
      | some (.object entries), false => .ok (Table.ofPairs entries)
      | _, _ => .error .notJson
  | root => if root.showsType then .error .notObject else .error .notJson

end Eligibility.Record
