import Eligibility.Json.Token

/-!
# Documents

A document is what the tokens of a text write, before any of it is interpreted.
It is defined for every text: where the tokens stop making sense the document
stops too, an array or object that is still open stays marked as such, and a
value that should stand there is `missing`.  Readers walk over a document from
left to right, so what they reject first is what the text shows first.

The document is assembled one token at a time over a stack of the arrays and
objects that are still open, so its depth is not limited here.
-/

namespace Eligibility.Json

/-- A value as it is written. -/
inductive Raw
  | null
  | bool (value : Bool)
  | number (numeral : Numeral)
  /-- A string, with its text if every surrogate in it is paired. -/
  | string (text : Option String)
  /-- The items of an array, and whether its closing bracket follows them. -/
  | array (items : List Raw) (closed : Bool)
  /-- The members of an object, each with its name if every surrogate in that is
  paired, and whether the closing brace follows them. -/
  | object (members : List (Option String × Raw)) (closed : Bool)
  /-- No value, where the text stops being JSON. -/
  | missing
deriving Inhabited, Repr

/-- The value that a text writes, and whether more tokens follow it. -/
structure Document where
  root : Raw
  trailing : Bool
deriving Inhabited, Repr

namespace Document

/-- An array or object in which a value is being read, with what it holds so
far, last first. -/
inductive Frame
  | array (items : List Raw)
  | object (members : List (Option String × Raw)) (key : Option String)
deriving Repr

/-- What may come next in a text. -/
inductive State
  /-- A value, in the innermost of some frames. -/
  | value (frames : List Frame)
  /-- The first item of an array, or its end. -/
  | firstItem (frames : List Frame)
  /-- A comma after an item, or the end of the array. -/
  | afterItem (items : List Raw) (frames : List Frame)
  /-- The first key of an object, or its end. -/
  | firstKey (frames : List Frame)
  /-- A key after a comma. -/
  | nextKey (members : List (Option String × Raw)) (frames : List Frame)
  /-- The colon after a key. -/
  | afterKey (members : List (Option String × Raw)) (key : Option String) (frames : List Frame)
  /-- A comma after a member, or the end of the object. -/
  | afterMember (members : List (Option String × Raw)) (frames : List Frame)
  /-- The end of the text. -/
  | complete (root : Raw)
  /-- Anything: the text has stopped being JSON. -/
  | finished (document : Document)
deriving Repr

/-- Leaves every frame open around what has been read inside them. -/
def abandon (inner : Raw) : List Frame → Raw
  | [] => inner
  | .array items :: frames => abandon (.array (inner :: items).reverse false) frames
  | .object members key :: frames =>
      abandon (.object ((key, inner) :: members).reverse false) frames

/-- The state in which a text has stopped being JSON. -/
def broken (inner : Raw) (frames : List Frame) : State :=
  .finished { root := abandon inner frames, trailing := false }

/-- The state after a value in the innermost frame. -/
def supply (value : Raw) : List Frame → State
  | [] => .complete value
  | .array items :: frames => .afterItem (value :: items) frames
  | .object members key :: frames => .afterMember ((key, value) :: members) frames

/-- The state after the first token of a value. -/
def beginValue (frames : List Frame) : Token → State
  | .null => supply .null frames
  | .bool value => supply (.bool value) frames
  | .number numeral => supply (.number numeral) frames
  | .string text => supply (.string text) frames
  | .openBracket => .firstItem frames
  | .openBrace => .firstKey frames
  | _ => broken .missing frames

/-- The state after the token that should be a key, which only a string is. -/
def readKey (members : List (Option String × Raw)) (frames : List Frame) : Token → State
  | .string text => .afterKey members text frames
  | _ => broken (.object members.reverse false) frames

/-- The state after one more token. -/
def step : State → Token → State
  | .value frames, token => beginValue frames token
  | .firstItem frames, .closeBracket => supply (.array [] true) frames
  | .firstItem frames, token => beginValue (.array [] :: frames) token
  | .afterItem items frames, .comma => .value (.array items :: frames)
  | .afterItem items frames, .closeBracket => supply (.array items.reverse true) frames
  | .afterItem items frames, _ => broken (.array items.reverse false) frames
  | .firstKey frames, .closeBrace => supply (.object [] true) frames
  | .firstKey frames, token => readKey [] frames token
  | .nextKey members frames, token => readKey members frames token
  | .afterKey members key frames, .colon => .value (.object members key :: frames)
  | .afterKey members key frames, _ => broken .missing (.object members key :: frames)
  | .afterMember members frames, .comma => .nextKey members frames
  | .afterMember members frames, .closeBrace => supply (.object members.reverse true) frames
  | .afterMember members frames, _ => broken (.object members.reverse false) frames
  | .complete root, _ => .finished { root, trailing := true }
  | .finished document, _ => .finished document

/-- The document of a text that ends in a given state. -/
def State.document : State → Document
  | .value frames => ⟨abandon .missing frames, false⟩
  | .firstItem frames => ⟨abandon (.array [] false) frames, false⟩
  | .afterItem items frames => ⟨abandon (.array items.reverse false) frames, false⟩
  | .firstKey frames => ⟨abandon (.object [] false) frames, false⟩
  | .nextKey members frames => ⟨abandon (.object members.reverse false) frames, false⟩
  | .afterKey members key frames =>
      ⟨abandon .missing (.object members key :: frames), false⟩
  | .afterMember members frames => ⟨abandon (.object members.reverse false) frames, false⟩
  | .complete root => ⟨root, false⟩
  | .finished document => document

/-- The document that tokens write. -/
def ofTokens (tokens : List Token) : Document :=
  (tokens.foldl step (.value [])).document

/-- The document of a text. -/
def ofText (text : List Char) : Document :=
  ofTokens (tokens text)

end Document

end Eligibility.Json
