import Eligibility.Json.Document
import Eligibility.Proofs.Json.Token

/-!
# Assembling documents piece by piece

The state of a document after a text can be followed along the pieces of which
the text is made, so what a value writes can be read off its parts.
-/

namespace Eligibility.Json.Document

/-- The state after one more text. -/
def State.after (state : State) (text : List Char) : State :=
  (tokens text).foldl step state

namespace State

theorem ofText_eq (text : List Char) : ofText text = ((value []).after text).document :=
  rfl

@[simp]
theorem after_nil (state : State) : state.after [] = state := by
  rw [after, tokens_nil, List.foldl_nil]

theorem after_space (state : State) (rest : List Char) :
    state.after (' ' :: rest) = state.after rest := by
  rw [after, tokens_space, after]

theorem after_mark (token : Token) {mark : Char} (known : token.mark? = some mark)
    (state : State) (rest : List Char) :
    state.after (mark :: rest) = (step state token).after rest := by
  rw [after, tokens_mark known, List.foldl_cons, after]

theorem after_null (state : State) (rest : List Char) :
    state.after ("null".toList ++ rest) = (step state .null).after rest := by
  rw [after]
  change List.foldl step state (tokens ('n' :: 'u' :: 'l' :: 'l' :: rest)) = _
  rw [tokens_null, List.foldl_cons, after]

theorem after_write (state : State) (text rest : List Char) :
    state.after (Quoted.write text ++ rest) =
      (step state (.string (some (String.ofList text)))).after rest := by
  rw [after, tokens_write_append, List.foldl_cons, after]

theorem after_firstKey (frames : List Frame) (name rest : List Char) :
    (firstKey frames).after (Quoted.write name ++ ':' :: rest) =
      (value (.object [] (some (String.ofList name)) :: frames)).after rest := by
  rw [after_write, after_mark .colon rfl]
  rfl

theorem after_nextKey (members : List (Option String × Raw)) (frames : List Frame)
    (name rest : List Char) :
    (afterMember members frames).after (',' :: (Quoted.write name ++ ':' :: rest)) =
      (value (.object members (some (String.ofList name)) :: frames)).after rest := by
  rw [after_mark .comma rfl, after_write, after_mark .colon rfl]
  rfl

end State

end Eligibility.Json.Document
