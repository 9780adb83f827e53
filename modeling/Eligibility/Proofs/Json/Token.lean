import Eligibility.Json.Token
import Eligibility.Proofs.Json.Quoted

/-!
# Tokens of written pieces

Punctuation, the word `null` and a written string are each cut off a text as one
token, whatever comes behind them.
-/

namespace Eligibility.Json

/-- The character that is written for a token of punctuation. -/
def Token.mark? : Token → Option Char
  | openBrace => some '{'
  | closeBrace => some '}'
  | openBracket => some '['
  | closeBracket => some ']'
  | colon => some ':'
  | comma => some ','
  | _ => none

open Token

theorem tokens_eq (text : List Char) :
    tokens text = match next? text with
      | none => []
      | some (token, rest) => token :: tokens rest := by
  rw [tokens]
  split <;> simp only [*]

@[simp]
theorem tokens_nil : tokens [] = [] := by
  rw [tokens_eq]
  rfl

theorem tokens_space (rest : List Char) : tokens (' ' :: rest) = tokens rest := by
  rw [tokens_eq, tokens_eq]
  rfl

theorem tokens_cons {first : Char} (solid : isSpace first = false) (rest : List Char) :
    tokens (first :: rest) = (starting first rest).1 :: tokens (starting first rest).2 := by
  have front : next? (first :: rest) = some (starting first rest) := by
    rw [next?, List.dropWhile_cons_of_neg (by simp [solid])]
  rw [tokens_eq, front]

theorem tokens_mark {token : Token} {mark : Char} (known : token.mark? = some mark)
    (rest : List Char) : tokens (mark :: rest) = token :: tokens rest := by
  cases token with
  | openBrace | closeBrace | openBracket | closeBracket | colon | comma =>
      cases known
      exact tokens_cons rfl rest
  | null | bool value | number numeral | string text | bad => cases known

theorem tokens_null (rest : List Char) :
    tokens ('n' :: 'u' :: 'l' :: 'l' :: rest) = .null :: tokens rest :=
  tokens_cons rfl _

/-- A written string is one token, which has all its characters. -/
theorem tokens_write_append (text rest : List Char) :
    tokens (Quoted.write text ++ rest) = .string (some (String.ofList text)) :: tokens rest := by
  have started : starting '"' (text.flatMap Quoted.escape ++ '"' :: rest) =
      (.string (some (String.ofList text)), rest) := by
    simp [starting, Quoted.scan_written_append, Quoted.decode?_map_element]
  have text_eq : Quoted.write text ++ rest =
      '"' :: (text.flatMap Quoted.escape ++ '"' :: rest) := by
    simp [Quoted.write]
  rw [text_eq, tokens_cons rfl, started]

end Eligibility.Json
