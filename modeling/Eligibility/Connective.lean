/-!
# Connectives

A connective joins two verdicts.  It is written as a whole word in capitals;
any other spelling is no connective.
-/

namespace Eligibility

/-- The two ways to join verdicts. -/
inductive Connective
  | and
  | or
deriving DecidableEq, Repr

namespace Connective

/-- The word for a connective. -/
def word : Connective → String
  | and => "AND"
  | or => "OR"

/-- The connective that a text is the word for. -/
def ofString? (text : String) : Option Connective :=
  if text = "AND" then some and
  else if text = "OR" then some or
  else none

/-- The verdict on two verdicts. -/
def apply : Connective → Bool → Bool → Bool
  | and, left, right => left && right
  | or, left, right => left || right

@[simp]
theorem ofString?_word (connective : Connective) :
    ofString? connective.word = some connective := by
  cases connective <;> decide

/-- Exactly the word for a connective is read as that connective. -/
theorem ofString?_eq_some_iff {text : String} {connective : Connective} :
    ofString? text = some connective ↔ text = connective.word := by
  constructor
  · intro read
    unfold ofString? at read
    cases connective <;> grind [word]
  · rintro rfl
    exact ofString?_word connective

end Connective

end Eligibility
