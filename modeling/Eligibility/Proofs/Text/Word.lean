import Eligibility.Proofs.Text.Blank
import Mathlib.Data.List.SplitBy

/-!
# Words of a text

The words of a text are its maximal runs of characters that are not blank.
Every text is blank text followed by words, each with the blank text behind it,
and only the last word may have nothing behind it.
-/

namespace Eligibility.Text

/-- A word together with the blank text that follows it. -/
structure Word where
  letters : List Char
  gap : List Char
deriving DecidableEq, Repr

namespace Word

/-- The text that words and the gaps after them make up. -/
def written : List Word → List Char
  | [] => []
  | word :: words => word.letters ++ word.gap ++ written words

/-- The text from the first letter of the first word to the last letter of the
last word. -/
def span : List Word → List Char
  | [] => []
  | [word] => word.letters
  | word :: next :: words => word.letters ++ word.gap ++ span (next :: words)

/-- Words that stand apart: none is followed by another without a gap. -/
def Apart : List Word → Prop
  | [] => True
  | word :: words =>
      IsWord word.letters ∧ IsGap word.gap ∧ (words ≠ [] → word.gap ≠ []) ∧ Apart words

/-- Whether words stand apart. -/
def decideApart : (words : List Word) → Decidable (Apart words)
  | [] => .isTrue trivial
  | word :: words =>
      have := decideApart words
      inferInstanceAs (Decidable (IsWord word.letters ∧ IsGap word.gap ∧
        (words ≠ [] → word.gap ≠ []) ∧ Apart words))

instance (words : List Word) : Decidable (Apart words) :=
  decideApart words

end Word

/-- The words of a text, with the blank text in front of the first one. -/
structure Wording (text : List Char) where
  lead : List Char
  words : List Word
  lead_isGap : IsGap lead
  apart : Word.Apart words
  text_eq : text = lead ++ Word.written words

namespace Word

@[simp]
theorem written_nil : written [] = [] :=
  rfl

@[simp]
theorem written_cons (word : Word) (words : List Word) :
    written (word :: words) = word.letters ++ (word.gap ++ written words) := by
  simp [written]

theorem written_append (words others : List Word) :
    written (words ++ others) = written words ++ written others := by
  induction words with
  | nil => rfl
  | cons word words ih => simp [ih]

@[simp]
theorem span_singleton (word : Word) : span [word] = word.letters :=
  rfl

theorem span_cons (word : Word) {words : List Word} (more : words ≠ []) :
    span (word :: words) = word.letters ++ word.gap ++ span words := by
  cases words with
  | nil => contradiction
  | cons next words => rfl

@[simp]
theorem apart_nil : Apart [] :=
  trivial

theorem apart_cons {word : Word} {words : List Word} :
    Apart (word :: words) ↔
      IsWord word.letters ∧ IsGap word.gap ∧ (words ≠ [] → word.gap ≠ []) ∧ Apart words :=
  Iff.rfl

/-- A text of words starts with a letter. -/
theorem isBlank_of_mem_head?_written {words : List Word} (apart : Apart words) {c : Char}
    (first : c ∈ (written words).head?) : isBlank c = false := by
  cases words with
  | nil => simp at first
  | cons word words =>
      rcases apart with ⟨⟨nonempty, letters⟩, -⟩
      rcases List.exists_cons_of_ne_nil nonempty with ⟨letter, rest, letters_eq⟩
      rw [written_cons, letters_eq] at first
      have letter_eq : letter = c := by simpa using first
      exact letters c (by simp [letters_eq, letter_eq])

theorem Apart.eq_nil_of_gap_eq_nil {word : Word} {words : List Word}
    (apart : Apart (word :: words)) (closed : word.gap = []) : words = [] := by
  by_contra more
  exact apart.2.2.1 more closed

/-- Behind the letters of a word comes a blank character, if anything does. -/
theorem Apart.isBlank_of_mem_head? {word : Word} {words : List Word}
    (apart : Apart (word :: words)) {c : Char}
    (first : c ∈ (word.gap ++ written words).head?) : isBlank c = true := by
  cases gap_eq : word.gap with
  | nil =>
      rw [gap_eq, apart.eq_nil_of_gap_eq_nil gap_eq] at first
      cases first
  | cons d gap =>
      rw [gap_eq] at first
      cases first
      exact apart.2.1 c (by simp [gap_eq])

end Word

/-- Every text has words. -/
theorem nonempty_wording (text : List Char) : Nonempty (Wording text) := by
  induction text with
  | nil => exact ⟨⟨[], [], isGap_nil, Word.apart_nil, rfl⟩⟩
  | cons c text ih =>
      rcases ih with ⟨⟨lead, words, lead_isGap, apart, rfl⟩⟩
      by_cases blank : isBlank c = true
      · exact ⟨⟨c :: lead, words, isGap_cons.mpr ⟨blank, lead_isGap⟩, apart, rfl⟩⟩
      · have letter : isBlank c = false := by simpa using blank
        by_cases joined : lead = [] ∧ words ≠ []
        · rcases joined with ⟨rfl, nonempty⟩
          rcases List.exists_cons_of_ne_nil nonempty with ⟨word, words, rfl⟩
          rcases Word.apart_cons.mp apart with ⟨⟨-, letters⟩, rest⟩
          have longer : IsWord (c :: word.letters) :=
            ⟨List.cons_ne_nil c word.letters, List.forall_mem_cons.mpr ⟨letter, letters⟩⟩
          exact ⟨⟨[], ⟨c :: word.letters, word.gap⟩ :: words, isGap_nil, ⟨longer, rest⟩,
            by simp⟩⟩
        · have single : IsWord [c] := ⟨List.cons_ne_nil c [], by simpa using letter⟩
          have separated : words ≠ [] → lead ≠ [] := by
            intro more empty
            exact joined ⟨empty, more⟩
          exact ⟨⟨[], ⟨[c], lead⟩ :: words, isGap_nil, ⟨single, lead_isGap, separated, apart⟩,
            by simp⟩⟩

/-- A run comes first among the runs of a text if all its characters are of one
sort and the character behind it is of the other sort. -/
theorem runs_append {run rest : List Char} {blank : Bool} (nonempty : run ≠ [])
    (uniform : ∀ c ∈ run, isBlank c = blank) (seam : ∀ c ∈ rest.head?, isBlank c = !blank) :
    runs (run ++ rest) = run :: runs rest := by
  have separate : ∀ c ∈ run.getLast?, ∀ d ∈ rest.head?, (isBlank c == isBlank d) = false := by
    intro c last d first
    rw [uniform c (List.mem_of_mem_getLast? last), seam d first]
    cases blank <;> rfl
  have alike : run.IsChain fun c d => (isBlank c == isBlank d) = true := by
    apply List.Pairwise.isChain
    apply List.pairwise_of_forall_mem_list
    intro c cMem d dMem
    rw [uniform c cMem, uniform d dMem]
    exact beq_self_eq_true blank
  rw [runs, List.splitBy_append separate, List.splitBy_of_isChain nonempty alike]
  rfl

end Eligibility.Text
