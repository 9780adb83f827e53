import Eligibility.Proofs.Rule.Segment

/-!
# Runs of words

Between the connectives of a text stand the maximal runs of its other words.
Segments can be cut wherever the words can, so the conditions among them are the
spans of these runs, and nothing else is.
-/

namespace Eligibility

open Eligibility.Text

/-- The word is one for a connective. -/
def Text.Word.IsConnective (word : Word) : Prop :=
  ∃ connective : Connective, word.letters = connective.word.toList

/-- A condition is due behind words: there are none, or the last one is for a
connective. -/
def IsDueBehind (words : List Word) : Prop :=
  ∀ word ∈ words.getLast?, word.IsConnective

/-- A maximal run of words that are for no connective, between the words in front
of it and those behind it. -/
structure IsMaximalRun (before run after : List Word) : Prop where
  nonempty : run ≠ []
  plain : Segment.IsPlain run
  starts : IsDueBehind before
  ends : ∀ word ∈ after.head?, word.IsConnective

/-! ## Where a condition is due -/

theorem isDueBehind_nil : IsDueBehind [] := by
  simp [IsDueBehind]

theorem isDueBehind_append_iff (front : List Word) {words : List Word} (nonempty : words ≠ []) :
    IsDueBehind (front ++ words) ↔ IsDueBehind words := by
  rw [IsDueBehind, List.getLast?_append_of_ne_nil _ nonempty, IsDueBehind]

/-- Behind a connective a condition is due as at the start of a text. -/
theorem isDueBehind_append_cons_iff (front : List Word) {words : List Word} {word : Word}
    (connective : word.IsConnective) :
    IsDueBehind (front ++ word :: words) ↔ IsDueBehind words := by
  rw [isDueBehind_append_iff front (List.cons_ne_nil word words)]
  by_cases last : words = []
  · subst last
    simpa [IsDueBehind] using connective
  · exact isDueBehind_append_iff [word] last

theorem not_isDueBehind_of_isPlain {run : List Word} (nonempty : run ≠ [])
    (plain : Segment.IsPlain run) : ¬ IsDueBehind run := by
  intro due
  rcases due _ (List.getLast?_eq_getLast_of_ne_nil nonempty) with ⟨connective, letters_eq⟩
  exact plain _ (List.getLast_mem nonempty) connective letters_eq

namespace Segment

/-- Segments that start apart come from words of which the first is for a
connective. -/
theorem isConnective_of_startsApart {words : List Word} (apart : StartsApart (ofWords words)) :
    ∀ word ∈ words.head?, word.IsConnective := by
  cases words with
  | nil => simp
  | cons word words =>
      rintro _ ⟨⟩
      rcases ofWords_cons_cases word words with
        ⟨connective, letters_eq, -⟩ | ⟨-, ⟨text, rest, -, segments_eq⟩ | ⟨-, segments_eq⟩⟩
      · exact ⟨connective, letters_eq⟩
      all_goals
        rw [segments_eq] at apart
        exact apart.elim

/-- Words of which the first is for a connective form segments that start apart. -/
theorem startsApart_of_isConnective {words : List Word}
    (first : ∀ word ∈ words.head?, word.IsConnective) : StartsApart (ofWords words) := by
  cases words with
  | nil => exact trivial
  | cons word words =>
      rcases first word rfl with ⟨connective, letters_eq⟩
      rcases word with ⟨letters, gap⟩
      subst letters_eq
      rw [ofWords_connective_cons]
      exact trivial

theorem ofWords_append_connective (front : List Word) (connective : Connective)
    (gap : List Char) (back : List Word) :
    ofWords (front ++ ⟨connective.word.toList, gap⟩ :: back) =
      ofWords front ++ .connective connective :: ofWords back := by
  rw [← ofWords_connective_cons connective gap]
  apply ofWords_append
  rw [ofWords_connective_cons]
  exact trivial

/-- Where a condition is due, words form segments of their own. -/
theorem ofWords_append_of_isDueBehind {front back : List Word} (due : IsDueBehind front) :
    ofWords (front ++ back) = ofWords front ++ ofWords back := by
  rcases List.eq_nil_or_concat' front with rfl | ⟨front, last, rfl⟩
  · rfl
  · rcases due last (by simp) with ⟨connective, letters_eq⟩
    rcases last with ⟨letters, gap⟩
    subst letters_eq
    rw [List.append_assoc, List.singleton_append, ofWords_append_connective,
      ofWords_append_connective, ofWords_nil, List.append_assoc, List.singleton_append]

/-- Segments can be cut where the words can.  In front of a condition the words
end where a condition is due. -/
theorem exists_words_of_ofWords_eq_append {words : List Word} {before after : List Segment}
    (formed : ofWords words = before ++ after) :
    ∃ front back, words = front ++ back ∧ ofWords front = before ∧ ofWords back = after ∧
      (¬ StartsApart after → IsDueBehind front) := by
  induction before generalizing words with
  | nil => exact ⟨[], words, rfl, rfl, formed, fun _ => isDueBehind_nil⟩
  | cons segment before ih =>
      rw [List.cons_append] at formed
      cases segment with
      | connective connective =>
          rcases exists_word_of_ofWords_eq formed with ⟨gap, rest, rfl, rest_eq⟩
          rcases ih rest_eq with ⟨front, back, rfl, front_eq, back_eq, due⟩
          refine ⟨⟨connective.word.toList, gap⟩ :: front, back, rfl, ?_, back_eq, ?_⟩
          · rw [ofWords_connective_cons, front_eq]
          · intro condition
            exact (isDueBehind_append_cons_iff [] ⟨connective, rfl⟩).mpr (due condition)
      | condition text =>
          have apart := startsApart_of_ofWords_eq formed
          rcases exists_run_of_ofWords_eq formed with
            ⟨run, rest, rfl, nonempty, plain, rfl, rest_eq⟩
          rcases ih rest_eq with ⟨front, back, rfl, front_eq, back_eq, due⟩
          have frontApart : StartsApart (ofWords front) := by
            rw [front_eq]
            exact apart.of_append
          refine ⟨run ++ front, back, (List.append_assoc _ _ _).symm, ?_, back_eq, ?_⟩
          · rw [ofWords_run_append nonempty plain frontApart, front_eq]
          · intro condition
            by_cases joined : front = []
            · subst joined
              rw [← front_eq] at apart
              exact absurd apart condition
            · exact (isDueBehind_append_iff run joined).mpr (due condition)

/-- A condition among the segments is the span of a maximal run. -/
theorem ofWords_eq_append_condition_iff {words : List Word} {before after : List Segment}
    {text : List Char} :
    ofWords words = before ++ .condition text :: after ↔
      ∃ front run back, words = front ++ run ++ back ∧ IsMaximalRun front run back ∧
        Word.span run = text ∧ ofWords front = before ∧ ofWords back = after := by
  constructor
  · intro formed
    rcases exists_words_of_ofWords_eq_append formed with
      ⟨front, behind, rfl, front_eq, behind_eq, due⟩
    have apart := startsApart_of_ofWords_eq behind_eq
    rcases exists_run_of_ofWords_eq behind_eq with
      ⟨run, back, rfl, nonempty, plain, span_eq, back_eq⟩
    rw [← back_eq] at apart
    exact ⟨front, run, back, (List.append_assoc _ _ _).symm,
      ⟨nonempty, plain, due id, isConnective_of_startsApart apart⟩, span_eq, front_eq, back_eq⟩
  · rintro ⟨front, run, back, rfl, maximal, rfl, rfl, rfl⟩
    rw [List.append_assoc, ofWords_append_of_isDueBehind maximal.starts,
      ofWords_run_append maximal.nonempty maximal.plain (startsApart_of_isConnective maximal.ends)]

/-- A connective among the segments is one of the words. -/
theorem ofWords_eq_append_connective_iff {words : List Word} {before after : List Segment}
    {connective : Connective} :
    ofWords words = before ++ .connective connective :: after ↔
      ∃ front gap back, words = front ++ ⟨connective.word.toList, gap⟩ :: back ∧
        ofWords front = before ∧ ofWords back = after := by
  constructor
  · intro formed
    rcases exists_words_of_ofWords_eq_append formed with
      ⟨front, behind, rfl, front_eq, behind_eq, -⟩
    rcases exists_word_of_ofWords_eq behind_eq with ⟨gap, back, rfl, back_eq⟩
    exact ⟨front, gap, back, rfl, front_eq, back_eq⟩
  · rintro ⟨front, gap, back, rfl, rfl, rfl⟩
    exact ofWords_append_connective front connective gap back

end Segment

end Eligibility
