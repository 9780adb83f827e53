import Eligibility.Proofs.Rule.Segment
import Eligibility.Proofs.Rule.Sentence

/-!
# Readings of a rule text

To read a rule text is to split its words into conditions with the word for a
connective between every two of them.  A condition is a run of other words that
holds a comparator somewhere, and its text is the span of the run in the rule
text.  A text compiles exactly if it has a reading, and then to the left-nested
rule of the sentence that was read.
-/

namespace Eligibility

open Eligibility.Text

/-- A run of words that is a condition. -/
structure IsCondition (run : List Word) : Prop where
  nonempty : run ≠ []
  plain : Segment.IsPlain run
  compares : ∃ c ∈ Word.span run, c = '=' ∨ c = '>' ∨ c = '<'

/-- A connective, the blank text behind its word, and the run of words that
follows. -/
structure Clause where
  connective : Connective
  gap : List Char
  run : List Word
deriving DecidableEq, Repr

/-- The words of a clause. -/
def Clause.words (clause : Clause) : List Word :=
  ⟨clause.connective.word.toList, clause.gap⟩ :: clause.run

/-- A clause as it stands in a sentence, its condition being the span of the
run. -/
def Clause.spelled (clause : Clause) : Connective × List Char :=
  (clause.connective, Word.span clause.run)

/-- A split of the words of a text into a first condition and clauses. -/
structure Reading (text : List Char) extends Wording text where
  first : List Word
  clauses : List Clause
  words_eq : words = first ++ clauses.flatMap Clause.words
  first_isCondition : IsCondition first
  clauses_areConditions : ∀ clause ∈ clauses, IsCondition clause.run

/-- The sentence that has been read. -/
def Reading.sentence {text : List Char} (reading : Reading text) : Sentence where
  first := Word.span reading.first
  others := reading.clauses.map Clause.spelled

namespace Segment

theorem any_isComparator_iff {text : List Char} :
    text.any isComparator = true ↔ ∃ c ∈ text, c = '=' ∨ c = '>' ∨ c = '<' := by
  simp [isComparator, or_assoc]

/-- The words of a first condition and of clauses form the segments of a
sentence. -/
theorem ofWords_append_clauses {run : List Word} {clauses : List Clause}
    (condition : IsCondition run) (conditions : ∀ clause ∈ clauses, IsCondition clause.run) :
    ofWords (run ++ clauses.flatMap Clause.words) =
      Sentence.segments ⟨Word.span run, clauses.map Clause.spelled⟩ := by
  induction clauses generalizing run with
  | nil => exact ofWords_run_append condition.nonempty condition.plain trivial
  | cons clause clauses ih =>
      rcases List.forall_mem_cons.mp conditions with ⟨clauseCondition, laterConditions⟩
      have behind : ofWords ((clause :: clauses).flatMap Clause.words) =
          Sentence.laterSegments ((clause :: clauses).map Clause.spelled) := by
        rw [List.flatMap_cons, Clause.words, List.cons_append, ofWords_connective_cons,
          ih clauseCondition laterConditions]
        rfl
      have apart : StartsApart (ofWords ((clause :: clauses).flatMap Clause.words)) := by
        rw [behind]
        exact trivial
      rw [ofWords_run_append condition.nonempty condition.plain apart, behind]
      rfl

/-- Words that form the segments of a sentence are those of a first condition
and of clauses. -/
theorem exists_clauses_of_ofWords_eq {words : List Word} {sentence : Sentence}
    (formed : ofWords words = sentence.segments) (compares : sentence.Compares) :
    ∃ (run : List Word) (clauses : List Clause),
      words = run ++ clauses.flatMap Clause.words ∧ IsCondition run ∧
        (∀ clause ∈ clauses, IsCondition clause.run) ∧
        sentence = ⟨Word.span run, clauses.map Clause.spelled⟩ := by
  rcases sentence with ⟨text, others⟩
  induction others generalizing words text with
  | nil =>
      rcases exists_run_of_ofWords_eq formed with
        ⟨run, rest, rfl, nonempty, plain, rfl, rest_eq⟩
      have comparator := any_isComparator_iff.mp (compares (Word.span run) List.mem_cons_self)
      rw [Sentence.laterSegments_nil, ofWords_eq_nil_iff] at rest_eq
      subst rest_eq
      exact ⟨run, [], rfl, ⟨nonempty, plain, comparator⟩, by simp, rfl⟩
  | cons other others ih =>
      rcases other with ⟨connective, later⟩
      rcases exists_run_of_ofWords_eq formed with
        ⟨run, rest, rfl, nonempty, plain, rfl, rest_eq⟩
      have comparator := any_isComparator_iff.mp (compares (Word.span run) List.mem_cons_self)
      rcases exists_word_of_ofWords_eq rest_eq with ⟨gap, behind, rfl, behind_eq⟩
      have laterCompares : Sentence.Compares ⟨later, others⟩ := fun condition member =>
        compares condition (List.mem_cons_of_mem _ member)
      rcases ih later behind_eq laterCompares with
        ⟨laterRun, clauses, rfl, laterCondition, conditions, later_eq⟩
      cases later_eq
      exact ⟨run, ⟨connective, gap, laterRun⟩ :: clauses, rfl, ⟨nonempty, plain, comparator⟩,
        List.forall_mem_cons.mpr ⟨laterCondition, conditions⟩, rfl⟩

end Segment

namespace Reading

variable {text : List Char}

theorem ofText_eq_segments (reading : Reading text) :
    Segment.ofText text = reading.sentence.segments := by
  rw [Segment.ofText_eq_ofWords reading.toWording, reading.words_eq]
  exact Segment.ofWords_append_clauses reading.first_isCondition reading.clauses_areConditions

theorem sentence_compares (reading : Reading text) : reading.sentence.Compares := by
  intro condition member
  apply Segment.any_isComparator_iff.mpr
  rcases List.mem_cons.mp member with rfl | member
  · exact reading.first_isCondition.compares
  · simp only [sentence, List.map_map, List.mem_map] at member
    rcases member with ⟨clause, clauseMem, rfl⟩
    exact (reading.clauses_areConditions clause clauseMem).compares

/-- A text whose segments spell a sentence that compares is read as that
sentence. -/
theorem exists_of_ofText_eq {sentence : Sentence}
    (spelled : Segment.ofText text = sentence.segments) (compares : sentence.Compares) :
    ∃ reading : Reading text, reading.sentence = sentence := by
  rcases nonempty_wording text with ⟨wording⟩
  rw [Segment.ofText_eq_ofWords wording] at spelled
  rcases Segment.exists_clauses_of_ofWords_eq spelled compares with
    ⟨run, clauses, words_eq, condition, conditions, rfl⟩
  exact ⟨⟨wording, run, clauses, words_eq, condition, conditions⟩, rfl⟩

theorem compile_eq {text : String} (reading : Reading text.toList) :
    Rule.compile text = .ok reading.sentence.rule :=
  Rule.compile_eq_ok_iff_segments.mpr
    ⟨reading.sentence, reading.ofText_eq_segments, reading.sentence_compares, rfl⟩

theorem exists_of_compile_eq_ok {text : String} {rule : Rule}
    (compiled : Rule.compile text = .ok rule) :
    ∃ reading : Reading text.toList, reading.sentence.rule = rule := by
  rcases Rule.compile_eq_ok_iff_segments.mp compiled with
    ⟨sentence, spelled, compares, rule_eq⟩
  rcases exists_of_ofText_eq spelled compares with ⟨reading, rfl⟩
  exact ⟨reading, rule_eq⟩

end Reading

/-- The texts that compile are those with a reading, and each compiles to the
left-nested rule of the sentence that is read.  All other texts are refused with
a fault of the rule text. -/
theorem compile_eq_ok_iff_reading (text : String) :
    (∀ rule, Rule.compile text = .ok rule ↔
      ∃ reading : Reading text.toList, reading.sentence.rule = rule) ∧
    (IsEmpty (Reading text.toList) ↔
      ∃ fault, Rule.compile text = .error (.invalidExpression fault)) := by
  constructor
  · intro rule
    constructor
    · exact Reading.exists_of_compile_eq_ok
    · rintro ⟨reading, rfl⟩
      exact reading.compile_eq
  · constructor
    · intro unread
      cases compiled : Rule.compile text with
      | ok rule =>
          rcases Reading.exists_of_compile_eq_ok compiled with ⟨reading, -⟩
          exact (unread.false reading).elim
      | error error =>
          rcases Rule.exists_fault_of_compile compiled with ⟨fault, rfl⟩
          exact ⟨fault, rfl⟩
    · rintro ⟨fault, refused⟩
      constructor
      intro reading
      rw [reading.compile_eq] at refused
      contradiction

/-- Quotes do not keep a connective together with the words around it. -/
example : Rule.compile " a = 'x  OR y'  AND\tb>1 " =
    .error (.invalidExpression (.noComparator "y'")) := by
  decide +kernel

end Eligibility
