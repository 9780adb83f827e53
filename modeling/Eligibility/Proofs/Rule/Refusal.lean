import Eligibility.Proofs.Rule.Reading
import Eligibility.Proofs.Rule.Run

/-!
# Refused rule texts

Several things can be wrong with a rule text, but one of them is reported.  A
condition that does not compare goes before any misplaced connective, wherever the
two stand, and of several faults of one sort the leftmost one counts.  Only a
text without such faults is reported as a whole, when a condition is still due at
its end.  Two conditions never follow each other, since their words form one run.
-/

namespace Eligibility

open Eligibility.Text

/-! ## What can be wrong with words -/

/-- The span of a run holds a comparator. -/
def RunCompares (run : List Word) : Prop :=
  ∃ c ∈ Word.span run, c = '=' ∨ c = '>' ∨ c = '<'

/-- Every maximal run among words holds a comparator. -/
def EveryRunCompares (words : List Word) : Prop :=
  ∀ before run after, words = before ++ run ++ after → IsMaximalRun before run after →
    RunCompares run

/-- No connective among words stands where a condition is due. -/
def ConnectivesInPlace (words : List Word) : Prop :=
  ∀ before word after, words = before ++ word :: after → word.IsConnective →
    ¬ IsDueBehind before

/-- The fault for which a text with given words is refused, and its wording. -/
inductive Refusal (text : String) (words : List Word) : ExpressionFault → String → Prop
  /-- The leftmost run that does not compare, whatever connective is misplaced. -/
  | noComparator {before run after : List Word} : words = before ++ run ++ after →
      IsMaximalRun before run after → ¬ RunCompares run → EveryRunCompares before →
      Refusal text words (.noComparator (String.ofList (Word.span run)))
        ("Invalid token format: " ++ String.ofList (Word.span run))
  /-- The leftmost connective that stands where a condition is due. -/
  | noOperand {before after : List Word} {connective : Connective} {gap : List Char} :
      EveryRunCompares words → words = before ++ ⟨connective.word.toList, gap⟩ :: after →
      IsDueBehind before → ConnectivesInPlace before →
      Refusal text words (.noOperand connective)
        ("Not enough operands before operator: " ++ connective.word)
  /-- The text that ends where a condition is due. -/
  | incomplete : EveryRunCompares words → ConnectivesInPlace words → IsDueBehind words →
      Refusal text words (.incomplete (String.ofList (trim text.toList)))
        (String.ofList (trim text.toList))

/-! ## Faults of words and of their segments -/

theorem everyRunCompares_iff {words : List Word} :
    EveryRunCompares words ↔ Rule.checkSegments (Segment.ofWords words) = .ok () := by
  rw [Rule.checkSegments_eq_ok_iff]
  constructor
  · intro compares text member
    rcases List.append_of_mem member with ⟨before, after, formed⟩
    rcases Segment.ofWords_eq_append_condition_iff.mp formed with
      ⟨front, run, back, words_eq, maximal, rfl, -, -⟩
    exact Segment.any_isComparator_iff.mpr (compares front run back words_eq maximal)
  · intro compares before run after words_eq maximal
    have formed := Segment.ofWords_eq_append_condition_iff.mpr
      ⟨before, run, after, words_eq, maximal, rfl, rfl, rfl⟩
    apply Segment.any_isComparator_iff.mp
    apply compares
    rw [formed]
    exact List.mem_append_right _ List.mem_cons_self

/-- Words that form a stem have every connective in its place, and a condition is
due behind them. -/
theorem connectivesInPlace_of_ofWords_eq_stem {words : List Word}
    {pairs : List (List Char × Connective)} (formed : Segment.ofWords words = Rule.stem pairs) :
    ConnectivesInPlace words ∧ IsDueBehind words := by
  induction pairs generalizing words with
  | nil =>
      rw [Rule.stem_nil, Segment.ofWords_eq_nil_iff] at formed
      subst formed
      refine ⟨?_, isDueBehind_nil⟩
      intro before word after words_eq
      simp at words_eq
  | cons pair pairs ih =>
      rcases pair with ⟨text, connective⟩
      rcases Segment.exists_run_of_ofWords_eq formed with
        ⟨run, rest, rfl, nonempty, plain, rfl, rest_eq⟩
      rcases Segment.exists_word_of_ofWords_eq rest_eq with ⟨gap, later, rfl, later_eq⟩
      rcases ih later_eq with ⟨laterInPlace, laterDue⟩
      have isConnective : Word.IsConnective ⟨connective.word.toList, gap⟩ := ⟨connective, rfl⟩
      refine ⟨?_, (isDueBehind_append_cons_iff run isConnective).mpr laterDue⟩
      intro before word after words_eq wordConnective
      rcases List.append_eq_append_iff.mp words_eq with
        ⟨middle, rfl, middle_eq⟩ | ⟨middle, rfl, middle_eq⟩
      · rcases List.cons_eq_append_iff.mp middle_eq with
          ⟨rfl, -⟩ | ⟨behind, rfl, later_eq⟩
        · rw [List.append_nil]
          exact not_isDueBehind_of_isPlain nonempty plain
        · rw [isDueBehind_append_cons_iff run isConnective]
          exact laterInPlace behind word after later_eq wordConnective
      · rcases List.cons_eq_append_iff.mp middle_eq with
          ⟨rfl, -⟩ | ⟨behind, rfl, -⟩
        · rw [List.append_nil] at nonempty plain
          exact not_isDueBehind_of_isPlain nonempty plain
        · rcases wordConnective with ⟨other, letters_eq⟩
          exact absurd letters_eq (plain word (by simp) other)

/-- Exactly the words that form a stem have every connective in its place and a
condition due behind them. -/
theorem exists_ofWords_eq_stem_iff {words : List Word} :
    (∃ pairs, Segment.ofWords words = Rule.stem pairs) ↔
      ConnectivesInPlace words ∧ IsDueBehind words := by
  constructor
  · rintro ⟨pairs, formed⟩
    exact connectivesInPlace_of_ofWords_eq_stem formed
  · rintro ⟨inPlace, due⟩
    rcases Rule.stem_cases (Segment.ofWords words) with
      ⟨pairs, formed | ⟨text, formed⟩ | ⟨connective, after, formed⟩ | ⟨text, next, after, formed⟩⟩
    · exact ⟨pairs, formed⟩
    · rcases Segment.ofWords_eq_append_condition_iff.mp formed with
        ⟨front, run, back, rfl, maximal, -, -, back_eq⟩
      rw [Segment.ofWords_eq_nil_iff] at back_eq
      subst back_eq
      rw [List.append_nil, isDueBehind_append_iff front maximal.nonempty] at due
      exact absurd due (not_isDueBehind_of_isPlain maximal.nonempty maximal.plain)
    · rcases Segment.ofWords_eq_append_connective_iff.mp formed with
        ⟨front, gap, back, words_eq, front_eq, -⟩
      have frontDue := (connectivesInPlace_of_ofWords_eq_stem front_eq).2
      exact absurd frontDue (inPlace front _ back words_eq ⟨connective, rfl⟩)
    · rcases Segment.ofWords_eq_append_condition_iff.mp formed with
        ⟨front, run, back, -, maximal, -, -, back_eq⟩
      have apart := Segment.startsApart_of_isConnective maximal.ends
      rw [back_eq] at apart
      exact apart.elim

/-! ## What is reported -/

namespace Refusal

variable {text : String} {words : List Word}

/-- The leftmost condition that does not compare is reported. -/
theorem of_checkSegments_eq_error {error : RuleError}
    (checked : Rule.checkSegments (Segment.ofWords words) = .error error) :
    ∃ fault, Refusal text words fault fault.detail ∧ error = .invalidExpression fault := by
  rcases Rule.checkSegments_eq_error_iff.mp checked with
    ⟨before, mute, after, formed, passed, muteText, rfl⟩
  rcases Segment.ofWords_eq_append_condition_iff.mp formed with
    ⟨front, run, back, words_eq, maximal, rfl, rfl, -⟩
  have muteRun : ¬ RunCompares run := by
    intro compares
    rw [Segment.any_isComparator_iff.mpr compares] at muteText
    contradiction
  exact ⟨_, .noComparator words_eq maximal muteRun (everyRunCompares_iff.mpr passed), rfl⟩

/-- Else the leftmost misplaced connective is reported, or else the whole text. -/
theorem of_ofSegments_eq_error {error : RuleError} (compares : EveryRunCompares words)
    (refused : Rule.ofSegments (String.ofList (trim text.toList)) (Segment.ofWords words) =
      .error error) :
    ∃ fault, Refusal text words fault fault.detail ∧ error = .invalidExpression fault := by
  rcases Rule.ofSegments_eq_error_iff.mp refused with
    ⟨pairs, ⟨formed, rfl⟩ | ⟨connective, after, formed, rfl⟩ | ⟨first, next, after, formed, -⟩⟩
  · rcases connectivesInPlace_of_ofWords_eq_stem formed with ⟨inPlace, due⟩
    exact ⟨_, .incomplete compares inPlace due, rfl⟩
  · rcases Segment.ofWords_eq_append_connective_iff.mp formed with
      ⟨front, gap, back, words_eq, front_eq, -⟩
    rcases connectivesInPlace_of_ofWords_eq_stem front_eq with ⟨inPlace, due⟩
    exact ⟨_, .noOperand compares words_eq due inPlace, rfl⟩
  · rcases Segment.ofWords_eq_append_condition_iff.mp formed with
      ⟨front, run, back, -, maximal, -, -, back_eq⟩
    have apart := Segment.startsApart_of_isConnective maximal.ends
    rw [back_eq] at apart
    exact apart.elim

/-- What is to be reported is found by the check of the segments, or else when a
rule is formed from them. -/
theorem error_eq {fault : ExpressionFault} {detail : String}
    (refusal : Refusal text words fault detail) :
    detail = fault.detail ∧
    (Rule.checkSegments (Segment.ofWords words) = .error (.invalidExpression fault) ∨
      Rule.checkSegments (Segment.ofWords words) = .ok () ∧
        Rule.ofSegments (String.ofList (trim text.toList)) (Segment.ofWords words) =
          .error (.invalidExpression fault)) := by
  cases refusal with
  | noComparator words_eq maximal mute compares =>
      refine ⟨rfl, .inl (Rule.checkSegments_eq_error_iff.mpr ?_)⟩
      have formed := Segment.ofWords_eq_append_condition_iff.mpr
        ⟨_, _, _, words_eq, maximal, rfl, rfl, rfl⟩
      refine ⟨_, _, _, formed, everyRunCompares_iff.mp compares, ?_, rfl⟩
      exact Bool.eq_false_iff.mpr (mt Segment.any_isComparator_iff.mp mute)
  | noOperand compares words_eq due inPlace =>
      refine ⟨rfl, .inr ⟨everyRunCompares_iff.mp compares, Rule.ofSegments_eq_error_iff.mpr ?_⟩⟩
      rcases exists_ofWords_eq_stem_iff.mpr ⟨inPlace, due⟩ with ⟨pairs, front_eq⟩
      have formed := Segment.ofWords_eq_append_connective_iff.mpr
        ⟨_, _, _, words_eq, front_eq, rfl⟩
      exact ⟨pairs, .inr (.inl ⟨_, _, formed, rfl⟩)⟩
  | incomplete compares inPlace due =>
      refine ⟨rfl, .inr ⟨everyRunCompares_iff.mp compares, Rule.ofSegments_eq_error_iff.mpr ?_⟩⟩
      rcases exists_ofWords_eq_stem_iff.mpr ⟨inPlace, due⟩ with ⟨pairs, formed⟩
      exact ⟨pairs, .inl ⟨formed, rfl⟩⟩

end Refusal

/-- A text is refused exactly if something is wrong with its words, and for the
fault that goes before all others.  That two conditions follow each other is never
reported. -/
theorem compile_eq_error_iff_refusal (text : String) (wording : Wording text.toList) :
    (∀ error, Rule.compile text = .error error ↔
      ∃ fault, Refusal text wording.words fault fault.detail ∧
        error = .invalidExpression fault) ∧
    ∀ condition, Rule.compile text ≠ .error (.invalidExpression (.noConnective condition)) := by
  have refused_iff (error : RuleError) : Rule.compile text = .error error ↔
      ∃ fault, Refusal text wording.words fault fault.detail ∧
        error = .invalidExpression fault := by
    rw [Rule.compile_eq_error_iff_segments, Segment.ofText_eq_ofWords wording]
    constructor
    · rintro (checked | ⟨passed, refused⟩)
      · exact Refusal.of_checkSegments_eq_error checked
      · exact Refusal.of_ofSegments_eq_error (everyRunCompares_iff.mpr passed) refused
    · rintro ⟨fault, refusal, rfl⟩
      exact refusal.error_eq.2
  refine ⟨refused_iff, ?_⟩
  intro condition refused
  rcases (refused_iff _).mp refused with ⟨fault, refusal, error_eq⟩
  cases error_eq
  cases refusal

/-- A condition that does not compare goes before an earlier connective. -/
example : Rule.compile " OR a = 1 AND\tAND b  c OR" =
    .error (.invalidExpression (.noComparator "b  c")) := by
  decide +kernel

end Eligibility
