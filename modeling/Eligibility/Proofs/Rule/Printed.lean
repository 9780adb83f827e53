import Eligibility.Proofs.Rule.Run
import Eligibility.Proofs.Rule.Seam

/-!
# Printed rules

A rule that has been compiled can be printed in two ways.  Without parentheses, its
conditions and connectives are a rule text again, which compiles to the same
rule.  With parentheses, the text is one of a rule too: a parenthesis is part of the
word next to it, and no word with a parenthesis is one for a connective.  That
other rule has the same connectives, and its conditions show how many parentheses
there are, so what was printed can be told from it.
-/

namespace Eligibility

open Eligibility.Text

/-! ## Spans -/

/-- The span of words that are for no connective. -/
def IsSpan (text : List Char) : Prop :=
  ∃ run, run ≠ [] ∧ Word.Apart run ∧ Segment.IsPlain run ∧ Word.span run = text

namespace IsSpan

variable {text letters : List Char}

/-- A span is a single condition. -/
theorem ofText_eq (isSpan : IsSpan text) : Segment.ofText text = [.condition text] := by
  rcases isSpan with ⟨run, nonempty, apart, plain, rfl⟩
  have finishedApart : Word.Apart (Word.finish [] [] run ++ []) :=
    Word.apart_finish_append apart (List.forall_mem_nil _) isGap_nil
      (fun absent => absurd rfl absent) Word.apart_nil
  have text_eq : Word.span run = [] ++ Word.written (Word.finish [] [] run ++ []) := by
    rw [List.append_nil, Word.written_finish nonempty]
    simp
  let wording : Wording (Word.span run) := ⟨[], _, isGap_nil, finishedApart, text_eq⟩
  rw [Segment.ofText_eq_ofWords wording]
  change Segment.ofWords (Word.finish [] [] run ++ []) = _
  rw [List.append_nil, Segment.ofWords_finish_nil, Segment.ofWords_run nonempty plain]

/-- Every condition among the segments of a text is a span. -/
theorem of_mem_ofText {whole : List Char} (member : .condition text ∈ Segment.ofText whole) :
    IsSpan text := by
  rcases nonempty_wording whole with ⟨wording⟩
  rw [Segment.ofText_eq_ofWords wording] at member
  rcases List.append_of_mem member with ⟨before, after, formed⟩
  rcases Segment.ofWords_eq_append_condition_iff.mp formed with
    ⟨front, run, back, words_eq, maximal, span_eq, -, -⟩
  have apart := wording.apart
  rw [words_eq] at apart
  exact ⟨run, maximal.nonempty, apart.of_append.1.of_append.2, maximal.plain, span_eq⟩

/-- Letters that are in no connective may stand in front of a span. -/
theorem append_left (isSpan : IsSpan text) (isWord : IsWord letters)
    (foreign : ∀ c ∈ letters, ∀ connective : Connective, c ∉ connective.word.toList) :
    IsSpan (letters ++ text) := by
  rcases isSpan with ⟨run, nonempty, apart, plain, rfl⟩
  rcases List.exists_mem_of_ne_nil letters isWord.1 with ⟨c, member⟩
  refine ⟨Word.attach letters [] run, Word.attach_ne_nil,
    Word.apart_attach isWord isGap_nil apart, ?_, ?_⟩
  · exact Segment.isPlain_attach member (foreign c member)
      (fun word later => plain word (List.mem_of_mem_tail later)) fun absent => absurd rfl absent
  · rw [Word.span_attach nonempty, List.append_nil]

/-- Letters that are in no connective may stand behind a span. -/
theorem append_right (isSpan : IsSpan text) (isWord : IsWord letters)
    (foreign : ∀ c ∈ letters, ∀ connective : Connective, c ∉ connective.word.toList) :
    IsSpan (text ++ letters) := by
  rcases isSpan with ⟨run, nonempty, apart, plain, rfl⟩
  rcases List.exists_mem_of_ne_nil letters isWord.1 with ⟨c, member⟩
  have finishedApart := Word.apart_finish_append apart isWord.2 isGap_nil
    (fun absent => absurd rfl absent) Word.apart_nil
  rw [List.append_nil] at finishedApart
  refine ⟨Word.finish letters [] run, Word.finish_ne_nil nonempty, finishedApart, ?_,
    Word.span_finish nonempty⟩
  rcases Word.exists_finish_eq_dropLast_append nonempty with ⟨front, finished⟩
  rw [finished]
  exact List.forall_mem_append.mpr
    ⟨fun word earlier => plain word (List.dropLast_subset run earlier),
      List.forall_mem_singleton.mpr
        (Segment.ne_word_of_mem (List.mem_append_right _ member) (foreign c member))⟩

end IsSpan

/-! ## Sentences without parentheses -/

namespace Sentence

/-- The conditions and connectives of a sentence with single spaces between them. -/
def spaced (sentence : Sentence) : List Char :=
  sentence.first ++
    sentence.others.flatMap fun other => ' ' :: (other.1.word.toList ++ ' ' :: other.2)

/-- A sentence with the parentheses that its rule is printed with as parts of its
conditions. -/
def enclosed (sentence : Sentence) : Sentence where
  first := List.replicate sentence.others.length '(' ++ sentence.first
  others := sentence.others.map fun other => (other.1, other.2 ++ [')'])

/-- Conditions that are spans are found again between single spaces. -/
theorem ofText_spaced {sentence : Sentence} (spans : ∀ text ∈ sentence.conditions, IsSpan text) :
    Segment.ofText sentence.spaced = sentence.segments := by
  rcases sentence with ⟨first, others⟩
  induction others generalizing first with
  | nil =>
      rw [spaced, List.flatMap_nil, List.append_nil]
      exact (spans first List.mem_cons_self).ofText_eq
  | cons other others ih =>
      rcases other with ⟨connective, text⟩
      rcases List.forall_mem_cons.mp spans with ⟨firstSpan, laterSpans⟩
      have space : IsGap [' '] := by decide
      have text_eq : spaced ⟨first, (connective, text) :: others⟩ =
          first ++ [' '] ++ connective.word.toList ++ [' '] ++ spaced ⟨text, others⟩ := by
        simp [spaced]
      rw [text_eq, Segment.ofText_seam connective space space (List.cons_ne_nil _ _)
        (List.cons_ne_nil _ _), ih text laterSpans, firstSpan.ofText_eq]
      rfl

theorem isSpan_of_ofText_eq {sentence : Sentence} {text : List Char}
    (spelled : Segment.ofText text = sentence.segments) :
    ∀ condition ∈ sentence.conditions, IsSpan condition := by
  intro condition member
  apply IsSpan.of_mem_ofText
  rw [spelled]
  exact condition_mem_segments_iff.mpr member

/-- Parentheses keep conditions spans. -/
theorem isSpan_of_mem_enclosed {sentence : Sentence}
    (spans : ∀ text ∈ sentence.conditions, IsSpan text) :
    ∀ text ∈ sentence.enclosed.conditions, IsSpan text := by
  rcases sentence with ⟨first, others⟩
  rcases List.forall_mem_cons.mp spans with ⟨firstSpan, laterSpans⟩
  have foreign {c : Char} (parenthesis : c = '(' ∨ c = ')') (connective : Connective) :
      c ∉ connective.word.toList := by
    rcases parenthesis with rfl | rfl <;> cases connective <;> decide
  refine List.forall_mem_cons.mpr ⟨?_, ?_⟩
  · cases others with
    | nil => exact firstSpan
    | cons other others =>
        apply firstSpan.append_left
        · refine ⟨List.cons_ne_nil _ _, fun c member => ?_⟩
          rw [List.eq_of_mem_replicate member]
          rfl
        · intro c member
          exact foreign (.inl (List.eq_of_mem_replicate member))
  · intro text member
    simp only [enclosed, List.map_map, List.mem_map, Function.comp_apply] at member
    rcases member with ⟨other, otherMem, rfl⟩
    apply (laterSpans other.2 (List.mem_map_of_mem otherMem)).append_right
    · exact ⟨List.cons_ne_nil _ _, List.forall_mem_singleton.mpr rfl⟩
    · exact List.forall_mem_singleton.mpr (foreign (.inr rfl))

theorem laterSegments_injective {others later : List (Connective × List Char)}
    (same : laterSegments others = laterSegments later) : others = later := by
  induction others generalizing later with
  | nil =>
      cases later with
      | nil => rfl
      | cons next later => cases same
  | cons other others ih =>
      cases later with
      | nil => cases same
      | cons next later =>
          rcases other with ⟨connective, text⟩
          rcases next with ⟨nextConnective, nextText⟩
          simp only [laterSegments_cons, List.cons.injEq, Segment.condition.injEq,
            Segment.connective.injEq] at same
          rcases same with ⟨rfl, rfl, rest⟩
          rw [ih rest]

theorem segments_injective {sentence other : Sentence}
    (same : sentence.segments = other.segments) : sentence = other := by
  rcases sentence with ⟨first, others⟩
  rcases other with ⟨otherFirst, otherOthers⟩
  simp only [segments, List.cons.injEq, Segment.condition.injEq] at same
  rcases same with ⟨rfl, later_eq⟩
  rw [laterSegments_injective later_eq]

/-- The number of parentheses is that of the connectives, so they can be taken off
again. -/
theorem enclosed_injective {sentence other : Sentence}
    (same : sentence.enclosed = other.enclosed) : sentence = other := by
  rcases sentence with ⟨first, others⟩
  rcases other with ⟨otherFirst, otherOthers⟩
  simp only [enclosed, mk.injEq] at same
  rcases same with ⟨first_eq, others_eq⟩
  have injective : Function.Injective fun other : Connective × List Char =>
      (other.1, other.2 ++ [')']) := by
    rintro ⟨connective, text⟩ ⟨otherConnective, otherText⟩ pairs_eq
    rcases Prod.mk.inj pairs_eq with ⟨connectives_eq, texts_eq⟩
    exact Prod.ext connectives_eq (List.append_cancel_right texts_eq)
  have same_others := List.map_injective_iff.mpr injective others_eq
  subst same_others
  rw [List.append_cancel_left first_eq]

end Sentence

namespace Rule

/-- A rule as text without parentheses: its conditions and connectives in order, with
single spaces between them. -/
def spaced : Rule → String
  | leaf condition => condition
  | join connective left right => left.spaced ++ " " ++ connective ++ " " ++ right.spaced

end Rule

namespace Sentence

theorem toList_spaced_rule (sentence : Sentence) :
    sentence.rule.spaced.toList = sentence.spaced := by
  have step (left : Rule) (others : List (Connective × List Char)) :
      (others.foldl joinLeaf left).spaced.toList = left.spaced.toList ++
        others.flatMap fun other => ' ' :: (other.1.word.toList ++ ' ' :: other.2) := by
    induction others generalizing left with
    | nil => simp
    | cons other others ih =>
        rw [List.foldl_cons, ih, joinLeaf]
        simp [Rule.spaced]
  rw [rule, step, Rule.spaced, String.toList_ofList, spaced]

/-- The printed form of a rule is that of its enclosed sentence without parentheses
of its own. -/
theorem toList_display_rule (sentence : Sentence) :
    sentence.rule.display.toList = sentence.enclosed.spaced := by
  have step (left : Rule) (others : List (Connective × List Char)) :
      (others.foldl joinLeaf left).display.toList =
        List.replicate others.length '(' ++ left.display.toList ++
          others.flatMap fun other =>
            ' ' :: (other.1.word.toList ++ ' ' :: (other.2 ++ [')'])) := by
    induction others generalizing left with
    | nil => simp
    | cons other others ih =>
        rw [List.foldl_cons, ih, joinLeaf, List.length_cons, List.replicate_succ']
        simp [Rule.display]
  rw [rule, step, Rule.display_leaf, String.toList_ofList, spaced, enclosed, List.flatMap_map]

end Sentence

namespace Rule

/-- A compiled rule printed without parentheses compiles to itself. -/
theorem compile_spaced {text : String} {rule : Rule} (compiled : compile text = .ok rule) :
    compile rule.spaced = .ok rule := by
  rcases compile_eq_ok_iff_segments.mp compiled with ⟨sentence, spelled, compares, rfl⟩
  apply compile_eq_ok_iff_segments.mpr
  refine ⟨sentence, ?_, compares, rfl⟩
  rw [sentence.toList_spaced_rule]
  exact Sentence.ofText_spaced (Sentence.isSpan_of_ofText_eq spelled)

/-- Different compiled rules are printed differently. -/
theorem eq_of_display_eq {text otherText : String} {rule other : Rule}
    (compiled : compile text = .ok rule) (otherCompiled : compile otherText = .ok other)
    (same : rule.display = other.display) : rule = other := by
  rcases compile_eq_ok_iff_segments.mp compiled with ⟨sentence, spelled, -, rfl⟩
  rcases compile_eq_ok_iff_segments.mp otherCompiled with ⟨otherSentence, otherSpelled, -, rfl⟩
  have formed := Sentence.ofText_spaced
    (Sentence.isSpan_of_mem_enclosed (Sentence.isSpan_of_ofText_eq spelled))
  have otherFormed := Sentence.ofText_spaced
    (Sentence.isSpan_of_mem_enclosed (Sentence.isSpan_of_ofText_eq otherSpelled))
  rw [← sentence.toList_display_rule, same, otherSentence.toList_display_rule,
    otherFormed] at formed
  rw [Sentence.enclosed_injective (Sentence.segments_injective formed)]

/-- A compiled rule can be told from each of its printed forms: the one without
parentheses compiles to it, and the one with parentheses is printed for no other
compiled rule. -/
theorem printed_forms_identify_rule {text : String} {rule : Rule}
    (compiled : compile text = .ok rule) :
    compile rule.spaced = .ok rule ∧
    ∀ otherText other, compile otherText = .ok other → rule.display = other.display →
      rule = other :=
  ⟨compile_spaced compiled, fun _ _ otherCompiled => eq_of_display_eq compiled otherCompiled⟩

/-- The conditions of a rule may look like parts of its printed form. -/
theorem printed_forms_identify_rule_of_parentheses :
    compile "(a = 1  x) AND\tb > (2 OR (c<3" =
        .ok (.join "OR" (.join "AND" (.leaf "(a = 1  x)") (.leaf "b > (2")) (.leaf "(c<3")) ∧
      compile "(a = 1  x) AND b > (2 OR (c<3" =
        .ok (.join "OR" (.join "AND" (.leaf "(a = 1  x)") (.leaf "b > (2")) (.leaf "(c<3")) ∧
      ∀ otherText other, compile otherText = .ok other →
        "(((a = 1  x) AND b > (2) OR (c<3)" = other.display →
        .join "OR" (.join "AND" (.leaf "(a = 1  x)") (.leaf "b > (2")) (.leaf "(c<3") = other := by
  have compiled : compile "(a = 1  x) AND\tb > (2 OR (c<3" =
      .ok (.join "OR" (.join "AND" (.leaf "(a = 1  x)") (.leaf "b > (2")) (.leaf "(c<3")) := by
    decide +kernel
  exact ⟨compiled, printed_forms_identify_rule compiled⟩

/-- A leaf that was not compiled may be printed as a join is. -/
example : (leaf "(a = 1 AND b = 2)").display =
    (join "AND" (leaf "a = 1") (leaf "b = 2")).display := by
  decide

end Rule

end Eligibility
