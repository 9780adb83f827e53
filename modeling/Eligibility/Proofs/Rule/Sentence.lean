import Eligibility.Rule.Compile

/-!
# Sentences

A sentence is a first condition and further ones, each behind a connective.
Exactly the segments that spell a sentence compile, provided that every
condition of it compares something, and they compile to the sentence nested to
the left.  All other segments are refused: one of the conditions does not compare, or
what follows complete pairs of a condition and a connective is no last condition.
-/

namespace Eligibility

/-- A first condition and the connectives with the conditions behind them. -/
structure Sentence where
  first : List Char
  others : List (Connective × List Char)
deriving DecidableEq, Repr

namespace Sentence

/-- The segments of the conditions behind the first one. -/
def laterSegments (others : List (Connective × List Char)) : List Segment :=
  others.flatMap fun other => [.connective other.1, .condition other.2]

/-- The segments that spell a sentence. -/
def segments (sentence : Sentence) : List Segment :=
  .condition sentence.first :: laterSegments sentence.others

/-- A rule joined on the right with one more condition. -/
def joinLeaf (rule : Rule) (other : Connective × List Char) : Rule :=
  .join other.1.word rule (.leaf (String.ofList other.2))

/-- The rule of a sentence, nested to the left. -/
def rule (sentence : Sentence) : Rule :=
  sentence.others.foldl joinLeaf (.leaf (String.ofList sentence.first))

/-- The conditions of a sentence in text order. -/
def conditions (sentence : Sentence) : List (List Char) :=
  sentence.first :: sentence.others.map Prod.snd

/-- A sentence of which every condition has a comparator. -/
def Compares (sentence : Sentence) : Prop :=
  ∀ text ∈ sentence.conditions, text.any Segment.isComparator = true

@[simp]
theorem laterSegments_nil : laterSegments [] = [] :=
  rfl

@[simp]
theorem laterSegments_cons (connective : Connective) (text : List Char)
    (others : List (Connective × List Char)) :
    laterSegments ((connective, text) :: others) =
      .connective connective :: .condition text :: laterSegments others :=
  rfl

theorem condition_mem_segments_iff {sentence : Sentence} {text : List Char} :
    .condition text ∈ sentence.segments ↔ text ∈ sentence.conditions := by
  obtain ⟨first, others⟩ := sentence
  simp [segments, laterSegments, conditions]

end Sentence

namespace Rule

open Sentence

/-- A check of segments finds every condition that does not compare. -/
theorem checkSegments_eq_ok_iff {segments : List Segment} :
    checkSegments segments = .ok () ↔
      ∀ text, .condition text ∈ segments → text.any Segment.isComparator = true := by
  induction segments with
  | nil => simp [checkSegments]
  | cons segment segments ih =>
      cases segment with
      | connective connective =>
          rw [checkSegments, ih]
          simp
      | condition text =>
          rw [checkSegments]
          split
          · rename_i compares
            rw [ih]
            constructor
            · intro later other member
              rcases List.mem_cons.mp member with same | member
              · cases same
                exact compares
              · exact later other member
            · intro every other member
              exact every other (List.mem_cons_of_mem _ member)
          · rename_i mute
            constructor
            · intro failed
              contradiction
            · intro every
              exact absurd (every text List.mem_cons_self) mute

/-- A rule is extended by exactly the segments of further conditions. -/
theorem extend_eq_ok_iff {whole : String} {left rule : Rule} {segments : List Segment} :
    extend whole left segments = .ok rule ↔
      ∃ others, segments = laterSegments others ∧ others.foldl joinLeaf left = rule := by
  constructor
  · intro extended
    induction left, segments using extend.induct with
    | case1 left =>
        cases extended
        exact ⟨[], rfl, rfl⟩
    | case2 left text segments => cases extended
    | case3 left connective => cases extended
    | case4 left first connective segments => cases extended
    | case5 left connective text segments ih =>
        obtain ⟨others, rfl, folded⟩ := ih extended
        exact ⟨(connective, text) :: others, rfl, folded⟩
  · rintro ⟨others, rfl, rfl⟩
    induction others generalizing left with
    | nil => rfl
    | cons other others ih =>
        obtain ⟨connective, text⟩ := other
        exact ih

/-- Exactly the segments of sentences form rules. -/
theorem ofSegments_eq_ok_iff {whole : String} {rule : Rule} {segments : List Segment} :
    ofSegments whole segments = .ok rule ↔
      ∃ sentence : Sentence, segments = sentence.segments ∧ sentence.rule = rule := by
  constructor
  · intro formed
    match segments, formed with
    | .condition text :: segments, formed =>
        obtain ⟨others, rfl, folded⟩ := extend_eq_ok_iff.mp formed
        exact ⟨⟨text, others⟩, rfl, folded⟩
  · rintro ⟨sentence, rfl, rfl⟩
    exact extend_eq_ok_iff.mpr ⟨sentence.others, rfl, rfl⟩

/-- Exactly the texts whose segments spell a sentence that compares are
compiled, and to the rule of that sentence. -/
theorem compile_eq_ok_iff_segments {text : String} {rule : Rule} :
    compile text = .ok rule ↔
      ∃ sentence : Sentence, Segment.ofText text.toList = sentence.segments ∧
        sentence.Compares ∧ sentence.rule = rule := by
  constructor
  · intro compiled
    rw [compile] at compiled
    cases checked : checkSegments (Segment.ofText text.toList) with
    | error fault =>
        rw [checked] at compiled
        cases compiled
    | ok _ =>
        rw [checked] at compiled
        obtain ⟨sentence, segments_eq, rule_eq⟩ := ofSegments_eq_ok_iff.mp compiled
        refine ⟨sentence, segments_eq, ?_, rule_eq⟩
        intro condition member
        apply checkSegments_eq_ok_iff.mp checked
        rw [segments_eq]
        exact condition_mem_segments_iff.mpr member
  · rintro ⟨sentence, segments_eq, compares, rule_eq⟩
    have checked : checkSegments (Segment.ofText text.toList) = .ok () := by
      apply checkSegments_eq_ok_iff.mpr
      intro condition member
      rw [segments_eq] at member
      exact compares condition (condition_mem_segments_iff.mp member)
    rw [compile, checked]
    exact ofSegments_eq_ok_iff.mpr ⟨sentence, segments_eq, rule_eq⟩

/-- A rule text of one condition has the text of that condition as its only
segment. -/
theorem compile_eq_leaf_iff {text condition : String} :
    compile text = .ok (.leaf condition) ↔
      Segment.ofText text.toList = [.condition condition.toList] ∧
        condition.toList.any Segment.isComparator = true := by
  rw [compile_eq_ok_iff_segments]
  constructor
  · rintro ⟨⟨first, others⟩, spelled, compares, rule_eq⟩
    obtain rfl | ⟨front, last, rfl⟩ := List.eq_nil_or_concat others
    · cases rule_eq
      rw [String.toList_ofList]
      exact ⟨spelled, compares first List.mem_cons_self⟩
    · rw [Sentence.rule, List.concat_eq_append, List.foldl_append] at rule_eq
      cases rule_eq
  · rintro ⟨spelled, compares⟩
    refine ⟨⟨condition.toList, []⟩, spelled, List.forall_mem_singleton.mpr compares, ?_⟩
    rw [Sentence.rule, List.foldl_nil, String.ofList_toList]

/-! ## Refused segments -/

/-- A check goes through segments from left to right. -/
theorem checkSegments_append (segments others : List Segment) :
    checkSegments (segments ++ others) = checkSegments segments >>= fun _ =>
      checkSegments others := by
  induction segments with
  | nil => rfl
  | cons segment segments ih =>
      cases segment with
      | connective connective => exact ih
      | condition text =>
          rw [List.cons_append, checkSegments, checkSegments]
          split
          · exact ih
          · rfl

/-- A check reports the first condition that does not compare. -/
theorem checkSegments_eq_error_iff {segments : List Segment} {error : RuleError} :
    checkSegments segments = .error error ↔
      ∃ before text after, segments = before ++ .condition text :: after ∧
        checkSegments before = .ok () ∧ text.any Segment.isComparator = false ∧
        error = .invalidExpression (.noComparator (String.ofList text)) := by
  constructor
  · intro refused
    induction segments with
    | nil => cases refused
    | cons segment segments ih =>
        cases segment with
        | connective connective =>
            rcases ih refused with ⟨before, text, after, rfl, passed, mute, error_eq⟩
            exact ⟨.connective connective :: before, text, after, rfl, passed, mute, error_eq⟩
        | condition first =>
            rw [checkSegments] at refused
            split at refused
            · rename_i compares
              rcases ih refused with ⟨before, text, after, rfl, passed, mute, error_eq⟩
              refine ⟨.condition first :: before, text, after, rfl, ?_, mute, error_eq⟩
              rwa [checkSegments, if_pos compares]
            · rename_i mute
              cases refused
              exact ⟨[], first, segments, rfl, rfl, Bool.eq_false_iff.mpr mute, rfl⟩
  · rintro ⟨before, text, after, rfl, passed, mute, rfl⟩
    rw [checkSegments_append, passed]
    change checkSegments (.condition text :: after) = _
    rw [checkSegments, if_neg (Bool.eq_false_iff.mp mute)]

/-- The segments of conditions that each have a connective behind them. -/
def stem (pairs : List (List Char × Connective)) : List Segment :=
  pairs.flatMap fun pair => [.condition pair.1, .connective pair.2]

@[simp]
theorem stem_nil : stem [] = [] :=
  rfl

/-- Segments are a stem with nothing behind it, with one condition, with a
connective that has no condition before it, or with two conditions. -/
theorem stem_cases : ∀ segments : List Segment, ∃ pairs,
    segments = stem pairs ∨
    (∃ text, segments = stem pairs ++ [.condition text]) ∨
    (∃ connective after, segments = stem pairs ++ .connective connective :: after) ∨
    ∃ text next after, segments = stem pairs ++ .condition text :: .condition next :: after
  | [] => ⟨[], .inl rfl⟩
  | [.condition text] => ⟨[], .inr (.inl ⟨text, rfl⟩)⟩
  | .connective connective :: after => ⟨[], .inr (.inr (.inl ⟨connective, after, rfl⟩))⟩
  | .condition text :: .condition next :: after =>
      ⟨[], .inr (.inr (.inr ⟨text, next, after, rfl⟩))⟩
  | .condition text :: .connective connective :: segments => by
      rcases stem_cases segments with
        ⟨pairs, rfl | ⟨last, rfl⟩ | ⟨misplaced, after, rfl⟩ | ⟨last, next, after, rfl⟩⟩
      · exact ⟨(text, connective) :: pairs, .inl rfl⟩
      · exact ⟨(text, connective) :: pairs, .inr (.inl ⟨last, rfl⟩)⟩
      · exact ⟨(text, connective) :: pairs, .inr (.inr (.inl ⟨misplaced, after, rfl⟩))⟩
      · exact ⟨(text, connective) :: pairs, .inr (.inr (.inr ⟨last, next, after, rfl⟩))⟩

/-- The conditions of a stem are joined before anything behind it is read. -/
theorem exists_extend_stem_append (whole : String) (left : Rule) (connective : Connective)
    (pairs : List (List Char × Connective)) :
    ∃ (rule : Rule) (last : Connective), ∀ after,
      extend whole left (.connective connective :: (stem pairs ++ after)) =
        extend whole rule (.connective last :: after) := by
  induction pairs generalizing left connective with
  | nil => exact ⟨left, connective, fun after => rfl⟩
  | cons pair pairs ih => exact ih _ pair.2

theorem ofSegments_stem_append (whole : String) (pairs : List (List Char × Connective)) :
    (∀ after, ofSegments whole (stem pairs ++ after) = ofSegments whole after) ∨
    ∃ (rule : Rule) (last : Connective), ∀ after,
      ofSegments whole (stem pairs ++ after) = extend whole rule (.connective last :: after) := by
  cases pairs with
  | nil => exact .inl fun after => rfl
  | cons pair pairs => exact .inr (exists_extend_stem_append whole _ pair.2 pairs)

variable {whole : String} {pairs : List (List Char × Connective)}

theorem ofSegments_stem : ofSegments whole (stem pairs) =
    .error (.invalidExpression (.incomplete whole)) := by
  rw [← List.append_nil (stem pairs)]
  rcases ofSegments_stem_append whole pairs with nothing | ⟨rule, last, extended⟩
  · exact nothing []
  · exact extended []

theorem ofSegments_stem_connective {connective : Connective} {after : List Segment} :
    ofSegments whole (stem pairs ++ .connective connective :: after) =
      .error (.invalidExpression (.noOperand connective)) := by
  rcases ofSegments_stem_append whole pairs with nothing | ⟨rule, last, extended⟩
  · exact nothing _
  · exact extended _

theorem ofSegments_stem_conditions {text next : List Char} {after : List Segment} :
    ofSegments whole (stem pairs ++ .condition text :: .condition next :: after) =
      .error (.invalidExpression (.noConnective (String.ofList next))) := by
  rcases ofSegments_stem_append whole pairs with nothing | ⟨rule, last, extended⟩
  · exact nothing _
  · exact extended _

theorem exists_ofSegments_stem_condition (whole : String) (pairs : List (List Char × Connective))
    (text : List Char) : ∃ rule, ofSegments whole (stem pairs ++ [.condition text]) = .ok rule := by
  rcases ofSegments_stem_append whole pairs with nothing | ⟨rule, last, extended⟩
  · exact ⟨_, nothing _⟩
  · exact ⟨_, extended _⟩

/-- Segments form no rule if they end behind a stem, or if behind a stem there is
another connective or there are two conditions. -/
theorem ofSegments_eq_error_iff {segments : List Segment} {error : RuleError} :
    ofSegments whole segments = .error error ↔ ∃ pairs,
      (segments = stem pairs ∧ error = .invalidExpression (.incomplete whole)) ∨
      (∃ connective after, segments = stem pairs ++ .connective connective :: after ∧
        error = .invalidExpression (.noOperand connective)) ∨
      ∃ text next after, segments = stem pairs ++ .condition text :: .condition next :: after ∧
        error = .invalidExpression (.noConnective (String.ofList next)) := by
  constructor
  · intro refused
    rcases stem_cases segments with
      ⟨pairs, rfl | ⟨text, rfl⟩ | ⟨connective, after, rfl⟩ | ⟨text, next, after, rfl⟩⟩
    · rw [ofSegments_stem] at refused
      cases refused
      exact ⟨pairs, .inl ⟨rfl, rfl⟩⟩
    · rcases exists_ofSegments_stem_condition whole pairs text with ⟨rule, formed⟩
      rw [formed] at refused
      cases refused
    · rw [ofSegments_stem_connective] at refused
      cases refused
      exact ⟨pairs, .inr (.inl ⟨connective, after, rfl, rfl⟩)⟩
    · rw [ofSegments_stem_conditions] at refused
      cases refused
      exact ⟨pairs, .inr (.inr ⟨text, next, after, rfl, rfl⟩)⟩
  · rintro ⟨pairs, ⟨rfl, rfl⟩ | ⟨connective, after, rfl, rfl⟩ | ⟨text, next, after, rfl, rfl⟩⟩
    · exact ofSegments_stem
    · exact ofSegments_stem_connective
    · exact ofSegments_stem_conditions

/-- A text is refused by the check of its segments, or else because they form no
rule. -/
theorem compile_eq_error_iff_segments {text : String} {error : RuleError} :
    compile text = .error error ↔
      checkSegments (Segment.ofText text.toList) = .error error ∨
      checkSegments (Segment.ofText text.toList) = .ok () ∧
        ofSegments (String.ofList (Text.trim text.toList)) (Segment.ofText text.toList) =
          .error error := by
  rw [compile]
  cases checkSegments (Segment.ofText text.toList) with
  | error first => simp [bind, Except.bind]
  | ok _ => simp [bind, Except.bind]

/-- Whatever does not compile has a fault of the rule text. -/
theorem exists_fault_of_compile {text : String} {error : RuleError}
    (refused : compile text = .error error) :
    ∃ fault, error = .invalidExpression fault := by
  rcases compile_eq_error_iff_segments.mp refused with checked | ⟨-, formed⟩
  · rcases checkSegments_eq_error_iff.mp checked with ⟨before, mute, after, -, -, -, rfl⟩
    exact ⟨_, rfl⟩
  · rcases ofSegments_eq_error_iff.mp formed with
      ⟨pairs, ⟨-, rfl⟩ | ⟨connective, after, -, rfl⟩ | ⟨first, next, after, -, rfl⟩⟩
    all_goals exact ⟨_, rfl⟩

end Rule

end Eligibility
