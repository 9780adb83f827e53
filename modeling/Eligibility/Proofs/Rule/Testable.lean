import Eligibility.Proofs.Condition.Attempt
import Eligibility.Proofs.Rule.Printed
import Eligibility.Proofs.Rule.Visible
import Eligibility.Proofs.Text.WordList

/-!
# Texts that a rule can test for

A rule text of one condition cannot test a field for every text.  The literal is
written without escapes, so it has no quotes, and it loses the blank text at its ends.
Nor do quotes keep its words together: a connective among them ends the condition,
unless it is the first or the last word and has a quote next to it.  Every other text
can be tested for, in every field.
-/

namespace Eligibility

open Eligibility.Text

/-- A text that is equal to some literal. -/
structure IsTestable (value : List Char) : Prop where
  trimmed : trim value = value
  isBare : Condition.IsBare value
  inner_plain : ∀ letters ∈ (words value).tail.dropLast, ∀ connective : Connective,
    letters ≠ connective.word.toList

/-! ## Spans -/

/-- Spans are the trimmed texts of which no word is for a connective. -/
theorem isSpan_iff {text : List Char} :
    IsSpan text ↔ text ≠ [] ∧ trim text = text ∧ ∀ letters ∈ words text,
      ∀ connective : Connective, letters ≠ connective.word.toList := by
  constructor
  · rintro ⟨run, nonempty, apart, plain, rfl⟩
    obtain ⟨front, word, member, span_eq⟩ := Word.exists_span_eq_append_letters nonempty
    refine ⟨?_, Word.trim_span apart, ?_⟩
    · rw [span_eq]
      exact List.append_ne_nil_of_right_ne_nil front (apart.isWord member).1
    · rw [words_span apart]
      exact List.forall_mem_map.mpr plain
  · rintro ⟨nonempty, trimmed, plain⟩
    obtain ⟨wording⟩ := nonempty_wording text
    have span_eq : Word.span wording.words = text := wording.span_words.trans trimmed
    rw [← span_eq, words_span wording.apart] at plain
    refine ⟨wording.words, ?_, wording.apart, List.forall_mem_map.mp plain, span_eq⟩
    intro wordless
    rw [wordless] at span_eq
    exact nonempty span_eq.symm

/-- Words whose inner ones are not for connectives become a span between two
words that have some other character. -/
theorem isSpan_enclosed {front back : List Char} {run : List Word} {c d : Char}
    (frontIsWord : IsWord front) (backIsWord : IsWord back) (frontMem : c ∈ front)
    (backMem : d ∈ back) (frontForeign : ∀ connective : Connective, c ∉ connective.word.toList)
    (backForeign : ∀ connective : Connective, d ∉ connective.word.toList) (nonempty : run ≠ [])
    (apart : Word.Apart run) (innerPlain : Segment.IsPlain run.tail.dropLast) :
    IsSpan (front ++ Word.span run ++ back) := by
  have finishedPlain : Segment.IsPlain (Word.finish back [] run).tail :=
    Segment.isPlain_tail_finish backMem backForeign innerPlain
  have finishedApart : Word.Apart (Word.finish back [] run ++ []) :=
    Word.apart_finish_append apart backIsWord.2 isGap_nil (fun absent => absurd rfl absent)
      Word.apart_nil
  rw [List.append_nil] at finishedApart
  refine ⟨Word.attach front [] (Word.finish back [] run), Word.attach_ne_nil,
    Word.apart_attach frontIsWord isGap_nil finishedApart,
    Segment.isPlain_attach frontMem frontForeign finishedPlain fun absent => absurd rfl absent, ?_⟩
  rw [Word.span_attach (Word.finish_ne_nil nonempty), Word.span_finish nonempty, List.append_nil,
    List.append_assoc]

/-! ## What a test can be for -/

namespace Condition

/-- A record with one text passes exactly the condition that tests for it. -/
theorem check_single_eq_true_iff {condition : Condition} {field value : String} :
    condition.check (Table.ofPairs [(field, .string value)]) = .ok true ↔
      condition = ⟨field, .equal, value⟩ := by
  obtain ⟨name, comparator, literal⟩ := condition
  rw [check, Record.get?_ofPairs, Json.lookup, Json.lookup_nil]
  dsimp only
  by_cases same : field = name
  · rw [if_pos same, ← same]
    cases comparator with
    | equal => simpa [checkText] using eq_comm
    | greater | less => simp [checkText]
  · rw [if_neg same]
    simp [Ne.symm same]

end Condition

theorem Condition.Split.any_isComparator {text : List Char} (split : Condition.Split text) :
    text.any Segment.isComparator = true := by
  obtain ⟨field, gap, comparator, rest, -, -, -, -, rfl⟩ := split
  apply Segment.any_isComparator_iff.mpr
  refine ⟨comparator.symbol, List.mem_append_right _ List.mem_cons_self, ?_⟩
  cases comparator <;> simp [Comparator.symbol]

/-- Of the inner words of a literal, none is for a connective if that holds for
all words of the condition. -/
theorem Condition.Split.isTestable {text : List Char} (split : Condition.Split text)
    (plain : ∀ letters ∈ words text, ∀ connective : Connective,
      letters ≠ connective.word.toList) : IsTestable (trim split.quotation.body) where
  trimmed := trim_trim _
  isBare := by
    obtain ⟨lead, trail, -, -, body_eq⟩ := exists_gaps_around_trim split.quotation.body
    have bare := split.quotation.body_isBare
    rw [body_eq, Condition.IsBare, List.forall_mem_append, List.forall_mem_append] at bare
    exact bare.1.2
  inner_plain := by
    obtain ⟨lead, trail, -, -, body_eq⟩ := exists_gaps_around_trim split.quotation.body
    have text_eq : text = (split.field ++ split.gap ++ split.comparator.symbol ::
        (split.quotation.margin ++ split.quotation.opening ++ lead)) ++
          trim split.quotation.body ++ (trail ++ split.quotation.closing) := by
      conv_lhs => rw [split.text_eq, split.quotation.text_eq, body_eq]
      simp only [List.append_assoc, List.cons_append]
    intro letters inner
    apply plain
    rw [text_eq]
    exact mem_words_of_mem_inner inner

/-! ## How to test for a text -/

/-- A condition that tests a field for a text.  For the empty text there is nothing to
write between two quotes, so a lone quote stands behind a space. -/
def testFor (field value : List Char) : List Char :=
  if value = [] then field ++ ['='] ++ [' '] ++ ['\''] else field ++ ['=', '\''] ++ value ++ ['\'']

section

variable {field value : List Char}

theorem testFor_nil (field : List Char) : testFor field [] = field ++ ['='] ++ [' '] ++ ['\''] :=
  if_pos rfl

theorem testFor_of_ne_nil (field : List Char) (nonempty : value ≠ []) :
    testFor field value = field ++ ['=', '\''] ++ value ++ ['\''] :=
  if_neg nonempty

/-- The words of a test are for no connective. -/
theorem isSpan_testFor (isWord : IsWord field) (testable : IsTestable value) :
    IsSpan (testFor field value) := by
  have quoteIsWord : IsWord ['\''] := by decide
  have quoteForeign : ∀ connective : Connective, '\'' ∉ connective.word.toList :=
    Condition.quote_not_mem_word rfl
  have symbolForeign : ∀ connective : Connective, '=' ∉ connective.word.toList :=
    Condition.symbol_not_mem_word .equal
  have frontIsWord {letters : List Char} (lettersIsWord : IsWord letters) :
      IsWord (field ++ letters) :=
    ⟨List.append_ne_nil_of_left_ne_nil isWord.1 letters,
      List.forall_mem_append.mpr ⟨isWord.2, lettersIsWord.2⟩⟩
  by_cases empty : value = []
  · have frontPlain := Segment.ne_word_of_mem
      (List.mem_append_right field (List.mem_singleton.mpr rfl)) symbolForeign
    have quotePlain := Segment.ne_word_of_mem (List.mem_singleton.mpr rfl) quoteForeign
    have spaceIsGap : IsGap [' '] := by decide
    rw [empty, testFor_nil]
    refine ⟨[⟨field ++ ['='], [' ']⟩, ⟨['\''], []⟩], List.cons_ne_nil _ _, ?_, ?_, rfl⟩
    · exact ⟨frontIsWord (by decide), spaceIsGap, fun _ => List.cons_ne_nil _ _, quoteIsWord,
        isGap_nil, fun absent => absurd rfl absent, Word.apart_nil⟩
    · exact List.forall_mem_cons.mpr ⟨frontPlain, List.forall_mem_singleton.mpr quotePlain⟩
  · obtain ⟨wording⟩ := nonempty_wording value
    have span_eq : Word.span wording.words = value := wording.span_words.trans testable.trimmed
    have innerPlain := testable.inner_plain
    rw [← span_eq, words_span wording.apart, ← List.map_tail, ← List.map_dropLast,
      List.forall_mem_map] at innerPlain
    have hasWords : wording.words ≠ [] := by
      intro wordless
      rw [wordless] at span_eq
      exact empty span_eq.symm
    rw [testFor_of_ne_nil field empty, ← span_eq]
    exact isSpan_enclosed (frontIsWord (by decide)) quoteIsWord
      (List.mem_append_right field List.mem_cons_self) List.mem_cons_self symbolForeign
      quoteForeign hasWords wording.apart innerPlain

/-- A test splits as the condition that it is meant to be. -/
theorem exists_split_testFor (nonempty : field ≠ [])
    (fieldChars : ∀ c ∈ field, isFieldChar c = true) (testable : IsTestable value) :
    ∃ split : Condition.Split (testFor field value),
      split.condition = ⟨String.ofList field, .equal, String.ofList value⟩ := by
  by_cases empty : value = []
  · subst empty
    let quotation : Condition.Quotation [' ', '\''] :=
      ⟨[], [], [' '], ['\''], isGap_nil, .inl rfl, List.cons_ne_nil _ _, by decide,
        .inr (.inl rfl), rfl⟩
    exact ⟨⟨field, [], .equal, _, quotation, nonempty, fieldChars, isGap_nil,
      by simp [testFor_nil, Comparator.symbol]⟩, rfl⟩
  · let quotation : Condition.Quotation ('\'' :: value ++ ['\'']) :=
      ⟨[], ['\''], value, ['\''], isGap_nil, .inr (.inl rfl), empty, testable.isBare,
        .inr (.inl rfl), rfl⟩
    let split : Condition.Split (testFor field value) :=
      ⟨field, [], .equal, _, quotation, nonempty, fieldChars, isGap_nil,
        by simp [testFor_of_ne_nil field empty, Comparator.symbol]⟩
    have condition_eq : split.condition =
        ⟨String.ofList field, .equal, String.ofList (trim value)⟩ := rfl
    rw [testable.trimmed] at condition_eq
    exact ⟨split, condition_eq⟩

end

/-! ## Tests for texts -/

/-- If a rule text of one condition holds for a text in a field, then that text can be
tested for. -/
theorem isTestable_of_passes {field value text condition : String}
    (compiled : Rule.compile text = .ok (.leaf condition))
    (passed : (Rule.leaf condition).evaluate (Table.ofPairs [(field, .string value)]) =
      .ok true) : IsTestable value.toList := by
  obtain ⟨segments_eq, -⟩ := Rule.compile_eq_leaf_iff.mp compiled
  have isSpan : IsSpan condition.toList := by
    apply IsSpan.of_mem_ofText
    rw [segments_eq]
    exact List.mem_cons_self
  obtain ⟨-, trimmed, plain⟩ := isSpan_iff.mp isSpan
  obtain ⟨parsedCondition, parsed, checked⟩ := bind_eq_ok_iff.mp passed
  obtain ⟨split, condition_eq⟩ := Condition.exists_split_of_parse parsed
  rw [Condition.check_single_eq_true_iff, ← condition_eq] at checked
  have literal_eq := congrArg Condition.literal checked
  change String.ofList (trim split.quotation.body) = value at literal_eq
  rw [← literal_eq, String.toList_ofList]
  apply split.isTestable
  rw [trimmed]
  exact plain

/-- The test for a text compiles to itself and passes. -/
theorem testFor_passes {field value : String} (nonempty : field ≠ "")
    (fieldChars : ∀ c ∈ field.toList, isFieldChar c = true) (testable : IsTestable value.toList) :
    let test := String.ofList (testFor field.toList value.toList)
    Rule.compile test = .ok (.leaf test) ∧
      (Rule.leaf test).evaluate (Table.ofPairs [(field, .string value)]) = .ok true := by
  intro test
  have fieldNonempty : field.toList ≠ [] := mt String.toList_eq_nil_iff.mp nonempty
  have isWord : IsWord field.toList :=
    ⟨fieldNonempty, fun c member => isBlank_of_isFieldChar (fieldChars c member)⟩
  have isSpan := isSpan_testFor isWord testable
  obtain ⟨split, condition_eq⟩ := exists_split_testFor fieldNonempty fieldChars testable
  constructor
  · rw [Rule.compile_eq_leaf_iff, String.toList_ofList]
    exact ⟨isSpan.ofText_eq, split.any_isComparator⟩
  · have parsed := Condition.parse_ofList_of_split split (isSpan_iff.mp isSpan).2.1
    rw [condition_eq, String.ofList_toList, String.ofList_toList] at parsed
    exact bind_eq_ok_iff.mpr ⟨_, parsed, Condition.check_single_eq_true_iff.mpr rfl⟩

/-- For a field and a text there is a rule text of a single condition that holds if the
field has that text, exactly if the text is trimmed, has no quotes, and has no word
for a connective other than the first and the last one. -/
theorem exists_test_iff_isTestable {field : String} (nonempty : field ≠ "")
    (fieldChars : ∀ c ∈ field.toList, isFieldChar c = true) (value : String) :
    (∃ text condition, Rule.compile text = .ok (.leaf condition) ∧
      (Rule.leaf condition).evaluate (Table.ofPairs [(field, .string value)]) = .ok true) ↔
      IsTestable value.toList := by
  constructor
  · rintro ⟨text, condition, compiled, passed⟩
    exact isTestable_of_passes compiled passed
  · intro testable
    exact ⟨_, _, testFor_passes nonempty fieldChars testable⟩

/-- A field may be called like a connective, and a connective may be the first or the
last word of its text, but not one between two others. -/
theorem exists_test_iff_isTestable_of_connectives :
    (∃ text condition, Rule.compile text = .ok (.leaf condition) ∧
      (Rule.leaf condition).evaluate (Table.ofPairs [("AND", .string "OR x AND")]) = .ok true) ∧
    ¬ ∃ text condition, Rule.compile text = .ok (.leaf condition) ∧
      (Rule.leaf condition).evaluate (Table.ofPairs [("AND", .string "x OR y")]) = .ok true := by
  have nonempty : "AND" ≠ "" := by decide
  have fieldChars : ∀ c ∈ "AND".toList, isFieldChar c = true :=
    List.all_eq_true.mp (by decide +kernel)
  rw [exists_test_iff_isTestable nonempty fieldChars, exists_test_iff_isTestable nonempty fieldChars]
  constructor
  · have inner_eq : (words "OR x AND".toList).tail.dropLast = [['x']] := by decide
    refine ⟨by decide, by decide, ?_⟩
    rw [inner_eq]
    exact List.forall_mem_singleton.mpr (by rintro (_ | _) <;> decide)
  · intro testable
    exact testable.inner_plain "OR".toList (by decide) .or rfl

end Eligibility
