import Eligibility.Proofs.Condition.Attempt
import Eligibility.Proofs.Rule.Reading
import Eligibility.Proofs.Text.Affix

/-!
# Scripts

A script is a rule together with one way to write it: conditions with
connectives between them, the quotes around each literal and all the blank text.
Its text is cut into words without regard to the quotes, so a literal may be
spread over many words, with a quote at the first and at the last one.  Still
the text compiles, and the conditions and the connectives of the script come
back in their order.
-/

namespace Eligibility

open Eligibility.Text

namespace Condition

/-- What a condition needs to be written with its literal between quotes.  The
first and the last word of the literal have a quote next to them, so only its
other words must not be those for connectives. -/
structure Writable (condition : Condition) where
  field_nonempty : condition.field ≠ ""
  field_chars : ∀ c ∈ condition.field.toList, isFieldChar c = true
  field_plain : ∀ connective : Connective, condition.field ≠ connective.word
  literal_nonempty : condition.literal ≠ ""
  literal_isBare : IsBare condition.literal.toList
  literal_trimmed : trim condition.literal.toList = condition.literal.toList
  wording : Wording condition.literal.toList
  inner_isPlain : Segment.IsPlain wording.words.tail.dropLast

end Condition

/-- A condition and how it is written: the blank text on the two sides of the
comparator, and the quotes. -/
structure Phrase where
  condition : Condition
  writable : condition.Writable
  before : List Char
  after : List Char
  opening : Char
  closing : Char
  before_isGap : IsGap before
  after_isGap : IsGap after
  opening_isQuote : Condition.isQuote opening = true
  closing_isQuote : Condition.isQuote closing = true

/-- A connective with the blank text on its two sides, and the condition behind
it. -/
structure Link where
  connective : Connective
  before : List Char
  after : List Char
  phrase : Phrase
  before_isGap : IsGap before
  after_isGap : IsGap after
  before_nonempty : before ≠ []
  after_nonempty : after ≠ []

/-- A first condition and further ones, each behind a connective, with the blank
text around them all. -/
structure Script where
  lead : List Char
  first : Phrase
  links : List Link
  trail : List Char
  lead_isGap : IsGap lead
  trail_isGap : IsGap trail

/-! ## Words that are no connectives -/

namespace Segment

variable {letters gap : List Char} {words : List Word}

theorem ne_word_of_mem {c : Char} (member : c ∈ letters)
    (foreign : ∀ connective : Connective, c ∉ connective.word.toList)
    (connective : Connective) : letters ≠ connective.word.toList := by
  rintro rfl
  exact foreign connective member

/-- Letters with a character that is in no connective may be attached to any
word. -/
theorem isPlain_attach {c : Char} (member : c ∈ letters)
    (foreign : ∀ connective : Connective, c ∉ connective.word.toList)
    (tailPlain : IsPlain words.tail) (separate : gap ≠ [] → IsPlain words) :
    IsPlain (Word.attach letters gap words) := by
  rcases Word.attach_cases letters gap words with
    ⟨-, word, rest, rfl, attached⟩ | ⟨separated, attached⟩
  · rw [attached]
    exact List.forall_mem_cons.mpr
      ⟨ne_word_of_mem (List.mem_append_left _ member) foreign, tailPlain⟩
  · rw [attached]
    have plain : IsPlain words := by
      by_cases nonempty : words = []
      · rw [nonempty]
        exact List.forall_mem_nil _
      · exact separate (separated nonempty)
    exact List.forall_mem_cons.mpr ⟨ne_word_of_mem member foreign, plain⟩

/-- Between quotes, the first and the last word need not be plain. -/
theorem isPlain_tail_finish {c : Char} (member : c ∈ letters)
    (foreign : ∀ connective : Connective, c ∉ connective.word.toList)
    (innerPlain : IsPlain words.tail.dropLast) :
    IsPlain (Word.finish letters gap words).tail := by
  cases words with
  | nil => exact List.forall_mem_nil _
  | cons word words =>
      cases words with
      | nil => exact List.forall_mem_nil _
      | cons next words =>
          rcases Word.exists_finish_eq_dropLast_append (List.cons_ne_nil next words) with
            ⟨front, finished⟩
          rw [Word.finish, List.tail_cons, finished]
          exact List.forall_mem_append.mpr ⟨innerPlain, List.forall_mem_singleton.mpr
            (ne_word_of_mem (List.mem_append_right _ member) foreign)⟩

end Segment

namespace Condition

theorem symbol_not_mem_word (comparator : Comparator) (connective : Connective) :
    comparator.symbol ∉ connective.word.toList := by
  cases comparator <;> cases connective <;> decide

theorem quote_not_mem_word {c : Char} (quote : isQuote c = true) (connective : Connective) :
    c ∉ connective.word.toList := by
  rcases isQuote_iff.mp quote with rfl | rfl <;> cases connective <;> decide

end Condition

/-! ## Phrases -/

namespace Phrase

open Condition

variable (phrase : Phrase)

/-- The text of a phrase. -/
def text : List Char :=
  phrase.condition.field.toList ++ phrase.before ++ [phrase.condition.comparator.symbol] ++
    phrase.after ++ [phrase.opening] ++ phrase.condition.literal.toList ++ [phrase.closing]

/-- The words of a phrase, with a gap behind the last one. -/
def run (gap : List Char) : List Word :=
  Word.attach phrase.condition.field.toList phrase.before <|
    Word.attach [phrase.condition.comparator.symbol] phrase.after <|
      Word.attach [phrase.opening] [] <|
        Word.finish [phrase.closing] gap phrase.writable.wording.words

theorem span_literal :
    Word.span phrase.writable.wording.words = phrase.condition.literal.toList := by
  rw [phrase.writable.wording.span_words, phrase.writable.literal_trimmed]

theorem literalWords_ne_nil : phrase.writable.wording.words ≠ [] := by
  intro empty
  have spanned := phrase.span_literal
  rw [empty] at spanned
  exact phrase.writable.literal_nonempty (String.toList_eq_nil_iff.mp spanned.symm)

theorem field_isWord : IsWord phrase.condition.field.toList := by
  constructor
  · exact fun empty => phrase.writable.field_nonempty (String.toList_eq_nil_iff.mp empty)
  · exact fun c member => isBlank_of_isFieldChar (phrase.writable.field_chars c member)

theorem run_ne_nil (gap : List Char) : phrase.run gap ≠ [] :=
  Word.attach_ne_nil

theorem span_run (gap : List Char) : Word.span (phrase.run gap) = phrase.text := by
  rw [run, Word.span_attach Word.attach_ne_nil, Word.span_attach Word.attach_ne_nil,
    Word.span_attach (Word.finish_ne_nil phrase.literalWords_ne_nil),
    Word.span_finish phrase.literalWords_ne_nil, span_literal, text]
  simp only [List.append_assoc, List.nil_append]

theorem written_run (gap : List Char) : Word.written (phrase.run gap) = phrase.text ++ gap := by
  rw [run, Word.written_attach, Word.written_attach, Word.written_attach,
    Word.written_finish phrase.literalWords_ne_nil, span_literal, text]
  simp only [List.append_assoc, List.nil_append]

theorem apart_run_append {gap : List Char} {behind : List Word} (blank : IsGap gap)
    (separated : behind ≠ [] → gap ≠ []) (behindApart : Word.Apart behind) :
    Word.Apart (phrase.run gap ++ behind) := by
  have symbol_isWord : IsWord [phrase.condition.comparator.symbol] :=
    ⟨List.cons_ne_nil _ _, List.forall_mem_singleton.mpr (isBlank_symbol _)⟩
  have opening_isWord : IsWord [phrase.opening] :=
    ⟨List.cons_ne_nil _ _,
      List.forall_mem_singleton.mpr (isBlank_of_isQuote phrase.opening_isQuote)⟩
  have closing_letters : ∀ c ∈ [phrase.closing], isBlank c = false :=
    List.forall_mem_singleton.mpr (isBlank_of_isQuote phrase.closing_isQuote)
  have finished := Word.apart_finish_append phrase.writable.wording.apart closing_letters blank
    separated behindApart
  rw [run, ← Word.attach_append Word.attach_ne_nil, ← Word.attach_append Word.attach_ne_nil,
    ← Word.attach_append (Word.finish_ne_nil phrase.literalWords_ne_nil)]
  exact Word.apart_attach phrase.field_isWord phrase.before_isGap
    (Word.apart_attach symbol_isWord phrase.after_isGap
      (Word.apart_attach opening_isWord isGap_nil finished))

/-- The words of a phrase are plain: one has the field alone, or else it has the
comparator too, and only inner words of the literal are without a quote. -/
theorem isPlain_run (gap : List Char) : Segment.IsPlain (phrase.run gap) := by
  have finishedPlain : Segment.IsPlain
      (Word.finish [phrase.closing] gap phrase.writable.wording.words).tail :=
    Segment.isPlain_tail_finish List.mem_cons_self (quote_not_mem_word phrase.closing_isQuote)
      phrase.writable.inner_isPlain
  have literalPlain : Segment.IsPlain (Word.attach [phrase.opening] []
      (Word.finish [phrase.closing] gap phrase.writable.wording.words)) :=
    Segment.isPlain_attach List.mem_cons_self (quote_not_mem_word phrase.opening_isQuote)
      finishedPlain fun absent => absurd rfl absent
  have symbolForeign := symbol_not_mem_word phrase.condition.comparator
  have plainBehind {letters : List Char}
      (member : phrase.condition.comparator.symbol ∈ letters) :=
    Segment.isPlain_attach member symbolForeign
      (fun word behind => literalPlain word (List.mem_of_mem_tail behind))
      fun (_ : phrase.after ≠ []) => literalPlain
  by_cases joined : phrase.before = []
  · rw [run, joined, Word.attach_attach]
    exact plainBehind (List.mem_append_right _ List.mem_cons_self)
  · rw [run, Word.attach_of_gap_ne_nil joined]
    have field_plain : ∀ connective : Connective,
        phrase.condition.field.toList ≠ connective.word.toList := fun connective same =>
      phrase.writable.field_plain connective (String.toList_inj.mp same)
    exact List.forall_mem_cons.mpr ⟨field_plain, plainBehind List.mem_cons_self⟩

theorem run_isCondition (gap : List Char) : IsCondition (phrase.run gap) := by
  refine ⟨phrase.run_ne_nil gap, phrase.isPlain_run gap, phrase.condition.comparator.symbol, ?_, ?_⟩
  · rw [span_run, text]
    simp only [List.mem_append, List.mem_singleton, true_or, or_true]
  · cases phrase.condition.comparator <;> simp [Comparator.symbol]

theorem trim_text : trim phrase.text = phrase.text := by
  have apart : Word.Apart (phrase.run [] ++ []) :=
    phrase.apart_run_append isGap_nil (fun absent => absurd rfl absent) Word.apart_nil
  rw [List.append_nil] at apart
  have trimmed := Word.trim_span apart
  rwa [span_run] at trimmed

/-- A phrase as a split of its text. -/
def split : Condition.Split phrase.text where
  field := phrase.condition.field.toList
  gap := phrase.before
  comparator := phrase.condition.comparator
  rest := phrase.after ++ [phrase.opening] ++ phrase.condition.literal.toList ++ [phrase.closing]
  quotation :=
    { margin := phrase.after
      opening := [phrase.opening]
      body := phrase.condition.literal.toList
      closing := [phrase.closing]
      margin_isGap := phrase.after_isGap
      opening_isMark := isMark_iff.mpr (.inr ⟨phrase.opening, phrase.opening_isQuote, rfl⟩)
      body_nonempty := fun empty =>
        phrase.writable.literal_nonempty (String.toList_eq_nil_iff.mp empty)
      body_isBare := phrase.writable.literal_isBare
      closing_isMark := isMark_iff.mpr (.inr ⟨phrase.closing, phrase.closing_isQuote, rfl⟩)
      text_eq := rfl }
  field_nonempty := phrase.field_isWord.1
  field_chars := phrase.writable.field_chars
  gap_isGap := phrase.before_isGap
  text_eq := by
    simp only [text, List.append_assoc, List.cons_append, List.nil_append]

theorem parse_text : Condition.parse (String.ofList phrase.text) = .ok phrase.condition := by
  have whole : phrase.split.condition = phrase.condition := by
    simp only [Split.condition, split, phrase.writable.literal_trimmed, String.ofList_toList]
  rw [parse_ofList_of_split phrase.split phrase.trim_text, whole]

end Phrase

/-! ## Rules nested to the left -/

namespace Rule

/-- The conditions of a rule in text order. -/
def leaves : Rule → List String
  | leaf condition => [condition]
  | join _ left right => left.leaves ++ right.leaves

/-- The connectives of a rule in text order. -/
def connectives : Rule → List String
  | leaf _ => []
  | join connective left right => left.connectives ++ connective :: right.connectives

/-- A rule in which nothing but conditions is joined on the right. -/
def NestsLeft : Rule → Prop
  | leaf _ => True
  | join _ left right => left.NestsLeft ∧ right.kind = .operand

end Rule

namespace Sentence

variable {left : Rule} {others : List (Connective × List Char)}

theorem leaves_foldl_joinLeaf :
    (others.foldl joinLeaf left).leaves =
      left.leaves ++ others.map fun other => String.ofList other.2 := by
  induction others generalizing left with
  | nil => simp
  | cons other others ih =>
      rw [List.foldl_cons, ih, joinLeaf]
      simp [Rule.leaves]

theorem connectives_foldl_joinLeaf :
    (others.foldl joinLeaf left).connectives =
      left.connectives ++ others.map fun other => other.1.word := by
  induction others generalizing left with
  | nil => simp
  | cons other others ih =>
      rw [List.foldl_cons, ih, joinLeaf]
      simp [Rule.connectives]

theorem nestsLeft_foldl_joinLeaf (nested : left.NestsLeft) :
    (others.foldl joinLeaf left).NestsLeft := by
  induction others generalizing left with
  | nil => exact nested
  | cons other others ih => exact ih ⟨nested, rfl⟩

end Sentence

/-! ## Whole scripts -/

/-- The text of a connective and of the condition behind it. -/
def Link.text (link : Link) : List Char :=
  link.before ++ link.connective.word.toList ++ link.after ++ link.phrase.text

/-- A link as it stands in a sentence. -/
def Link.spelled (link : Link) : Connective × List Char :=
  (link.connective, link.phrase.text)

namespace Script

/-- The text of a script. -/
def text (script : Script) : List Char :=
  script.lead ++ script.first.text ++ script.links.flatMap Link.text ++ script.trail

/-- The conditions of a script in text order. -/
def conditions (script : Script) : List Condition :=
  script.first.condition :: script.links.map fun link => link.phrase.condition

/-- The connectives of a script in text order. -/
def connectives (script : Script) : List Connective :=
  script.links.map Link.connective

/-- The sentence of a script. -/
def sentence (script : Script) : Sentence where
  first := script.first.text
  others := script.links.map Link.spelled

/-- The blank text in front of links, or at the end of the text if there are
none. -/
def gapBefore (trail : List Char) : List Link → List Char
  | [] => trail
  | link :: _ => link.before

/-- The clauses of links, with blank text at the end. -/
def clauses (trail : List Char) : List Link → List Clause
  | [] => []
  | link :: links =>
      ⟨link.connective, link.after, link.phrase.run (gapBefore trail links)⟩ ::
        clauses trail links

variable {trail : List Char} {links : List Link}

theorem gapBefore_isGap (blank : IsGap trail) : IsGap (gapBefore trail links) := by
  cases links with
  | nil => exact blank
  | cons link links => exact link.before_isGap

theorem gapBefore_ne_nil (more : links ≠ []) : gapBefore trail links ≠ [] := by
  cases links with
  | nil => contradiction
  | cons link links => exact link.before_nonempty

theorem words_clauses_cons (link : Link) (links : List Link) :
    (clauses trail (link :: links)).flatMap Clause.words =
      ⟨link.connective.word.toList, link.after⟩ ::
        (link.phrase.run (gapBefore trail links) ++
          (clauses trail links).flatMap Clause.words) :=
  rfl

/-- The words of the clauses make up the text of the links. -/
theorem written_clauses :
    gapBefore trail links ++ Word.written ((clauses trail links).flatMap Clause.words) =
      links.flatMap Link.text ++ trail := by
  induction links with
  | nil => simp [gapBefore, clauses]
  | cons link links ih =>
      rw [words_clauses_cons, Word.written_cons, Word.written_append, Phrase.written_run,
        List.append_assoc, ih, List.flatMap_cons, Link.text]
      simp only [gapBefore, List.append_assoc]

theorem apart_clauses (blank : IsGap trail) :
    Word.Apart ((clauses trail links).flatMap Clause.words) := by
  induction links with
  | nil => exact Word.apart_nil
  | cons link links ih =>
      have separated : (clauses trail links).flatMap Clause.words ≠ [] →
          gapBefore trail links ≠ [] := by
        intro more
        apply gapBefore_ne_nil
        rintro rfl
        exact more rfl
      rw [words_clauses_cons]
      exact Word.apart_cons.mpr ⟨link.connective.isWord_word, link.after_isGap,
        fun _ => link.after_nonempty,
        link.phrase.apart_run_append (gapBefore_isGap blank) separated ih⟩

theorem spelled_clauses : (clauses trail links).map Clause.spelled = links.map Link.spelled := by
  induction links with
  | nil => rfl
  | cons link links ih =>
      rw [clauses, List.map_cons, ih, Clause.spelled, Phrase.span_run]
      rfl

theorem clauses_areConditions : ∀ clause ∈ clauses trail links, IsCondition clause.run := by
  induction links with
  | nil => exact List.forall_mem_nil _
  | cons link links ih => exact List.forall_mem_cons.mpr ⟨link.phrase.run_isCondition _, ih⟩

/-- The text of a script has a reading, with the sentence of the script. -/
theorem exists_reading (script : Script) :
    ∃ reading : Reading script.text, reading.sentence = script.sentence := by
  have separated : (clauses script.trail script.links).flatMap Clause.words ≠ [] →
      gapBefore script.trail script.links ≠ [] := by
    intro more
    apply gapBefore_ne_nil
    intro none
    rw [none] at more
    exact more rfl
  have text_eq : script.text = script.lead ++ Word.written
      (script.first.run (gapBefore script.trail script.links) ++
        (clauses script.trail script.links).flatMap Clause.words) := by
    rw [Word.written_append, Phrase.written_run, List.append_assoc, written_clauses, text]
    simp only [List.append_assoc]
  let reading : Reading script.text :=
    { lead := script.lead
      words := _
      lead_isGap := script.lead_isGap
      apart := script.first.apart_run_append (gapBefore_isGap script.trail_isGap) separated
        (apart_clauses script.trail_isGap)
      text_eq := text_eq
      first := script.first.run (gapBefore script.trail script.links)
      clauses := clauses script.trail script.links
      words_eq := rfl
      first_isCondition := script.first.run_isCondition _
      clauses_areConditions := clauses_areConditions }
  refine ⟨reading, ?_⟩
  rw [Reading.sentence, sentence, Phrase.span_run, spelled_clauses]

theorem parse_leaves (script : Script) :
    script.sentence.rule.leaves.map Condition.parse = script.conditions.map .ok := by
  rw [Sentence.rule, Sentence.leaves_foldl_joinLeaf, List.map_append]
  simp [sentence, conditions, Rule.leaves, Link.spelled, Phrase.parse_text]

/-- The text of a script compiles to the left-nested rule of its phrases.  The
leaves of that rule are read as the conditions of the script, in order, and its
connectives are those of the script, in order. -/
theorem compile_text (script : Script) :
    Rule.compile (String.ofList script.text) = .ok script.sentence.rule ∧
    script.sentence.rule.leaves.map Condition.parse = script.conditions.map .ok ∧
    script.sentence.rule.connectives = script.connectives.map Connective.word ∧
    script.sentence.rule.NestsLeft := by
  refine ⟨?_, script.parse_leaves, ?_, Sentence.nestsLeft_foldl_joinLeaf trivial⟩
  · rcases exists_reading script with ⟨reading, sentence_eq⟩
    apply Rule.compile_eq_ok_iff_segments.mpr
    refine ⟨script.sentence, ?_, ?_, rfl⟩
    · rw [← sentence_eq, String.toList_ofList]
      exact reading.ofText_eq_segments
    · rw [← sentence_eq]
      exact reading.sentence_compares
  · rw [Sentence.rule, Sentence.connectives_foldl_joinLeaf]
    simp [sentence, connectives, Rule.connectives, Link.spelled]

/-- Connectives may be the first and the last word of a literal, and the quotes
of a literal may differ. -/
theorem compile_text_of_spread_literal :
    Rule.compile "a ='AND x  OR\"\tOR b>\"1' " =
        .ok (.join "OR" (.leaf "a ='AND x  OR\"") (.leaf "b>\"1'")) ∧
      [Condition.parse "a ='AND x  OR\"", Condition.parse "b>\"1'"] =
        [.ok ⟨"a", .equal, "AND x  OR"⟩, .ok ⟨"b", .greater, "1"⟩] := by
  let spread : Phrase :=
    { condition := ⟨"a", .equal, "AND x  OR"⟩
      writable :=
        { field_nonempty := by decide
          field_chars := List.forall_mem_singleton.mpr (by decide +kernel)
          field_plain := by rintro (_ | _) <;> decide
          literal_nonempty := by decide
          literal_isBare := by decide
          literal_trimmed := by decide
          wording := ⟨[], [⟨"AND".toList, [' ']⟩, ⟨['x'], [' ', ' ']⟩, ⟨"OR".toList, []⟩],
            by decide, by decide, by decide⟩
          inner_isPlain := List.forall_mem_singleton.mpr (by rintro (_ | _) <;> decide) }
      before := [' ']
      after := []
      opening := '\''
      closing := '"'
      before_isGap := by decide
      after_isGap := by decide
      opening_isQuote := rfl
      closing_isQuote := rfl }
  let short : Phrase :=
    { condition := ⟨"b", .greater, "1"⟩
      writable :=
        { field_nonempty := by decide
          field_chars := List.forall_mem_singleton.mpr (by decide +kernel)
          field_plain := by rintro (_ | _) <;> decide
          literal_nonempty := by decide
          literal_isBare := by decide
          literal_trimmed := by decide
          wording := ⟨[], [⟨['1'], []⟩], by decide, by decide, by decide⟩
          inner_isPlain := List.forall_mem_nil _ }
      before := []
      after := []
      opening := '"'
      closing := '\''
      before_isGap := by decide
      after_isGap := by decide
      opening_isQuote := rfl
      closing_isQuote := rfl }
  let link : Link := ⟨.or, ['\t'], [' '], short, by decide, by decide, by decide, by decide⟩
  let script : Script := ⟨[], spread, [link], [' '], by decide, by decide⟩
  have text_eq : String.ofList script.text = "a ='AND x  OR\"\tOR b>\"1' " := by decide
  have rule_eq : script.sentence.rule =
      .join "OR" (.leaf "a ='AND x  OR\"") (.leaf "b>\"1'") := by
    decide
  have compiled := compile_text script
  rw [text_eq, rule_eq] at compiled
  exact ⟨compiled.1, compiled.2.1⟩

end Script

end Eligibility
