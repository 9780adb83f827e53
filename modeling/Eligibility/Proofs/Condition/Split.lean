import Eligibility.Condition
import Eligibility.Proofs.Text.Blank
import Mathlib.Data.List.Basic

/-!
# Splits of a condition

A text writes a condition if it splits into a field, a comparator and a literal,
with optional blank text around the comparator and an optional quote on either
side of the literal.  A text may split in several ways, because blank text before
the literal may also count as part of it, and a lone quote may open the literal
or close it.  All the splits of a trimmed text write the same condition.
-/

namespace Eligibility.Condition

open Eligibility.Text

/-- A text of at most one quote. -/
def IsMark (mark : List Char) : Prop :=
  mark = [] ∨ mark = ['\''] ∨ mark = ['"']

/-- A text without quotes. -/
def IsBare (body : List Char) : Prop :=
  ∀ c ∈ body, c ≠ '\'' ∧ c ≠ '"'

instance (body : List Char) : Decidable (IsBare body) :=
  List.decidableBAll (fun c => c ≠ '\'' ∧ c ≠ '"') body

/-- A split of what follows the comparator. -/
structure Quotation (text : List Char) where
  margin : List Char
  opening : List Char
  body : List Char
  closing : List Char
  margin_isGap : IsGap margin
  opening_isMark : IsMark opening
  body_nonempty : body ≠ []
  body_isBare : IsBare body
  closing_isMark : IsMark closing
  text_eq : text = margin ++ opening ++ body ++ closing

/-- A split of a whole text. -/
structure Split (text : List Char) where
  field : List Char
  gap : List Char
  comparator : Comparator
  rest : List Char
  quotation : Quotation rest
  field_nonempty : field ≠ []
  field_chars : ∀ c ∈ field, isFieldChar c = true
  gap_isGap : IsGap gap
  text_eq : text = field ++ gap ++ comparator.symbol :: rest

/-- The condition that a split writes. -/
def Split.condition {text : List Char} (split : Split text) : Condition where
  field := String.ofList split.field
  comparator := split.comparator
  literal := String.ofList (trim split.quotation.body)

/-! ## The sorts of characters -/

theorem isQuote_iff {c : Char} : isQuote c = true ↔ c = '\'' ∨ c = '"' := by
  simp [isQuote]

theorem isBare_iff {body : List Char} : IsBare body ↔ body.any isQuote = false := by
  simp [IsBare, isQuote]

theorem IsBare.not_isQuote {body : List Char} (bare : IsBare body) {c : Char}
    (member : c ∈ body) : ¬ isQuote c = true := by
  rw [isQuote_iff, not_or]
  exact bare c member

theorem isMark_iff {mark : List Char} :
    IsMark mark ↔ mark = [] ∨ ∃ quote, isQuote quote = true ∧ mark = [quote] := by
  simp [IsMark, isQuote_iff]

theorem isBare_of_isGap {gap : List Char} (blank : IsGap gap) : IsBare gap := by
  intro c member
  have cBlank := blank c member
  constructor
  · rintro rfl
    contradiction
  · rintro rfl
    contradiction

theorem isBlank_symbol (comparator : Comparator) : isBlank comparator.symbol = false := by
  cases comparator <;> rfl

theorem isBlank_of_isQuote {c : Char} (quote : isQuote c = true) : isBlank c = false := by
  rcases isQuote_iff.mp quote with rfl | rfl <;> rfl

theorem isFieldChar_symbol (comparator : Comparator) :
    isFieldChar comparator.symbol = false := by
  cases comparator <;> decide +kernel

theorem ofChar?_eq_some_iff {c : Char} {comparator : Comparator} :
    Comparator.ofChar? c = some comparator ↔ c = comparator.symbol := by
  constructor
  · intro read
    unfold Comparator.ofChar? at read
    cases comparator <;> grind [Comparator.symbol]
  · rintro rfl
    exact Comparator.ofChar?_symbol comparator

/-! ## Literals -/

theorem dropClosingQuote_concat (text : List Char) (last : Char) :
    dropClosingQuote (text ++ [last]) = if isQuote last then text else text ++ [last] := by
  simp [dropClosingQuote]

/-- Dropping the closing quote of a text takes at most a mark off its end. -/
theorem exists_mark_dropClosingQuote (text : List Char) :
    ∃ mark, IsMark mark ∧ text = dropClosingQuote text ++ mark := by
  rcases List.eq_nil_or_concat' text with rfl | ⟨front, last, rfl⟩
  · exact ⟨[], .inl rfl, rfl⟩
  · rw [dropClosingQuote_concat]
    by_cases quote : isQuote last = true
    · rw [if_pos quote]
      exact ⟨[last], isMark_iff.mpr (.inr ⟨last, quote, rfl⟩), rfl⟩
    · rw [if_neg quote]
      exact ⟨[], .inl rfl, (List.append_nil _).symm⟩

/-- A mark behind a bare text is all that is dropped. -/
theorem dropClosingQuote_append {body mark : List Char} (bare : IsBare body)
    (isMark : IsMark mark) : dropClosingQuote (body ++ mark) = body := by
  rcases isMark_iff.mp isMark with rfl | ⟨quote, isQuote, rfl⟩
  · rw [List.append_nil]
    rcases List.eq_nil_or_concat' body with rfl | ⟨front, last, rfl⟩
    · rfl
    · have unquoted := bare.not_isQuote (List.mem_append_right front List.mem_cons_self)
      rw [dropClosingQuote_concat, if_neg unquoted]
  · rw [dropClosingQuote_concat, if_pos isQuote]

theorem bareLiteral?_eq_some_iff {body literal : List Char} :
    bareLiteral? body = some literal ↔ body ≠ [] ∧ IsBare body ∧ trim body = literal := by
  rw [bareLiteral?]
  split
  · rename_i unfit
    constructor
    · intro read
      contradiction
    · rintro ⟨nonempty, bare, -⟩
      rcases unfit with empty | quoted
      · exact absurd empty nonempty
      · rw [isBare_iff.mp bare] at quoted
        contradiction
  · rename_i fit
    rw [not_or] at fit
    rw [Option.some.injEq]
    constructor
    · intro trimmed
      exact ⟨fit.1, isBare_iff.mpr (by simpa using fit.2), trimmed⟩
    · rintro ⟨-, -, trimmed⟩
      exact trimmed

/-- A literal that is read has been split off, and it is the trimmed body of the
split. -/
theorem exists_quotation_of_literal? {text literal : List Char}
    (read : literal? text = some literal) :
    ∃ quotation : Quotation text, trim quotation.body = literal := by
  rcases exists_gap_append_trimStart text with ⟨gap, gapBlank, text_eq⟩
  rw [literal?] at read
  split at read
  · contradiction
  rename_i first rest trimmed
  rw [trimmed] at text_eq
  split at read
  · rename_i quote
    have opening_isMark := isMark_iff.mpr (.inr ⟨first, quote, rfl⟩)
    split at read
    · rename_i last
      subst last
      split at read
      · contradiction
      · rename_i longer
        have nonempty : gap ≠ [] := by
          rintro rfl
          exact longer (by rw [text_eq]; rfl)
        cases read
        exact ⟨⟨[], [], gap, [first], isGap_nil, .inl rfl, nonempty,
          isBare_of_isGap gapBlank, opening_isMark, by simpa using text_eq⟩,
          trim_of_isGap gapBlank⟩
    · rcases bareLiteral?_eq_some_iff.mp read with ⟨nonempty, bare, literal_eq⟩
      rcases exists_mark_dropClosingQuote rest with ⟨mark, mark_isMark, rest_eq⟩
      exact ⟨⟨gap, [first], dropClosingQuote rest, mark, gapBlank, opening_isMark, nonempty,
        bare, mark_isMark, by rw [text_eq]; simpa using rest_eq⟩, literal_eq⟩
  · rcases bareLiteral?_eq_some_iff.mp read with ⟨nonempty, bare, literal_eq⟩
    rcases exists_mark_dropClosingQuote (first :: rest) with ⟨mark, mark_isMark, rest_eq⟩
    exact ⟨⟨gap, [], dropClosingQuote (first :: rest), mark, gapBlank, .inl rfl, nonempty,
      bare, mark_isMark, by rw [text_eq]; simpa using rest_eq⟩, literal_eq⟩

theorem literal?_lone_quote {gap : List Char} {quote : Char} (nonempty : gap ≠ [])
    (blank : IsGap gap) (isQuote : isQuote quote = true) :
    literal? (gap ++ [quote]) = some [] := by
  have longer : ¬ (gap ++ [quote]).length = 1 := by
    simpa using nonempty
  simp only [literal?, trimStart_gap_append blank,
    trimStart_cons_of_isBlank_eq_false (isBlank_of_isQuote isQuote), if_pos isQuote, if_true,
    if_neg longer]

theorem literal?_quote {gap rest : List Char} {quote : Char} (blank : IsGap gap)
    (isQuote : isQuote quote = true) (nonempty : rest ≠ []) :
    literal? (gap ++ quote :: rest) = bareLiteral? (dropClosingQuote rest) := by
  simp only [literal?, trimStart_gap_append blank,
    trimStart_cons_of_isBlank_eq_false (isBlank_of_isQuote isQuote), if_pos isQuote,
    if_neg nonempty]

theorem literal?_letter {gap rest : List Char} {letter : Char} (blank : IsGap gap)
    (unblank : isBlank letter = false) (unquoted : ¬ isQuote letter = true) :
    literal? (gap ++ letter :: rest) = bareLiteral? (dropClosingQuote (letter :: rest)) := by
  simp only [literal?, trimStart_gap_append blank, trimStart_cons_of_isBlank_eq_false unblank,
    if_neg unquoted]

/-- Every split of a text that does not end in a blank character gives the
literal that is read. -/
theorem literal?_eq_of_quotation {text : List Char} (quotation : Quotation text)
    (trimmed : ∀ c ∈ text.getLast?, isBlank c = false) :
    literal? text = some (trim quotation.body) := by
  rcases quotation with ⟨margin, opening, body, closing, marginBlank, opening_isMark, nonempty,
    bare, closing_isMark, rfl⟩
  change literal? (margin ++ opening ++ body ++ closing) = some (trim body)
  rcases isMark_iff.mp opening_isMark with rfl | ⟨quote, isQuote, rfl⟩
  · rcases isGap_or_exists_letter body with bodyBlank | ⟨gap, letter, letters, gapBlank, unblank,
      rfl⟩
    · rcases isMark_iff.mp closing_isMark with rfl | ⟨quote, isQuote, rfl⟩
      · rcases List.eq_nil_or_concat' body with rfl | ⟨front, last, rfl⟩
        · contradiction
        · have lastBlank := bodyBlank last (by simp)
          rw [trimmed last (by simp)] at lastBlank
          contradiction
      · have frontBlank : IsGap (margin ++ body) := isGap_append.mpr ⟨marginBlank, bodyBlank⟩
        have frontNonempty : margin ++ body ≠ [] := by
          intro empty
          exact nonempty (List.append_eq_nil_iff.mp empty).2
        rw [List.append_nil, trim_of_isGap bodyBlank]
        exact literal?_lone_quote frontNonempty frontBlank isQuote
    · have frontBlank : IsGap (margin ++ gap) := isGap_append.mpr ⟨marginBlank, gapBlank⟩
      have lettersBare : IsBare (letter :: letters) := fun c member =>
        bare c (List.mem_append_right gap member)
      have unquoted := lettersBare.not_isQuote List.mem_cons_self
      have text_eq : margin ++ [] ++ (gap ++ letter :: letters) ++ closing =
          (margin ++ gap) ++ letter :: (letters ++ closing) := by
        simp
      rw [text_eq, literal?_letter frontBlank unblank unquoted, ← List.cons_append,
        dropClosingQuote_append lettersBare closing_isMark, trim_gap_append gapBlank]
      exact bareLiteral?_eq_some_iff.mpr ⟨List.cons_ne_nil _ _, lettersBare, rfl⟩
  · have restNonempty : body ++ closing ≠ [] := by
      intro empty
      exact nonempty (List.append_eq_nil_iff.mp empty).1
    have text_eq : margin ++ [quote] ++ body ++ closing =
        margin ++ quote :: (body ++ closing) := by
      simp
    rw [text_eq, literal?_quote marginBlank isQuote restNonempty,
      dropClosingQuote_append bare closing_isMark]
    exact bareLiteral?_eq_some_iff.mpr ⟨nonempty, bare, rfl⟩

/-! ## Whole texts -/

theorem exists_cons_of_gap_append {gap : List Char} (blank : IsGap gap)
    (comparator : Comparator) (rest : List Char) :
    ∃ c behind, gap ++ comparator.symbol :: rest = c :: behind ∧ ¬ isFieldChar c = true := by
  cases gap with
  | nil => exact ⟨_, rest, rfl, by simp [isFieldChar_symbol]⟩
  | cons c gap =>
      have cBlank := (isGap_cons.mp blank).1
      exact ⟨c, gap ++ comparator.symbol :: rest, rfl, by simp [isFieldChar_of_isBlank cBlank]⟩

/-- Every split of a text that does not end in a blank character gives the
condition that is read. -/
theorem ofTrimmed?_eq_of_split {text : List Char} (split : Split text)
    (trimmed : ∀ c ∈ text.getLast?, isBlank c = false) :
    ofTrimmed? text = some split.condition := by
  rcases split with ⟨field, gap, comparator, rest, quotation, nonempty, chars, blank, rfl⟩
  change ofTrimmed? (field ++ gap ++ comparator.symbol :: rest) =
    some ⟨String.ofList field, comparator, String.ofList (trim quotation.body)⟩
  have restTrimmed : ∀ c ∈ rest.getLast?, isBlank c = false := by
    intro c last
    apply trimmed
    simp [List.getLast?_cons, Option.mem_def.mp last]
  rcases exists_cons_of_gap_append blank comparator rest with
    ⟨c, behind, behind_eq, unfit⟩
  have taken : (field ++ gap ++ comparator.symbol :: rest).takeWhile isFieldChar = field := by
    rw [List.append_assoc, List.takeWhile_append_of_pos chars, behind_eq,
      List.takeWhile_cons_of_neg unfit, List.append_nil]
  have dropped : (field ++ gap ++ comparator.symbol :: rest).dropWhile isFieldChar =
      gap ++ comparator.symbol :: rest := by
    rw [List.append_assoc, List.dropWhile_append_of_pos chars, behind_eq,
      List.dropWhile_cons_of_neg unfit]
  have skipped : trimStart (gap ++ comparator.symbol :: rest) = comparator.symbol :: rest := by
    rw [trimStart_gap_append blank,
      trimStart_cons_of_isBlank_eq_false (isBlank_symbol comparator)]
  rcases List.exists_cons_of_ne_nil nonempty with ⟨letter, letters, rfl⟩
  simp only [ofTrimmed?, taken, dropped, skipped, Comparator.ofChar?_symbol,
    literal?_eq_of_quotation quotation restTrimmed]
  rfl

/-- A condition that is read has been split off. -/
theorem exists_split_of_ofTrimmed? {text : List Char} {condition : Condition}
    (read : ofTrimmed? text = some condition) :
    ∃ split : Split text, split.condition = condition := by
  simp only [ofTrimmed?] at read
  split at read
  · rename_i letter letters symbol rest field_eq behind_eq
    rcases Option.bind_eq_some_iff.mp read with ⟨comparator, symbolRead, read⟩
    rcases Option.bind_eq_some_iff.mp read with ⟨literal, literalRead, read⟩
    cases read
    rcases exists_quotation_of_literal? literalRead with ⟨quotation, rfl⟩
    rcases exists_gap_append_trimStart (text.dropWhile isFieldChar) with
      ⟨gap, gapBlank, dropped_eq⟩
    rw [behind_eq, ofChar?_eq_some_iff.mp symbolRead] at dropped_eq
    have chars : ∀ c ∈ text.takeWhile isFieldChar, isFieldChar c = true := fun c member =>
      List.mem_takeWhile_imp member
    have nonempty : text.takeWhile isFieldChar ≠ [] := by
      rw [field_eq]
      exact List.cons_ne_nil letter letters
    have text_eq : text =
        text.takeWhile isFieldChar ++ gap ++ comparator.symbol :: rest := by
      rw [List.append_assoc, ← dropped_eq, List.takeWhile_append_dropWhile]
    exact ⟨⟨_, gap, comparator, rest, quotation, nonempty, chars, gapBlank, text_eq⟩, rfl⟩
  · contradiction

end Eligibility.Condition
