import Eligibility.Proofs.Condition.Split
import Mathlib.Logic.IsEmpty.Basic

/-!
# Attempts at a condition

A matcher that searches for a condition tries the possible cuts of the text one
after the other.  It prefers long runs to short ones and a quote to none, and it
goes back to its last choice when the text does not end where it should.  The
conditions that it can find are those of the splits of the text.  For a trimmed
text they are all alike, so the order of the search does not matter, and the
direct reading of a condition agrees with the first attempt that succeeds.
-/

namespace Eligibility.Condition

open Eligibility.Text

/-- The cuts of a text behind characters of one sort, the latest cut first. -/
def cuts (sort : Char → Bool) : List Char → List (List Char × List Char)
  | [] => [([], [])]
  | c :: text =>
      if sort c then (cuts sort text).map (fun cut => (c :: cut.1, cut.2)) ++ [([], c :: text)]
      else [([], c :: text)]

/-- The cuts of a text behind at most one quote, the later cut first. -/
def markCuts : List Char → List (List Char × List Char)
  | [] => [([], [])]
  | c :: text => if isQuote c then [([c], text), ([], c :: text)] else [([], c :: text)]

/-- The literals that can be found behind a comparator, in the order of the
search. -/
def literalAttempts (text : List Char) : List (List Char) :=
  (cuts isBlank text).flatMap fun margin =>
    (markCuts margin.2).flatMap fun opening =>
      (cuts (fun c => !isQuote c) opening.2).flatMap fun body =>
        (markCuts body.2).filterMap fun closing =>
          if body.1 ≠ [] ∧ closing.2 = [] then some (trim body.1) else none

/-- The conditions that can be found in a text behind a field of it, in the order
of the search. -/
def attemptsBehind (field text : List Char) : List Condition :=
  (cuts isBlank text).flatMap fun gap =>
    match gap.2 with
    | [] => []
    | symbol :: rest =>
        match Comparator.ofChar? symbol with
        | none => []
        | some comparator => (literalAttempts rest).map fun literal =>
            { field := String.ofList field, comparator, literal := String.ofList literal }

/-- The conditions that can be found in a text, in the order of the search. -/
def attempts (text : List Char) : List Condition :=
  (cuts isFieldChar text).flatMap fun field =>
    if field.1 = [] then [] else attemptsBehind field.1 field.2

theorem mem_cuts_iff {sort : Char → Bool} {text front back : List Char} :
    (front, back) ∈ cuts sort text ↔ text = front ++ back ∧ ∀ c ∈ front, sort c = true := by
  induction text generalizing front with
  | nil =>
      simp only [cuts, List.mem_singleton, Prod.mk.injEq]
      constructor
      · rintro ⟨rfl, rfl⟩
        simp
      · rintro ⟨text_eq, -⟩
        exact List.append_eq_nil_iff.mp text_eq.symm
  | cons c text ih =>
      by_cases fits : sort c = true
      · rw [cuts, if_pos fits]
        simp only [List.mem_append, List.mem_map, List.mem_singleton, Prod.mk.injEq]
        constructor
        · rintro (⟨⟨front, back⟩, member, rfl, rfl⟩ | ⟨rfl, rfl⟩)
          · rcases ih.mp member with ⟨rfl, sorted⟩
            exact ⟨rfl, List.forall_mem_cons.mpr ⟨fits, sorted⟩⟩
          · simp
        · rintro ⟨text_eq, sorted⟩
          cases front with
          | nil => exact .inr ⟨rfl, text_eq.symm⟩
          | cons d front =>
              cases text_eq
              have sortedRest := (List.forall_mem_cons.mp sorted).2
              exact .inl ⟨(front, back), ih.mpr ⟨rfl, sortedRest⟩, rfl, rfl⟩
      · rw [cuts, if_neg fits]
        simp only [List.mem_singleton, Prod.mk.injEq]
        constructor
        · rintro ⟨rfl, rfl⟩
          simp
        · rintro ⟨text_eq, sorted⟩
          cases front with
          | nil => exact ⟨rfl, text_eq.symm⟩
          | cons d front =>
              cases text_eq
              exact absurd (sorted c List.mem_cons_self) fits

theorem mem_markCuts_iff {text mark back : List Char} :
    (mark, back) ∈ markCuts text ↔ text = mark ++ back ∧ IsMark mark := by
  rw [isMark_iff]
  cases text with
  | nil =>
      simp only [markCuts, List.mem_singleton, Prod.mk.injEq]
      constructor
      · rintro ⟨rfl, rfl⟩
        simp
      · rintro ⟨text_eq, -⟩
        exact List.append_eq_nil_iff.mp text_eq.symm
  | cons c text =>
      by_cases quote : isQuote c = true
      · rw [markCuts, if_pos quote]
        simp only [List.mem_cons, List.not_mem_nil, or_false, Prod.mk.injEq]
        constructor
        · rintro (⟨rfl, rfl⟩ | ⟨rfl, rfl⟩)
          · exact ⟨rfl, .inr ⟨c, quote, rfl⟩⟩
          · exact ⟨rfl, .inl rfl⟩
        · rintro ⟨text_eq, rfl | ⟨d, -, rfl⟩⟩
          · exact .inr ⟨rfl, text_eq.symm⟩
          · cases text_eq
            exact .inl ⟨rfl, rfl⟩
      · rw [markCuts, if_neg quote]
        simp only [List.mem_singleton, Prod.mk.injEq]
        constructor
        · rintro ⟨rfl, rfl⟩
          exact ⟨rfl, .inl rfl⟩
        · rintro ⟨text_eq, rfl | ⟨d, dQuote, rfl⟩⟩
          · exact ⟨rfl, text_eq.symm⟩
          · cases text_eq
            exact absurd dQuote quote

/-- The literals that can be found are those of the quotations of a text. -/
theorem mem_literalAttempts_iff {text literal : List Char} :
    literal ∈ literalAttempts text ↔
      ∃ quotation : Quotation text, trim quotation.body = literal := by
  simp only [literalAttempts, List.mem_flatMap, List.mem_filterMap, Prod.exists, mem_cuts_iff,
    mem_markCuts_iff]
  constructor
  · rintro ⟨margin, afterMargin, ⟨rfl, blank⟩, opening, afterOpening, ⟨rfl, opening_isMark⟩,
      body, afterBody, ⟨rfl, unquoted⟩, closing, afterClosing, ⟨rfl, closing_isMark⟩, found⟩
    split at found
    · rename_i complete
      rcases complete with ⟨nonempty, rfl⟩
      cases found
      have bare : IsBare body := by
        rw [isBare_iff, List.any_eq_false]
        simpa using unquoted
      exact ⟨⟨margin, opening, body, closing, blank, opening_isMark, nonempty, bare,
        closing_isMark, by simp⟩, rfl⟩
    · contradiction
  · rintro ⟨⟨margin, opening, body, closing, blank, opening_isMark, nonempty, bare,
      closing_isMark, rfl⟩, rfl⟩
    have unquoted : ∀ c ∈ body, (!isQuote c) = true := by
      rw [isBare_iff, List.any_eq_false] at bare
      simpa using bare
    refine ⟨margin, opening ++ (body ++ closing), ⟨by simp, blank⟩, opening, body ++ closing,
      ⟨rfl, opening_isMark⟩, body, closing, ⟨rfl, unquoted⟩, closing, [],
      ⟨by simp, closing_isMark⟩, ?_⟩
    rw [if_pos ⟨nonempty, rfl⟩]

theorem mem_attemptsBehind_iff {field text : List Char} {condition : Condition} :
    condition ∈ attemptsBehind field text ↔
      ∃ gap comparator rest literal, text = gap ++ Comparator.symbol comparator :: rest ∧
        IsGap gap ∧ literal ∈ literalAttempts rest ∧
        ⟨String.ofList field, comparator, String.ofList literal⟩ = condition := by
  simp only [attemptsBehind, List.mem_flatMap, Prod.exists, mem_cuts_iff]
  constructor
  · rintro ⟨gap, afterGap, ⟨rfl, blank⟩, found⟩
    split at found
    · contradiction
    rename_i symbol rest
    split at found
    · contradiction
    rename_i comparator read
    rcases List.mem_map.mp found with ⟨literal, member, condition_eq⟩
    exact ⟨gap, comparator, rest, literal, by rw [ofChar?_eq_some_iff.mp read], blank, member,
      condition_eq⟩
  · rintro ⟨gap, comparator, rest, literal, rfl, blank, member, condition_eq⟩
    refine ⟨gap, comparator.symbol :: rest, ⟨rfl, blank⟩, ?_⟩
    simp only [Comparator.ofChar?_symbol]
    exact List.mem_map.mpr ⟨literal, member, condition_eq⟩

/-- The conditions that can be found are those of the splits of a text. -/
theorem mem_attempts_iff {text : List Char} {condition : Condition} :
    condition ∈ attempts text ↔ ∃ split : Split text, split.condition = condition := by
  simp only [attempts, List.mem_flatMap, Prod.exists, mem_cuts_iff]
  constructor
  · rintro ⟨field, afterField, ⟨rfl, chars⟩, found⟩
    split at found
    · contradiction
    rename_i nonempty
    rcases mem_attemptsBehind_iff.mp found with
      ⟨gap, comparator, rest, literal, rfl, blank, member, rfl⟩
    rcases mem_literalAttempts_iff.mp member with ⟨quotation, rfl⟩
    exact ⟨⟨field, gap, comparator, rest, quotation, nonempty, chars, blank, by simp⟩, rfl⟩
  · rintro ⟨⟨field, gap, comparator, rest, quotation, nonempty, chars, blank, rfl⟩, rfl⟩
    refine ⟨field, gap ++ comparator.symbol :: rest, ⟨by simp, chars⟩, ?_⟩
    rw [if_neg nonempty]
    exact mem_attemptsBehind_iff.mpr ⟨gap, comparator, rest, trim quotation.body, rfl, blank,
      mem_literalAttempts_iff.mpr ⟨quotation, rfl⟩, rfl⟩

/-- Every split of a text once it is trimmed gives the condition that the text
writes. -/
theorem parse_eq_of_split {text : String} (split : Split (trim text.toList)) :
    parse text = .ok split.condition := by
  have read := ofTrimmed?_eq_of_split split fun c last => isBlank_of_mem_getLast?_trim last
  simp only [parse, read]

theorem parse_ofList_of_split {text : List Char} (split : Split text)
    (trimmed : trim text = text) : parse (String.ofList text) = .ok split.condition := by
  have read := ofTrimmed?_eq_of_split split fun c last => by
    rw [← trimmed] at last
    exact isBlank_of_mem_getLast?_trim last
  simp only [parse, String.toList_ofList, trimmed, read]

/-- A condition is split off the text that it is read from. -/
theorem exists_split_of_parse {text : String} {condition : Condition}
    (parsed : parse text = .ok condition) :
    ∃ split : Split (trim text.toList), split.condition = condition := by
  rw [parse] at parsed
  cases read : ofTrimmed? (trim text.toList) with
  | none =>
      rw [read] at parsed
      cases parsed
  | some found =>
      rw [read] at parsed
      cases parsed
      exact exists_split_of_ofTrimmed? read

/-- A text without a split is reported as it is. -/
theorem parse_eq_of_isEmpty_split {text : String} (unsplit : IsEmpty (Split (trim text.toList))) :
    parse text = .error (.invalidOperand text) := by
  cases read : ofTrimmed? (trim text.toList) with
  | none => simp only [parse, read]
  | some condition =>
      rcases exists_split_of_ofTrimmed? read with ⟨split, -⟩
      exact (unsplit.false split).elim

/-- The first attempt that succeeds gives the condition that is written. -/
theorem head?_attempts_eq (text : String) :
    (attempts (trim text.toList)).head? = (parse text).toOption := by
  cases found : attempts (trim text.toList) with
  | nil =>
      have unsplit : IsEmpty (Split (trim text.toList)) := by
        constructor
        intro split
        have member := mem_attempts_iff.mpr ⟨split, rfl⟩
        rw [found] at member
        cases member
      rw [parse_eq_of_isEmpty_split unsplit]
      rfl
  | cons first others =>
      have member : first ∈ attempts (trim text.toList) := by
        rw [found]
        exact List.mem_cons_self
      rcases mem_attempts_iff.mp member with ⟨split, rfl⟩
      rw [parse_eq_of_split split]
      rfl

/-- A trimmed text has a split exactly if it writes a condition.  Whichever split
is taken, its condition is the one that is written, and also the first one that
a search finds.  A text without a split is reported untrimmed. -/
theorem parse_eq_condition_of_every_split (text : String) :
    (Nonempty (Split (trim text.toList)) ↔ ∃ condition, parse text = .ok condition) ∧
    (∀ split : Split (trim text.toList), parse text = .ok split.condition) ∧
    (attempts (trim text.toList)).head? = (parse text).toOption ∧
    (IsEmpty (Split (trim text.toList)) ↔ parse text = .error (.invalidOperand text)) := by
  refine ⟨?_, fun split => parse_eq_of_split split, head?_attempts_eq text, ?_⟩
  · constructor
    · rintro ⟨split⟩
      exact ⟨split.condition, parse_eq_of_split split⟩
    · rintro ⟨condition, written⟩
      by_contra unsplit
      rw [parse_eq_of_isEmpty_split (not_nonempty_iff.mp unsplit)] at written
      contradiction
  · constructor
    · exact parse_eq_of_isEmpty_split
    · intro refused
      constructor
      intro split
      rw [parse_eq_of_split split] at refused
      contradiction

/-- Two blank characters before a literal make three attempts, all alike. -/
example : attempts "a =  x\"".toList = List.replicate 3 ⟨"a", .equal, "x"⟩ := by
  decide +kernel

end Eligibility.Condition
