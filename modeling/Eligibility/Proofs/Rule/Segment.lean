import Eligibility.Proofs.Text.Word
import Eligibility.Rule.Segment

/-!
# Segments and words

The segments of a text depend on its words alone.  A word for a connective gives
a segment of its own, and a run of other words gives one condition, the span of
the run.  Conversely, every segment comes from the words that stand at its place,
so no word is lost between two segments or counted for both.
-/

namespace Eligibility

/-- A text that is the word for no connective is read as none. -/
theorem Connective.ofString?_ofList_eq_none_iff {letters : List Char} :
    ofString? (String.ofList letters) = none ↔
      ∀ connective : Connective, letters ≠ connective.word.toList := by
  constructor
  · intro unread connective letters_eq
    rw [letters_eq, String.ofList_toList, ofString?_word] at unread
    contradiction
  · intro plain
    cases read : ofString? (String.ofList letters) with
    | none => rfl
    | some connective =>
        have spelled := ofString?_eq_some_iff.mp read
        exact absurd (by rw [← spelled, String.toList_ofList]) (plain connective)

theorem Connective.isWord_word (connective : Connective) :
    Text.IsWord connective.word.toList := by
  cases connective <;> simp [Text.IsWord, word, Text.isBlank]

namespace Segment

open Eligibility.Text

/-! ## From the runs of a text to its words -/

/-- The blank text at the start of a text and the segments of the text. -/
def scan (text : List Char) : List Char × List Segment :=
  (runs text).foldr prependRun ([], [])

/-- The segments that words form. -/
def ofWords (words : List Word) : List Segment :=
  words.foldr (fun word => prependWord word.letters word.gap) []

@[simp]
theorem ofWords_nil : ofWords [] = [] :=
  rfl

theorem ofWords_cons (word : Word) (words : List Word) :
    ofWords (word :: words) = prependWord word.letters word.gap (ofWords words) :=
  rfl

theorem scan_gap_append {gap rest : List Char} (nonempty : gap ≠ []) (blank : IsGap gap)
    (letter : ∀ c ∈ rest.head?, isBlank c = false) :
    scan (gap ++ rest) = (gap, (scan rest).2) := by
  rw [scan, runs_append nonempty blank letter, List.foldr_cons, prependRun, if_pos]
  · rfl
  · exact List.all_eq_true.mpr blank

/-- A word in front of a text that starts with a blank character. -/
theorem scan_word_append {word rest : List Char} (isWord : IsWord word)
    (blank : ∀ c ∈ rest.head?, isBlank c = true) :
    scan (word ++ rest) = ([], prependWord word (scan rest).1 (scan rest).2) := by
  rw [scan, runs_append isWord.1 isWord.2 blank, List.foldr_cons, prependRun, if_neg]
  · rfl
  · intro allBlank
    obtain ⟨letter, letters, rfl⟩ := List.exists_cons_of_ne_nil isWord.1
    have letterBlank := List.all_eq_true.mp allBlank letter List.mem_cons_self
    rw [isWord.2 letter List.mem_cons_self] at letterBlank
    contradiction

/-- Words are scanned one by one. -/
theorem scan_written {words : List Word} (apart : Word.Apart words) :
    scan (Word.written words) = ([], ofWords words) := by
  induction words with
  | nil => rfl
  | cons word words ih =>
      rcases Word.apart_cons.mp apart with ⟨isWord, gapBlank, -, restApart⟩
      have behind : scan (word.gap ++ Word.written words) = (word.gap, ofWords words) := by
        by_cases closed : word.gap = []
        · rw [closed, apart.eq_nil_of_gap_eq_nil closed]
          rfl
        · rw [scan_gap_append closed gapBlank
            fun c first => Word.isBlank_of_mem_head?_written restApart first, ih restApart]
      rw [Word.written_cons,
        scan_word_append isWord fun c first => apart.isBlank_of_mem_head? first, behind]
      rfl

/-- The segments of a text are those of its words. -/
theorem ofText_eq_ofWords {text : List Char} (wording : Wording text) :
    ofText text = ofWords wording.words := by
  obtain ⟨lead, words, lead_isGap, apart, rfl⟩ := wording
  have scanned := scan_written apart
  by_cases empty : lead = []
  · subst empty
    exact congrArg Prod.snd scanned
  · have whole := scan_gap_append empty lead_isGap
      fun c first => Word.isBlank_of_mem_head?_written apart first
    rw [scanned] at whole
    exact congrArg Prod.snd whole

/-! ## From words to segments and back -/

/-- Words of which none is the word for a connective. -/
def IsPlain (run : List Word) : Prop :=
  ∀ word ∈ run, ∀ connective : Connective, word.letters ≠ connective.word.toList

/-- Segments that do not start with a condition. -/
def StartsApart : List Segment → Prop
  | .condition _ :: _ => False
  | _ => True

theorem exists_condition_or_startsApart (segments : List Segment) :
    (∃ text rest, segments = .condition text :: rest) ∨ StartsApart segments := by
  match segments with
  | .condition text :: rest => exact .inl ⟨text, rest, rfl⟩
  | .connective _ :: _ => exact .inr trivial
  | [] => exact .inr trivial

theorem prependWord_of_eq_some {word gap : List Char} {segments : List Segment}
    {connective : Connective}
    (read : Connective.ofString? (String.ofList word) = some connective) :
    prependWord word gap segments = .connective connective :: segments := by
  simp only [prependWord, read]

theorem prependWord_condition {word gap text : List Char} {rest : List Segment}
    (unread : Connective.ofString? (String.ofList word) = none) :
    prependWord word gap (.condition text :: rest) =
      .condition (word ++ gap ++ text) :: rest := by
  simp only [prependWord, unread]

/-- Another word in front of segments that start apart. -/
theorem prependWord_of_startsApart {word gap : List Char} {segments : List Segment}
    (unread : Connective.ofString? (String.ofList word) = none)
    (apart : StartsApart segments) :
    prependWord word gap segments = .condition word :: segments := by
  cases segments with
  | nil => simp only [prependWord, unread]
  | cons segment segments =>
      cases segment with
      | condition text => exact False.elim apart
      | connective connective => simp only [prependWord, unread]

theorem StartsApart.append {segments others : List Segment} (apart : StartsApart segments)
    (othersApart : StartsApart others) : StartsApart (segments ++ others) := by
  cases segments with
  | nil => exact othersApart
  | cons segment segments =>
      cases segment with
      | condition text => exact apart.elim
      | connective connective => exact trivial

theorem StartsApart.of_append {segments others : List Segment}
    (apart : StartsApart (segments ++ others)) : StartsApart segments := by
  cases segments with
  | nil => exact trivial
  | cons segment segments => cases segment <;> exact apart

/-- A word in front of segments does not reach beyond them to others that start
apart. -/
theorem prependWord_append {word gap : List Char} (segments : List Segment)
    {others : List Segment} (apart : StartsApart others) :
    prependWord word gap (segments ++ others) = prependWord word gap segments ++ others := by
  cases read : Connective.ofString? (String.ofList word) with
  | some connective =>
      rw [prependWord_of_eq_some read, prependWord_of_eq_some read, List.cons_append]
  | none =>
      rcases exists_condition_or_startsApart segments with ⟨text, rest, rfl⟩ | segmentsApart
      · rw [List.cons_append, prependWord_condition read, prependWord_condition read,
          List.cons_append]
      · rw [prependWord_of_startsApart read (segmentsApart.append apart),
          prependWord_of_startsApart read segmentsApart, List.cons_append]

theorem ofWords_append {words behind : List Word} (apart : StartsApart (ofWords behind)) :
    ofWords (words ++ behind) = ofWords words ++ ofWords behind := by
  induction words with
  | nil => rfl
  | cons word words ih =>
      rw [List.cons_append, ofWords_cons, ih, prependWord_append _ apart, ofWords_cons]

/-- One more word is a connective, or it extends the condition behind it, or it
is a condition of its own. -/
theorem ofWords_cons_cases (word : Word) (words : List Word) :
    (∃ connective : Connective, word.letters = connective.word.toList ∧
      ofWords (word :: words) = .connective connective :: ofWords words) ∨
    (∀ connective : Connective, word.letters ≠ connective.word.toList) ∧
      ((∃ text rest, ofWords words = .condition text :: rest ∧
        ofWords (word :: words) = .condition (word.letters ++ word.gap ++ text) :: rest) ∨
      StartsApart (ofWords words) ∧
        ofWords (word :: words) = .condition word.letters :: ofWords words) := by
  rw [ofWords_cons]
  cases read : Connective.ofString? (String.ofList word.letters) with
  | some connective =>
      have spelled := Connective.ofString?_eq_some_iff.mp read
      exact .inl ⟨connective, by rw [← spelled, String.toList_ofList],
        prependWord_of_eq_some read⟩
  | none =>
      have plain := Connective.ofString?_ofList_eq_none_iff.mp read
      rcases exists_condition_or_startsApart (ofWords words) with ⟨text, rest, behind⟩ | apart
      · rw [behind]
        exact .inr ⟨plain, .inl ⟨text, rest, rfl, prependWord_condition read⟩⟩
      · exact .inr ⟨plain, .inr ⟨apart, prependWord_of_startsApart read apart⟩⟩

/-- Every word leaves a segment. -/
theorem ofWords_eq_nil_iff {words : List Word} : ofWords words = [] ↔ words = [] := by
  constructor
  · intro formed
    cases words with
    | nil => rfl
    | cons word words =>
        rcases ofWords_cons_cases word words with
          ⟨connective, -, segments_eq⟩ | ⟨-, ⟨text, rest, -, segments_eq⟩ | ⟨-, segments_eq⟩⟩
        all_goals
          rw [segments_eq] at formed
          cases formed
  · rintro rfl
    rfl

theorem ofWords_connective_cons (connective : Connective) (gap : List Char)
    (words : List Word) :
    ofWords (⟨connective.word.toList, gap⟩ :: words) =
      .connective connective :: ofWords words := by
  apply prependWord_of_eq_some
  rw [String.ofList_toList, Connective.ofString?_word]

/-- A run of other words becomes one condition, where no condition follows. -/
theorem ofWords_run_append {run rest : List Word} (nonempty : run ≠ []) (plain : IsPlain run)
    (restApart : StartsApart (ofWords rest)) :
    ofWords (run ++ rest) = .condition (Word.span run) :: ofWords rest := by
  induction run with
  | nil => contradiction
  | cons word run ih =>
      rcases List.forall_mem_cons.mp plain with ⟨wordPlain, runPlain⟩
      have unread := Connective.ofString?_ofList_eq_none_iff.mpr wordPlain
      cases run with
      | nil => exact prependWord_of_startsApart unread restApart
      | cons next run =>
          rw [List.cons_append, ofWords_cons, ih (List.cons_ne_nil next run) runPlain,
            prependWord_condition unread]
          rfl

theorem ofWords_run {run : List Word} (nonempty : run ≠ []) (plain : IsPlain run) :
    ofWords run = [.condition (Word.span run)] := by
  have alone : ofWords (run ++ []) = [.condition (Word.span run)] :=
    ofWords_run_append nonempty plain trivial
  rwa [List.append_nil] at alone

/-- Behind a condition the segments start apart. -/
theorem startsApart_of_ofWords_eq {words : List Word} {text : List Char}
    {segments : List Segment} (formed : ofWords words = .condition text :: segments) :
    StartsApart segments := by
  induction words generalizing text with
  | nil => cases formed
  | cons word words ih =>
      rcases ofWords_cons_cases word words with
        ⟨actual, -, segments_eq⟩ |
          ⟨-, ⟨behind, others, behind_eq, segments_eq⟩ | ⟨apart, segments_eq⟩⟩
      all_goals
        rw [segments_eq] at formed
        cases formed
      · exact ih behind_eq
      · exact apart

/-- A connective among the segments comes from its word. -/
theorem exists_word_of_ofWords_eq {words : List Word} {connective : Connective}
    {segments : List Segment} (formed : ofWords words = .connective connective :: segments) :
    ∃ gap rest, words = ⟨connective.word.toList, gap⟩ :: rest ∧ ofWords rest = segments := by
  cases words with
  | nil => cases formed
  | cons word words =>
      rcases ofWords_cons_cases word words with
        ⟨actual, letters_eq, segments_eq⟩ | ⟨-, ⟨text, rest, -, segments_eq⟩ | ⟨-, segments_eq⟩⟩
      · rw [segments_eq] at formed
        cases formed
        exact ⟨word.gap, words, by rw [← letters_eq], rfl⟩
      all_goals
        rw [segments_eq] at formed
        cases formed

/-- A condition among the segments comes from a run of words. -/
theorem exists_run_of_ofWords_eq {words : List Word} {text : List Char}
    {segments : List Segment} (formed : ofWords words = .condition text :: segments) :
    ∃ run rest, words = run ++ rest ∧ run ≠ [] ∧ IsPlain run ∧ Word.span run = text ∧
      ofWords rest = segments := by
  induction words generalizing text with
  | nil => cases formed
  | cons word words ih =>
      rcases ofWords_cons_cases word words with
        ⟨actual, -, segments_eq⟩ |
          ⟨wordPlain, ⟨behind, others, behind_eq, segments_eq⟩ | ⟨-, segments_eq⟩⟩
      all_goals
        rw [segments_eq] at formed
        cases formed
      · rcases ih behind_eq with ⟨run, rest, rfl, nonempty, runPlain, span_eq, rest_eq⟩
        exact ⟨word :: run, rest, rfl, List.cons_ne_nil word run,
          List.forall_mem_cons.mpr ⟨wordPlain, runPlain⟩,
          by rw [Word.span_cons word nonempty, span_eq], rest_eq⟩
      · have plain : IsPlain [word] := List.forall_mem_singleton.mpr wordPlain
        exact ⟨[word], words, rfl, List.cons_ne_nil word [], plain, rfl, rfl⟩

end Segment

end Eligibility
