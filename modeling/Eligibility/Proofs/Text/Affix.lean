import Eligibility.Proofs.Text.Word

/-!
# Affixes of words

Letters may be written in front of words or behind them.  Without blank text
between, they become part of the first or of the last word, so the words of a
text can be put together piece by piece as the text is.
-/

namespace Eligibility.Text

namespace Word

/-- Words with letters and a gap in front of them.  Without a gap, the letters
become the first ones of the first word. -/
def attach (letters gap : List Char) : List Word → List Word
  | [] => [⟨letters, gap⟩]
  | word :: words =>
      if gap = [] then ⟨letters ++ word.letters, word.gap⟩ :: words
      else ⟨letters, gap⟩ :: word :: words

/-- Words with letters behind them, as the last ones of the last word, and with
another gap at the end. -/
def finish (letters gap : List Char) : List Word → List Word
  | [] => []
  | [word] => [⟨word.letters ++ letters, gap⟩]
  | word :: next :: words => word :: finish letters gap (next :: words)

variable {letters gap : List Char} {words : List Word}

/-! ## Letters in front -/

/-- Attached letters are part of the first word, or they are a word in front of
all others. -/
theorem attach_cases (letters gap : List Char) (words : List Word) :
    (gap = [] ∧ ∃ word rest, words = word :: rest ∧
      attach letters gap words = ⟨letters ++ word.letters, word.gap⟩ :: rest) ∨
    (words ≠ [] → gap ≠ []) ∧ attach letters gap words = ⟨letters, gap⟩ :: words := by
  cases words with
  | nil => exact .inr ⟨fun more => absurd rfl more, rfl⟩
  | cons word rest =>
      by_cases joined : gap = []
      · exact .inl ⟨joined, word, rest, rfl, if_pos joined⟩
      · exact .inr ⟨fun _ => joined, if_neg joined⟩

theorem attach_ne_nil : attach letters gap words ≠ [] := by
  rcases attach_cases letters gap words with ⟨-, word, rest, -, attached⟩ | ⟨-, attached⟩
  all_goals
    rw [attached]
    exact List.cons_ne_nil _ _

theorem attach_of_gap_ne_nil (separate : gap ≠ []) :
    attach letters gap words = ⟨letters, gap⟩ :: words := by
  cases words with
  | nil => rfl
  | cons word words => exact if_neg separate

/-- Letters that are attached without a gap to other ones are attached together
with them. -/
theorem attach_attach {others : List Char} :
    attach letters [] (attach others gap words) = attach (letters ++ others) gap words := by
  rcases attach_cases others gap words with ⟨rfl, word, rest, rfl, attached⟩ | ⟨separated, attached⟩
  · rw [attached]
    simp [attach]
  · rw [attached]
    cases words with
    | nil => rfl
    | cons word words => simp [attach, separated]

theorem attach_append (nonempty : words ≠ []) (behind : List Word) :
    attach letters gap (words ++ behind) = attach letters gap words ++ behind := by
  cases words with
  | nil => contradiction
  | cons word words =>
      rw [List.cons_append, attach, attach]
      split <;> rfl

theorem span_attach (nonempty : words ≠ []) :
    span (attach letters gap words) = letters ++ gap ++ span words := by
  rcases attach_cases letters gap words with ⟨rfl, word, rest, rfl, attached⟩ | ⟨-, attached⟩
  · rw [attached, List.append_nil]
    cases rest with
    | nil => rfl
    | cons next rest => simp only [span, List.append_assoc]
  · rw [attached, span_cons _ nonempty]

theorem written_attach :
    written (attach letters gap words) = letters ++ gap ++ written words := by
  rcases attach_cases letters gap words with ⟨rfl, word, rest, rfl, attached⟩ | ⟨-, attached⟩
  · rw [attached]
    simp
  · rw [attached]
    simp

theorem apart_attach (isWord : IsWord letters) (blank : IsGap gap) (apart : Apart words) :
    Apart (attach letters gap words) := by
  rcases attach_cases letters gap words with ⟨-, word, rest, rfl, attached⟩ | ⟨separated, attached⟩
  · rcases apart_cons.mp apart with ⟨⟨-, lettersBehind⟩, restApart⟩
    have longer : IsWord (letters ++ word.letters) :=
      ⟨List.append_ne_nil_of_left_ne_nil isWord.1 _,
        List.forall_mem_append.mpr ⟨isWord.2, lettersBehind⟩⟩
    rw [attached]
    exact apart_cons.mpr ⟨longer, restApart⟩
  · rw [attached]
    exact apart_cons.mpr ⟨isWord, blank, separated, apart⟩

/-! ## Letters behind -/

theorem finish_ne_nil (nonempty : words ≠ []) : finish letters gap words ≠ [] := by
  match words with
  | [_] => exact List.cons_ne_nil _ _
  | _ :: _ :: _ => exact List.cons_ne_nil _ _

theorem span_finish (nonempty : words ≠ []) :
    span (finish letters gap words) = span words ++ letters := by
  induction words using finish.induct with
  | case1 => contradiction
  | case2 word => rfl
  | case3 word next words ih =>
      rw [finish, span_cons _ (finish_ne_nil (List.cons_ne_nil next words)),
        ih (List.cons_ne_nil next words), span_cons _ (List.cons_ne_nil next words)]
      simp only [List.append_assoc]

theorem written_finish (nonempty : words ≠ []) :
    written (finish letters gap words) = span words ++ letters ++ gap := by
  induction words using finish.induct with
  | case1 => contradiction
  | case2 word => simp [finish]
  | case3 word next words ih =>
      rw [finish, written_cons, ih (List.cons_ne_nil next words),
        span_cons _ (List.cons_ne_nil next words)]
      simp only [List.append_assoc]

/-- Words that are finished stand apart from the words behind their new gap. -/
theorem apart_finish_append {behind : List Word} (apart : Apart words)
    (lettersOnly : ∀ c ∈ letters, isBlank c = false) (blank : IsGap gap)
    (separated : behind ≠ [] → gap ≠ []) (behindApart : Apart behind) :
    Apart (finish letters gap words ++ behind) := by
  induction words using finish.induct with
  | case1 => exact behindApart
  | case2 word =>
      rcases apart_cons.mp apart with ⟨⟨nonempty, lettersBefore⟩, -⟩
      have longer : IsWord (word.letters ++ letters) :=
        ⟨List.append_ne_nil_of_left_ne_nil nonempty _,
          List.forall_mem_append.mpr ⟨lettersBefore, lettersOnly⟩⟩
      exact apart_cons.mpr ⟨longer, blank, separated, behindApart⟩
  | case3 word next words ih =>
      rcases apart_cons.mp apart with ⟨isWord, gapBlank, wordSeparated, restApart⟩
      have stillSeparated : finish letters gap (next :: words) ++ behind ≠ [] → word.gap ≠ [] :=
        fun _ => wordSeparated (List.cons_ne_nil next words)
      exact apart_cons.mpr ⟨isWord, gapBlank, stillSeparated, ih restApart⟩

theorem exists_finish_eq_dropLast_append (nonempty : words ≠ []) :
    ∃ front, finish letters gap words = words.dropLast ++ [⟨front ++ letters, gap⟩] := by
  induction words using finish.induct with
  | case1 => contradiction
  | case2 word => exact ⟨word.letters, rfl⟩
  | case3 word next words ih =>
      rcases ih (List.cons_ne_nil next words) with ⟨front, finished⟩
      exact ⟨front, by rw [finish, finished, List.dropLast_cons_cons, List.cons_append]⟩

/-! ## The span of a text -/

/-- The words of a text end with a letter and perhaps a gap. -/
theorem exists_written_eq_span_append (apart : Apart words) :
    ∃ gap, IsGap gap ∧ written words = span words ++ gap := by
  induction words with
  | nil => exact ⟨[], isGap_nil, rfl⟩
  | cons word words ih =>
      rcases apart with ⟨-, gapBlank, -, restApart⟩
      by_cases more : words = []
      · subst more
        exact ⟨word.gap, gapBlank, by simp⟩
      · rcases ih restApart with ⟨gap, blank, written_eq⟩
        refine ⟨gap, blank, ?_⟩
        rw [written_cons, written_eq, span_cons word more]
        simp only [List.append_assoc]

/-- The span of words ends with one of them. -/
theorem exists_span_eq_append_letters (nonempty : words ≠ []) :
    ∃ front, ∃ word ∈ words, span words = front ++ word.letters := by
  induction words using span.induct with
  | case1 => contradiction
  | case2 word => exact ⟨[], word, List.mem_cons_self, rfl⟩
  | case3 word next words ih =>
      rcases ih (List.cons_ne_nil next words) with ⟨front, last, member, span_eq⟩
      refine ⟨word.letters ++ word.gap ++ front, last, List.mem_cons_of_mem word member, ?_⟩
      rw [span_cons word (List.cons_ne_nil next words), span_eq]
      simp only [List.append_assoc]

/-- Words that stand apart are apart from those behind them and without them. -/
theorem Apart.of_append {behind : List Word} (apart : Apart (words ++ behind)) :
    Apart words ∧ Apart behind := by
  induction words with
  | nil => exact ⟨apart_nil, apart⟩
  | cons word words ih =>
      rcases apart_cons.mp apart with ⟨isWord, gapBlank, separated, restApart⟩
      rcases ih restApart with ⟨wordsApart, behindApart⟩
      have stillSeparated : words ≠ [] → word.gap ≠ [] := fun more =>
        separated (List.append_ne_nil_of_left_ne_nil more behind)
      exact ⟨apart_cons.mpr ⟨isWord, gapBlank, stillSeparated, wordsApart⟩, behindApart⟩

theorem Apart.isWord {word : Word} (apart : Apart words) (member : word ∈ words) :
    IsWord word.letters := by
  induction words with
  | nil => cases member
  | cons first words ih =>
      rcases apart_cons.mp apart with ⟨isWord, -, -, restApart⟩
      rcases List.mem_cons.mp member with rfl | member
      · exact isWord
      · exact ih restApart member

/-- The span of words starts and ends with letters, so it is trimmed. -/
theorem trim_span (apart : Apart words) : trim (span words) = span words := by
  by_cases nonempty : words = []
  · subst nonempty
    rfl
  · apply trim_eq_self
    · intro c first
      rcases exists_written_eq_span_append apart with ⟨gap, -, written_eq⟩
      apply isBlank_of_mem_head?_written apart
      rw [written_eq, List.head?_append_of_ne_nil]
      · exact first
      · rintro empty
        rw [empty] at first
        cases first
    · intro c last
      rcases exists_span_eq_append_letters nonempty with ⟨front, word, member, span_eq⟩
      have isWord := apart.isWord member
      rw [span_eq, List.getLast?_append_of_ne_nil _ isWord.1] at last
      exact isWord.2 c (List.mem_of_mem_getLast? last)

end Word

/-- A text is trimmed to the span of its words. -/
theorem Wording.span_words {text : List Char} (wording : Wording text) :
    Word.span wording.words = trim text := by
  rcases Word.exists_written_eq_span_append wording.apart with ⟨gap, blank, written_eq⟩
  calc
    Word.span wording.words = trim (Word.span wording.words) := (Word.trim_span wording.apart).symm
    _ = trim (Word.written wording.words) := by rw [written_eq, trim_append_gap blank]
    _ = trim (wording.lead ++ Word.written wording.words) :=
        (trim_gap_append wording.lead_isGap _).symm
    _ = trim text := by rw [← wording.text_eq]

theorem exists_gaps_around_trim (text : List Char) :
    ∃ lead trail, IsGap lead ∧ IsGap trail ∧ text = lead ++ trim text ++ trail := by
  obtain ⟨wording⟩ := nonempty_wording text
  obtain ⟨gap, blank, written_eq⟩ := Word.exists_written_eq_span_append wording.apart
  refine ⟨wording.lead, gap, wording.lead_isGap, blank, ?_⟩
  rw [← wording.span_words, List.append_assoc, ← written_eq]
  exact wording.text_eq

@[simp]
theorem trim_trim (text : List Char) : trim (trim text) = trim text := by
  rcases nonempty_wording text with ⟨wording⟩
  rw [← wording.span_words, Word.trim_span wording.apart]

end Eligibility.Text
