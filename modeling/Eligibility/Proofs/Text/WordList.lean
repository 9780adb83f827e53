import Eligibility.Proofs.Text.Affix

/-!
# The list of words

The words of a text are also what is left when the text is cut at every blank
character.  A blank character keeps the words on its two sides apart, and everything
about the list of words follows from that.  In particular, a part of a text shares
all its words with the whole text, except for the first and the last one, which may
go on outside of the part.
-/

namespace Eligibility.Text

/-- The words of a text, in text order. -/
def words (text : List Char) : List (List Char) :=
  (text.splitOnP isBlank).filter (· ≠ [])

@[simp]
theorem words_nil : words [] = [] :=
  rfl

theorem words_append_cons {c : Char} (blank : isBlank c = true) (front back : List Char) :
    words (front ++ c :: back) = words front ++ words back := by
  rw [words, List.splitOnP_append_cons front back blank, List.filter_append, words, words]

theorem words_of_isWord {letters : List Char} (isWord : IsWord letters) :
    words letters = [letters] := by
  rw [words, List.splitOnP_eq_singleton isWord.2]
  simp [isWord.1]

/-- A gap that is not empty keeps the words on its two sides apart. -/
theorem words_append_gap_append {gap : List Char} (blank : IsGap gap) (nonempty : gap ≠ [])
    (front back : List Char) : words (front ++ gap ++ back) = words front ++ words back := by
  induction gap generalizing front with
  | nil => contradiction
  | cons c gap ih =>
      obtain ⟨cBlank, gapBlank⟩ := isGap_cons.mp blank
      rw [List.append_assoc, List.cons_append, words_append_cons cBlank]
      by_cases more : gap = []
      · rw [more, List.nil_append]
      · have behind := ih gapBlank more []
        rw [List.nil_append, words_nil, List.nil_append] at behind
        rw [behind]

/-- The words between the first and the last letter of words are those words. -/
theorem words_span {run : List Word} (apart : Word.Apart run) :
    words (Word.span run) = run.map Word.letters := by
  induction run using Word.span.induct with
  | case1 => rfl
  | case2 word => exact words_of_isWord apart.1
  | case3 word next run ih =>
      obtain ⟨isWord, blank, separated, restApart⟩ := Word.apart_cons.mp apart
      rw [Word.span, words_append_gap_append blank (separated (List.cons_ne_nil next run)),
        words_of_isWord isWord, ih restApart]
      rfl

/-- The words that make up a text, with the gaps after them, are its words. -/
theorem words_written {run : List Word} (apart : Word.Apart run) :
    words (Word.written run) = run.map Word.letters := by
  induction run with
  | nil => rfl
  | cons word run ih =>
      obtain ⟨isWord, blank, -, restApart⟩ := Word.apart_cons.mp apart
      rw [Word.written_cons, List.map_cons]
      by_cases closed : word.gap = []
      · rw [closed, apart.eq_nil_of_gap_eq_nil closed, Word.written_nil, List.append_nil,
          List.append_nil, words_of_isWord isWord, List.map_nil]
      · rw [← List.append_assoc, words_append_gap_append blank closed, words_of_isWord isWord,
          ih restApart, List.singleton_append]

/-- However a text is cut into words, these are its words. -/
theorem Wording.words_text {text : List Char} (wording : Wording text) :
    Text.words text = wording.words.map Word.letters := by
  obtain ⟨lead, run, blank, apart, rfl⟩ := wording
  have written := words_written apart
  change Text.words (lead ++ Word.written run) = run.map Word.letters
  by_cases empty : lead = []
  · rw [empty, List.nil_append, written]
  · have cut := words_append_gap_append blank empty [] (Word.written run)
    rwa [List.nil_append, words_nil, List.nil_append, written] at cut

/-! ## Words of a part of a text -/

/-- A text has no blank character, or letters come behind its last one. -/
theorem forall_letter_or_exists_last_blank (text : List Char) :
    (∀ c ∈ text, isBlank c = false) ∨
      ∃ front c letters, text = front ++ c :: letters ∧ isBlank c = true ∧
        ∀ d ∈ letters, isBlank d = false := by
  induction text with
  | nil => exact .inl (List.forall_mem_nil _)
  | cons c text ih =>
      obtain unblank | ⟨front, d, letters, rfl, blank, unblank⟩ := ih
      · by_cases blank : isBlank c = true
        · exact .inr ⟨[], c, text, rfl, blank, unblank⟩
        · exact .inl (List.forall_mem_cons.mpr ⟨Bool.eq_false_iff.mpr blank, unblank⟩)
      · exact .inr ⟨c :: front, d, letters, rfl, blank, unblank⟩

/-- A text has no blank character, or letters come before its first one. -/
theorem forall_letter_or_exists_first_blank (text : List Char) :
    (∀ c ∈ text, isBlank c = false) ∨
      ∃ letters c back, text = letters ++ c :: back ∧ isBlank c = true ∧
        ∀ d ∈ letters, isBlank d = false := by
  obtain unblank | ⟨front, c, letters, reversed, blank, unblank⟩ :=
    forall_letter_or_exists_last_blank text.reverse
  · exact .inl fun c member => unblank c (List.mem_reverse.mpr member)
  · apply Or.inr
    refine ⟨letters.reverse, c, front.reverse, ?_, blank, ?_⟩
    · rw [← List.reverse_reverse text, reversed]
      simp
    · exact fun d member => unblank d (List.mem_reverse.mp member)

theorem words_eq_nil_or_singleton {letters : List Char}
    (unblank : ∀ c ∈ letters, isBlank c = false) :
    words letters = [] ∨ words letters = [letters] := by
  by_cases empty : letters = []
  · exact .inl (by rw [empty, words_nil])
  · exact .inr (words_of_isWord ⟨empty, unblank⟩)

/-- All words of a text but the first one stay if something is written in front. -/
theorem tail_words_isSuffix (front body : List Char) :
    (words body).tail <:+ words (front ++ body) := by
  obtain unblank | ⟨letters, c, back, rfl, blank, unblank⟩ :=
    forall_letter_or_exists_first_blank body
  · obtain none | single := words_eq_nil_or_singleton unblank
    · rw [none]
      exact List.nil_suffix
    · rw [single]
      exact List.nil_suffix
  · rw [← List.append_assoc, words_append_cons blank, words_append_cons blank]
    apply List.IsSuffix.trans _ (List.suffix_append _ _)
    obtain none | single := words_eq_nil_or_singleton unblank
    · rw [none]
      exact List.tail_suffix _
    · rw [single]
      exact List.suffix_rfl

/-- All words of a text but the last one stay if something is written behind. -/
theorem dropLast_words_isPrefix (body back : List Char) :
    (words body).dropLast <+: words (body ++ back) := by
  obtain unblank | ⟨front, c, letters, rfl, blank, unblank⟩ :=
    forall_letter_or_exists_last_blank body
  · obtain none | single := words_eq_nil_or_singleton unblank
    · rw [none]
      exact List.nil_prefix
    · rw [single]
      exact List.nil_prefix
  · rw [List.append_assoc, List.cons_append, words_append_cons blank, words_append_cons blank]
    apply List.IsPrefix.trans _ (List.prefix_append _ _)
    obtain none | single := words_eq_nil_or_singleton unblank
    · rw [none, List.append_nil]
      exact List.dropLast_prefix _
    · simp [single]

/-- The words of a part of a text, except for the first and the last one, are words
of the whole text. -/
theorem mem_words_of_mem_inner {front body back letters : List Char}
    (inner : letters ∈ (words body).tail.dropLast) : letters ∈ words (front ++ body ++ back) := by
  rw [← List.tail_dropLast] at inner
  have inTail : letters ∈ (words (body ++ back)).tail :=
    (dropLast_words_isPrefix body back).sublist.tail.subset inner
  rw [List.append_assoc]
  exact (tail_words_isSuffix front (body ++ back)).subset inTail

end Eligibility.Text
