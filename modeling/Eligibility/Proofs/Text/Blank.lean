import Eligibility.Text.Blank
import Eligibility.Text.FieldChar
import Mathlib.Data.List.Basic
import Mathlib.Data.List.TakeWhile

/-!
# Blank text

Gaps are texts of blank characters only.  Trimming takes the gaps off the two
ends of a text, so a trimmed text ends with a character that is not blank.  No
blank character is a field character.
-/

namespace Eligibility.Text

/-- A text of blank characters only. -/
def IsGap (text : List Char) : Prop :=
  ∀ c ∈ text, isBlank c = true

/-- A text that has a character, but no blank one. -/
def IsWord (text : List Char) : Prop :=
  text ≠ [] ∧ ∀ c ∈ text, isBlank c = false

/-- The characters of the text are tried, not all characters there are. -/
instance (text : List Char) : Decidable (IsGap text) :=
  List.decidableBAll (fun c => isBlank c = true) text

instance (text : List Char) : Decidable (IsWord text) :=
  have := List.decidableBAll (fun c => isBlank c = false) text
  instDecidableAnd

@[simp]
theorem isGap_nil : IsGap [] := by
  simp [IsGap]

theorem isGap_cons {c : Char} {text : List Char} :
    IsGap (c :: text) ↔ isBlank c = true ∧ IsGap text := by
  simp [IsGap]

theorem isGap_append {text others : List Char} :
    IsGap (text ++ others) ↔ IsGap text ∧ IsGap others := by
  simp only [IsGap, List.mem_append]
  constructor
  · intro blank
    exact ⟨fun c member => blank c (.inl member), fun c member => blank c (.inr member)⟩
  · rintro ⟨textBlank, othersBlank⟩ c (member | member)
    · exact textBlank c member
    · exact othersBlank c member

/-! ## Trimming -/

theorem trimStart_gap_append {gap : List Char} (blank : IsGap gap) (text : List Char) :
    trimStart (gap ++ text) = trimStart text :=
  List.dropWhile_append_of_pos blank

theorem trimStart_cons_of_isBlank_eq_false {c : Char} (letter : isBlank c = false)
    (text : List Char) : trimStart (c :: text) = c :: text := by
  apply List.dropWhile_cons_of_neg
  simp [letter]

theorem exists_gap_append_trimStart (text : List Char) :
    ∃ gap, IsGap gap ∧ text = gap ++ trimStart text := by
  refine ⟨text.takeWhile isBlank, ?_, List.takeWhile_append_dropWhile.symm⟩
  intro c member
  exact List.mem_takeWhile_imp member

/-- A text is blank, or a gap comes before its first character that is not. -/
theorem isGap_or_exists_letter (text : List Char) :
    IsGap text ∨ ∃ gap letter rest, IsGap gap ∧ isBlank letter = false ∧
      text = gap ++ letter :: rest := by
  rcases exists_gap_append_trimStart text with ⟨gap, gapBlank, text_eq⟩
  have first := List.head?_dropWhile_not isBlank text
  rw [← trimStart] at first
  cases trimmed : trimStart text with
  | nil =>
      rw [trimmed, List.append_nil] at text_eq
      exact .inl (text_eq ▸ gapBlank)
  | cons letter rest =>
      rw [trimmed] at first text_eq
      exact .inr ⟨gap, letter, rest, gapBlank, first, text_eq⟩

theorem trim_gap_append {gap : List Char} (blank : IsGap gap) (text : List Char) :
    trim (gap ++ text) = trim text := by
  rw [trim, trimStart_gap_append blank, trim]

@[simp]
theorem trim_of_isGap {gap : List Char} (blank : IsGap gap) : trim gap = [] := by
  have whole := trim_gap_append blank []
  rwa [List.append_nil, trim_nil] at whole

theorem isBlank_of_mem_getLast?_trim {text : List Char} {c : Char}
    (last : c ∈ (trim text).getLast?) : isBlank c = false := by
  rw [trim, trimEnd, List.getLast?_reverse] at last
  have first := List.head?_dropWhile_not isBlank (trimStart text).reverse
  rwa [last] at first

theorem trimEnd_append_gap {gap : List Char} (blank : IsGap gap) (text : List Char) :
    trimEnd (text ++ gap) = trimEnd text := by
  have reversed : ∀ c ∈ gap.reverse, isBlank c = true := by simpa [IsGap] using blank
  rw [trimEnd, List.reverse_append, List.dropWhile_append_of_pos reversed, trimEnd]

theorem trim_append_gap {gap : List Char} (blank : IsGap gap) (text : List Char) :
    trim (text ++ gap) = trim text := by
  rcases isGap_or_exists_letter text with textBlank | ⟨lead, c, rest, leadBlank, letter, rfl⟩
  · rw [trim_of_isGap textBlank, trim_of_isGap (isGap_append.mpr ⟨textBlank, blank⟩)]
  · rw [List.append_assoc, trim_gap_append leadBlank, trim_gap_append leadBlank, List.cons_append,
      trim, trimStart_cons_of_isBlank_eq_false letter, trim,
      trimStart_cons_of_isBlank_eq_false letter, ← List.cons_append, trimEnd_append_gap blank]

/-- A text that starts and ends with characters that are not blank is trimmed. -/
theorem trim_eq_self {text : List Char} (first : ∀ c ∈ text.head?, isBlank c = false)
    (last : ∀ c ∈ text.getLast?, isBlank c = false) : trim text = text := by
  have startKept : trimStart text = text := by
    cases text with
    | nil => rfl
    | cons c text => exact trimStart_cons_of_isBlank_eq_false (first c rfl) text
  rw [trim, startKept, trimEnd]
  rcases List.eq_nil_or_concat' text with rfl | ⟨front, c, rfl⟩
  · rfl
  · have endKept := trimStart_cons_of_isBlank_eq_false (last c (by simp)) front.reverse
    rw [trimStart] at endKept
    rw [List.reverse_append, List.reverse_singleton, List.singleton_append, endKept,
      List.reverse_cons, List.reverse_reverse]

/-! ## Field characters -/

/-- The code points of the blank characters. -/
def blankCodes : List Nat :=
  [0x9, 0xA, 0xB, 0xC, 0xD, 0x20, 0x85, 0xA0, 0x1680, 0x2000, 0x2001, 0x2002, 0x2003, 0x2004,
    0x2005, 0x2006, 0x2007, 0x2008, 0x2009, 0x200A, 0x2028, 0x2029, 0x202F, 0x205F, 0x3000]

theorem isBlank_iff_mem_blankCodes {c : Char} :
    isBlank c = true ↔ c.toNat ∈ blankCodes := by
  simp only [isBlank, blankCodes, Bool.or_eq_true, Bool.and_eq_true, decide_eq_true_eq,
    beq_iff_eq, List.mem_cons, List.not_mem_nil, or_false]
  omega

theorem isFieldChar_of_isBlank {c : Char} (blank : isBlank c = true) :
    isFieldChar c = false := by
  have outside : ∀ code ∈ blankCodes,
      (fieldRanges.any fun range => range.1 ≤ code && code ≤ range.2) = false := by
    decide +kernel
  exact outside c.toNat (isBlank_iff_mem_blankCodes.mp blank)

theorem isBlank_of_isFieldChar {c : Char} (fieldChar : isFieldChar c = true) :
    isBlank c = false := by
  apply Bool.eq_false_iff.mpr
  intro blank
  rw [isFieldChar_of_isBlank blank] at fieldChar
  contradiction

theorem le_toNat_of_isFieldChar {c : Char} (fieldChar : isFieldChar c = true) :
    0x30 ≤ c.toNat := by
  have lower : ∀ range ∈ fieldRanges, 0x30 ≤ range.1 := by decide +kernel
  rcases List.any_eq_true.mp fieldChar with ⟨range, member, inside⟩
  simp only [Bool.and_eq_true, decide_eq_true_eq] at inside
  exact Nat.le_trans (lower range member) inside.1

end Eligibility.Text
