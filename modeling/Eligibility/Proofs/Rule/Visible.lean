import Eligibility.Proofs.Failure
import Eligibility.Proofs.Rule.Alike
import Eligibility.Proofs.Rule.NumberOrder

/-!
# What a rule sees of a record

A rule sees the fields that it names, and nothing else of a record.  In a field it
sees whether there is a string or a number, the text of the string, and the value of
the double nearest to the number.  It cannot be said to see less: as every double has
a literal, any other difference of two fields shows in the result of a condition.
-/

namespace Eligibility

open Json.Value

/-! ## What conditions see -/

namespace Condition

variable {first second record : Record} {field : String}

theorem check_of_string {text : String} (found : record.get? field = some (.string text))
    (comparator : Comparator) (literal : String) :
    check ⟨field, comparator, literal⟩ record = checkText ⟨field, comparator, literal⟩ text := by
  rw [check]
  dsimp only
  rw [found]

/-- A field to be greater than an empty literal is an error, and another one for
each kind of field. -/
theorem check_greater_empty (record : Record) (field : String) :
    (check ⟨field, .greater, ""⟩ record = .error (.unsupportedOperator ">" field) ↔
      ∃ text, record.get? field = some (.string text)) ∧
    (check ⟨field, .greater, ""⟩ record = .error (.invalidLiteral "") ↔
      ∃ number, record.get? field = some (.number number)) ∧
    (check ⟨field, .greater, ""⟩ record = .error (.unsupportedFieldType field) ↔
      IsIncomparable (record.get? field)) := by
  have unread : Literal.value? [] = none := rfl
  rw [check]
  dsimp only
  cases record.get? field with
  | none => simp [IsIncomparable]
  | some value =>
      cases value <;> simp [IsIncomparable, checkText, checkNumber, unread, Comparator.symbol]

/-- Two fields with strings are alike if both are equal to the text of the first one. -/
theorem alike_of_strings {text other : String} (firstFound : first.get? field = some (.string text))
    (secondFound : second.get? field = some (.string other))
    (same : check ⟨field, .equal, text⟩ first = check ⟨field, .equal, text⟩ second) :
    Alike (first.get? field) (second.get? field) := by
  rw [check_of_string firstFound, check_of_string secondFound] at same
  have text_eq : other = text := by simpa [checkText] using same
  rw [firstFound, secondFound, text_eq]
  exact .string text

/-- Two fields with numbers are alike if they are equal to the same literals, one of
which stands for the double of the first number. -/
theorem alike_of_numbers {number other : Json.Number}
    (firstFound : first.get? field = some (.number number))
    (secondFound : second.get? field = some (.number other))
    (same : ∀ literal, check ⟨field, .equal, literal⟩ first =
      check ⟨field, .equal, literal⟩ second) :
    Alike (first.get? field) (second.get? field) := by
  rcases number.toDouble.exists_literal with ⟨literal, expected, read, units_eq⟩
  have verdicts := same literal
  rw [check_of_number firstFound, check_of_number secondFound, read] at verdicts
  have equal : Comparator.equal.accepts (other.toDouble.order expected) = true := by
    rw [← Except.ok.inj verdicts, Double.order, Comparator.accepts_compare_iff]
    exact units_eq.symm
  rw [Double.order, Comparator.accepts_compare_iff] at equal
  rw [firstFound, secondFound]
  exact .number (units_eq.symm.trans equal.symm)

/-- Fields are alike exactly if no condition on them gives different results. -/
theorem alike_iff_forall_check_eq :
    Alike (first.get? field) (second.get? field) ↔
      ∀ comparator literal, check ⟨field, comparator, literal⟩ first =
        check ⟨field, comparator, literal⟩ second := by
  constructor
  · intro alike comparator literal
    exact check_eq_of_alike alike
  · intro same
    have sameKind := same .greater ""
    rcases check_greater_empty first field with ⟨firstString, firstNumber, firstNeither⟩
    rcases check_greater_empty second field with ⟨secondString, secondNumber, secondNeither⟩
    rw [← sameKind] at secondString secondNumber secondNeither
    rcases kind_cases (first.get? field) with ⟨text, found⟩ | ⟨number, found⟩ | neither
    · rcases secondString.mp (firstString.mpr ⟨text, found⟩) with ⟨other, secondFound⟩
      exact alike_of_strings found secondFound (same .equal text)
    · rcases secondNumber.mp (firstNumber.mpr ⟨number, found⟩) with ⟨other, secondFound⟩
      exact alike_of_numbers found secondFound (same .equal)
    · exact .incomparable neither (secondNeither.mp (firstNeither.mpr neither))

end Condition

/-! ## What rules see -/

namespace Rule

/-- A field that a rule does not name can be put and replaced without it. -/
theorem evaluate_put_of_not_mentions {rule : Rule} {field : String}
    (unnamed : ¬ rule.Mentions field) (record : Record) (value : Json.Value) :
    rule.evaluate (record.put field value) = rule.evaluate record := by
  apply evaluate_eq_of_alike
  intro other named
  have different : other ≠ field := by
    rintro rfl
    exact unnamed named
  rw [Table.get?_put, if_neg different]
  exact .refl _

/-- The result of a rule, be it a verdict or an error, depends only on what its
conditions see in the fields that they name, which is the text of a string, the value
of the double nearest to a number, or that there is neither.  Fields are alike in this
exactly if no condition tells them apart.  A field that the rule does not name can be
put and replaced without it. -/
theorem evaluate_sees_only_mentioned_fields (rule : Rule) :
    (∀ first second : Record,
      (∀ field, rule.Mentions field → Alike (first.get? field) (second.get? field)) →
      rule.evaluate first = rule.evaluate second) ∧
    (∀ (first second : Record) (field : String),
      Alike (first.get? field) (second.get? field) ↔
        ∀ comparator literal, Condition.check ⟨field, comparator, literal⟩ first =
          Condition.check ⟨field, comparator, literal⟩ second) ∧
    ∀ (record : Record) (field : String) (value : Json.Value), ¬ rule.Mentions field →
      rule.evaluate (record.put field value) = rule.evaluate record :=
  ⟨fun _ _ alike => evaluate_eq_of_alike alike,
    fun _ _ _ => Condition.alike_iff_forall_check_eq,
    fun record _ value unnamed => evaluate_put_of_not_mentions unnamed record value⟩

/-- A whole number is like the double of its value and zero is like minus zero, and a
field with null is like a missing one. -/
theorem evaluate_sees_only_mentioned_fields_of_like_numbers :
    let rule : Rule := .join "AND" (.leaf "age = 35") (.join "XOR" (.leaf "debt < 1")
      (.leaf "bonus > 10"))
    let first : Record := Table.ofPairs [("age", .number (.integer ⟨35, by decide, by decide⟩)),
      ("debt", .number (.double (.zero true))), ("bonus", .null)]
    let second : Record := Table.ofPairs [("debt", .number (.integer ⟨0, by decide, by decide⟩)),
      ("age", .number (.double ⟨false, 0x4041800000000000, by decide⟩))]
    rule.evaluate first = rule.evaluate second ∧
      rule.evaluate (first.put "name" (.string "Ann")) = rule.evaluate first := by
  intro rule first second
  have age : Condition.parse "age = 35" = .ok ⟨"age", .equal, "35"⟩ :=
    toOption_eq_some_iff.mp (by decide +kernel)
  have debt : Condition.parse "debt < 1" = .ok ⟨"debt", .less, "1"⟩ :=
    toOption_eq_some_iff.mp (by decide +kernel)
  have bonus : Condition.parse "bonus > 10" = .ok ⟨"bonus", .greater, "10"⟩ :=
    toOption_eq_some_iff.mp (by decide +kernel)
  have named {field : String} (mentioned : rule.Mentions field) :
      field = "age" ∨ field = "debt" ∨ field = "bonus" := by
    rcases mentioned with ⟨_, parsed, rfl⟩ | ⟨_, parsed, rfl⟩ | ⟨_, parsed, rfl⟩
    · cases age.symm.trans parsed
      exact .inl rfl
    · cases debt.symm.trans parsed
      exact .inr (.inl rfl)
    · cases bonus.symm.trans parsed
      exact .inr (.inr rfl)
  constructor
  · apply (evaluate_sees_only_mentioned_fields rule).1
    intro field mentioned
    rw [Record.get?_ofPairs, Record.get?_ofPairs]
    rcases named mentioned with rfl | rfl | rfl
    · exact .number (by decide +kernel)
    · exact .number (by decide +kernel)
    · exact .incomparable trivial trivial
  · apply (evaluate_sees_only_mentioned_fields rule).2.2
    intro mentioned
    have other := named mentioned
    revert other
    decide

end Rule

end Eligibility
