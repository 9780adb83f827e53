import Eligibility.Proofs.Rule.Evaluate
import Eligibility.Proofs.Rule.Reading

/-!
# Judging a rule text in one pass

The verdict of a rule text needs no tree.  The conditions are judged in text
order, and the verdict so far is joined with that of the next condition by the
connective between them.  A condition that fails decides the result, and the
first one that fails decides the error.
-/

namespace Eligibility

namespace Connective

/-- Joins the verdict so far with the verdict of one more condition: AND asks for both
of them, OR for either.  An error so far stays, and neither verdict hides an error of the
other. -/
def combine (connective : Connective) :
    Except RuleError Bool → Except RuleError Bool → Except RuleError Bool
  | .error error, _ => .error error
  | .ok _, .error error => .error error
  | .ok left, .ok right =>
      match connective with
      | and => .ok (left && right)
      | or => .ok (left || right)

@[simp]
theorem combine_ok_ok (connective : Connective) (left right : Bool) :
    connective.combine (.ok left) (.ok right) = .ok (connective.apply left right) := by
  cases connective <;> rfl

theorem combine_eq_error_iff {connective : Connective} {left right : Except RuleError Bool}
    {error : RuleError} :
    connective.combine left right = .error error ↔
      left = .error error ∨ (∃ verdict, left = .ok verdict) ∧ right = .error error := by
  cases left with
  | error leftError => simp [combine]
  | ok verdict =>
      cases right with
      | error rightError => simp [combine]
      | ok rightVerdict => simp

theorem exists_combine_eq_ok_iff {connective : Connective}
    {left right : Except RuleError Bool} :
    (∃ verdict, connective.combine left right = .ok verdict) ↔
      (∃ verdict, left = .ok verdict) ∧ ∀ error, right ≠ .error error := by
  cases left with
  | error leftError => simp [combine]
  | ok verdict =>
      cases right with
      | error rightError => simp [combine]
      | ok rightVerdict => simp

end Connective

/-- A join by a connective combines the results of its two sides. -/
theorem Rule.evaluate_join_word (record : Record) (connective : Connective) (left right : Rule) :
    evaluate record (join connective.word left right) =
      connective.combine (evaluate record left) (evaluate record right) := by
  rw [evaluate, Connective.ofString?_word]
  cases evaluate record left with
  | error error => rfl
  | ok leftVerdict =>
      cases evaluate record right with
      | error error => rfl
      | ok rightVerdict =>
          rw [Connective.combine_ok_ok]
          rfl

namespace Sentence

/-- The result of one condition alone. -/
def judgeCondition (record : Record) (condition : List Char) : Except RuleError Bool :=
  Rule.checkLeaf (String.ofList condition) record

/-- The result of a sentence, from its first condition to its last one. -/
def judge (record : Record) (sentence : Sentence) : Except RuleError Bool :=
  sentence.others.foldl
    (fun result other => other.1.combine result (judgeCondition record other.2))
    (judgeCondition record sentence.first)

/-- The way in which a condition fails alone. -/
def ConditionFails (record : Record) (condition : List Char) (error : RuleError) : Prop :=
  judgeCondition record condition = .error error

theorem evaluate_joinLeaf (record : Record) (rule : Rule) (other : Connective × List Char) :
    Rule.evaluate record (joinLeaf rule other) =
      other.1.combine (Rule.evaluate record rule) (judgeCondition record other.2) :=
  Rule.evaluate_join_word record other.1 rule (.leaf (String.ofList other.2))

/-- Evaluating the rule of a sentence is judging the sentence. -/
theorem evaluate_rule (record : Record) (sentence : Sentence) :
    Rule.evaluate record sentence.rule = sentence.judge record := by
  rcases sentence with ⟨first, others⟩
  have start : Rule.evaluate record (.leaf (String.ofList first)) =
      judgeCondition record first :=
    rfl
  rw [rule, judge, ← start]
  generalize Rule.leaf (String.ofList first) = left
  induction others generalizing left with
  | nil => rfl
  | cons other others ih =>
      rw [List.foldl_cons, List.foldl_cons, ih, evaluate_joinLeaf]

theorem foldl_combine_eq_error_iff {record : Record} {start : Except RuleError Bool}
    {others : List (Connective × List Char)} {error : RuleError} :
    others.foldl
        (fun result other => other.1.combine result (judgeCondition record other.2)) start =
          .error error ↔
      start = .error error ∨ (∃ verdict, start = .ok verdict) ∧
        FirstFails (ConditionFails record) (others.map Prod.snd) error := by
  induction others generalizing start with
  | nil => simp
  | cons other others ih =>
      rw [List.foldl_cons, ih, Connective.combine_eq_error_iff,
        Connective.exists_combine_eq_ok_iff, List.map_cons, firstFails_cons, and_or_left, or_assoc,
        and_assoc]
      rfl

/-- A sentence fails with the error of the first condition that fails alone. -/
theorem judge_eq_error_iff_firstFails {record : Record} {sentence : Sentence}
    {error : RuleError} :
    sentence.judge record = .error error ↔
      FirstFails (ConditionFails record) sentence.conditions error := by
  rw [judge, foldl_combine_eq_error_iff, conditions, firstFails_cons]
  apply or_congr Iff.rfl
  apply and_congr_left'
  unfold ConditionFails
  cases judgeCondition record sentence.first <;> simp

end Sentence

/-- A condition that has been taken apart fails because of its field, its
comparator or its literal. -/
theorem Condition.error_of_check {condition : Condition} {record : Record} {error : RuleError}
    (failed : condition.check record = .error error) :
    error = .unsupportedFieldType condition.field ∨
      (∃ symbol, error = .unsupportedOperator symbol condition.field) ∨
      error = .invalidLiteral condition.literal := by
  unfold check checkText checkNumber at failed
  grind

namespace Rule

/-- A condition that fails alone is reported as it is, or it has been taken
apart. -/
theorem error_of_checkLeaf {text : String} {record : Record} {error : RuleError}
    (failed : checkLeaf text record = .error error) :
    error = .invalidOperand text ∨
      ∃ condition, Condition.parse text = .ok condition ∧
        condition.check record = .error error := by
  rw [checkLeaf] at failed
  cases parsed : Condition.parse text with
  | ok condition =>
      rw [parsed] at failed
      exact .inr ⟨condition, rfl, failed⟩
  | error reported =>
      rw [parsed] at failed
      cases failed
      rw [Condition.parse] at parsed
      split at parsed
      · contradiction
      · cases parsed
        exact .inl rfl

/-- A condition alone has no connective to complain about. -/
theorem checkLeaf_ne_unknownConnective (text : String) (record : Record)
    (connective : String) : checkLeaf text record ≠ .error (.unknownConnective connective) := by
  intro failed
  rcases error_of_checkLeaf failed with reported | ⟨condition, -, checked⟩
  · cases reported
  · rcases Condition.error_of_check checked with field | ⟨symbol, comparator⟩ | literal
    · cases field
    · cases comparator
    · cases literal

end Rule

/-- A rule text that compiles is judged in one pass over its conditions, in text
order and without a tree.  It fails exactly if a condition alone fails, with the
error of the first one, and never over a connective. -/
theorem evaluate_compiled_eq_judge {text : String} {rule : Rule}
    (compiled : Rule.compile text = .ok rule) (record : Record) :
    Nonempty (Reading text.toList) ∧
    ∀ reading : Reading text.toList,
      rule.evaluate record = reading.sentence.judge record ∧
      (∀ error, rule.evaluate record = .error error ↔
        FirstFails (Sentence.ConditionFails record) reading.sentence.conditions error) ∧
      ∀ connective, rule.evaluate record ≠ .error (.unknownConnective connective) := by
  constructor
  · rcases Reading.exists_of_compile_eq_ok compiled with ⟨reading, -⟩
    exact ⟨reading⟩
  · intro reading
    have rule_eq : rule = reading.sentence.rule :=
      Except.ok.inj (compiled.symm.trans reading.compile_eq)
    rw [rule_eq, Sentence.evaluate_rule]
    refine ⟨rfl, fun error => Sentence.judge_eq_error_iff_firstFails, ?_⟩
    intro connective failed
    rcases Sentence.judge_eq_error_iff_firstFails.mp failed with
      ⟨before, condition, after, -, conditionFailed, -⟩
    exact Rule.checkLeaf_ne_unknownConnective _ _ _ conditionFailed

/-- No connective goes before the other, and a condition is judged although the verdict
before it already decides the join: here it fails. -/
theorem evaluate_compiled_eq_judge_of_three_conditions :
    ∃ (rule : Rule) (reading : Reading " a = x OR b > 1\tAND c = y ".toList),
      Rule.compile " a = x OR b > 1\tAND c = y " = .ok rule ∧
      (∀ record, rule.evaluate record = reading.sentence.judge record) ∧
      reading.sentence.judge (Table.ofPairs [("a", .string "x"),
        ("b", .number (.integer ⟨0, by decide, by decide⟩)), ("c", .string "n")]) = .ok false ∧
      reading.sentence.judge (Table.ofPairs [("a", .string "x"),
        ("b", .number (.integer ⟨0, by decide, by decide⟩)), ("c", .string "y")]) = .ok true ∧
      reading.sentence.judge (Table.ofPairs [("a", .string "x"), ("b", .string "z")]) =
        .error (.unsupportedOperator ">" "b") := by
  let rule : Rule := .join "AND" (.join "OR" (.leaf "a = x") (.leaf "b > 1")) (.leaf "c = y")
  have compiled : Rule.compile " a = x OR b > 1\tAND c = y " = .ok rule := by
    decide +kernel
  have judged := evaluate_compiled_eq_judge compiled
  obtain ⟨reading⟩ := (judged .empty).1
  have same record : rule.evaluate record = reading.sentence.judge record :=
    ((judged record).2 reading).1
  refine ⟨rule, reading, compiled, same, ?_, ?_, ?_⟩
  all_goals
    rw [← same]
    decide +kernel

end Eligibility
