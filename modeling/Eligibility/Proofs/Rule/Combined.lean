import Eligibility.Proofs.Rule.Uniform
import Eligibility.Rule.Combine

/-!
# Combined rules

A list of rules is combined from the left, so the first two rules stand innermost.
Under one of the two connectives the combination reports the first error among the
rules or joins their verdicts.  Under any other text the innermost join fails
already, and what the third and later rules say is never looked at.
-/

namespace Eligibility.Rule

variable {record : Record} {text : String} {first : Rule}

theorem combineAll_eq_error_iff {rules : List Rule} {error : RuleError} :
    combineAll text rules = .error error ↔ rules = [] ∧ error = .emptyCombination := by
  cases rules with
  | nil => simp [combineAll, eq_comm]
  | cons first others => simp [combineAll]

/-- The leaves of a combination are those of the rules in their order. -/
theorem leaves_of_combineAll {connective : String} {rules : List Rule} {combined : Rule}
    (known : combineAll connective rules = .ok combined) :
    combined.leaves = rules.flatMap leaves := by
  cases rules with
  | nil => cases known
  | cons first others =>
      cases known
      induction others generalizing first with
      | nil => simp
      | cons next others ih => rw [List.foldl_cons, ih]; simp [leaves]

/-! ## Known connectives -/

/-- Rules that are joined one after another by a connective are judged in a row. -/
theorem evaluate_foldl_join_word (record : Record) (connective : Connective) (first : Rule)
    (others : List Rule) :
    evaluate record (others.foldl (join connective.word) first) =
      connective.conclude (evaluate record) (first :: others) := by
  induction others generalizing first with
  | nil => rw [List.foldl_nil, Connective.conclude_singleton]
  | cons next others ih =>
      rw [List.foldl_cons, ih, Connective.conclude_cons, evaluate_join_word,
        Connective.combine_assoc, ← Connective.conclude_cons, ← Connective.conclude_cons]

theorem evaluate_combineAll {connective : Connective} {rules : List Rule} {combined : Rule}
    (record : Record) (known : combineAll connective.word rules = .ok combined) :
    evaluate record combined = connective.conclude (evaluate record) rules := by
  cases rules with
  | nil => cases known
  | cons first others =>
      cases known
      exact evaluate_foldl_join_word record connective first others

/-! ## Unknown connectives -/

theorem evaluate_join_of_unknown (unknown : Connective.ofString? text = none)
    (record : Record) (left right : Rule) :
    evaluate record (join text left right) = (do
      let _ ← evaluate record left
      let _ ← evaluate record right
      .error (.unknownConnective text)) := by
  rw [evaluate, unknown]

theorem evaluate_foldl_join_of_error {error : RuleError}
    (failed : evaluate record first = .error error) (others : List Rule) :
    evaluate record (others.foldl (join text) first) = .error error := by
  induction others generalizing first with
  | nil => exact failed
  | cons next others ih => exact ih (evaluate_join_eq_error_iff.mpr (.inl failed))

/-- Under an unknown connective the innermost join is the whole result. -/
theorem evaluate_foldl_join_of_unknown (unknown : Connective.ofString? text = none)
    (record : Record) (left right : Rule) (others : List Rule) :
    evaluate record (others.foldl (join text) (join text left right)) =
      evaluate record (join text left right) := by
  cases innermost : evaluate record (join text left right) with
  | error error => exact evaluate_foldl_join_of_error innermost others
  | ok verdict =>
      rcases evaluate_join_eq_ok_iff.mp innermost with ⟨_, _, joining, _, _, known, _⟩
      rw [unknown] at known
      contradiction

/-! ## Any connective -/

/-- Exactly an empty list cannot be combined, and a single rule stays as it is.  Several
rules under AND or OR report the first error among them, in their order, or else all of
them hold or one of them does.  Under any other text they report the error of the first
rule, else that of the second one, else the text; the other rules do not matter. -/
theorem combineAll_reports_or_joins (text : String) :
    (∀ rules error, combineAll text rules = .error error ↔
      rules = [] ∧ error = .emptyCombination) ∧
    (∀ rule, combineAll text [rule] = .ok rule) ∧
    ∀ first second others, ∃ combined,
      combineAll text (first :: second :: others) = .ok combined ∧ ∀ record,
        (∀ connective : Connective, text = connective.word →
          (∀ error, evaluate record combined = .error error ↔
            FirstFails (fun rule error => evaluate record rule = .error error)
              (first :: second :: others) error) ∧
          ∀ verdict, evaluate record combined = .ok verdict ↔
            NoneFails (fun rule error => evaluate record rule = .error error)
              (first :: second :: others) ∧
            (verdict = true ↔ connective.Joins (fun rule => evaluate record rule = .ok true)
              (first :: second :: others))) ∧
        (text ≠ "AND" → text ≠ "OR" → evaluate record combined = (do
          let _ ← evaluate record first
          let _ ← evaluate record second
          .error (.unknownConnective text))) := by
  refine ⟨fun _ _ => combineAll_eq_error_iff, combineAll_singleton text, ?_⟩
  intro first second others
  refine ⟨_, rfl, fun record => ⟨?_, ?_⟩⟩
  · rintro connective rfl
    rw [evaluate_foldl_join_word]
    exact ⟨fun _ => Connective.conclude_eq_error_iff, fun _ => Connective.conclude_eq_ok_iff⟩
  · intro notAnd notOr
    have unknown := Connective.ofString?_eq_none_iff.mpr ⟨notAnd, notOr⟩
    rw [List.foldl_cons, evaluate_foldl_join_of_unknown unknown, evaluate_join_of_unknown unknown]

/-- The third rule fails under OR, but it is not looked at under XOR. -/
theorem combineAll_reports_or_joins_of_failing_third :
    (∃ combined,
      combineAll "OR" [.leaf "team = B", .leaf "team = C", .leaf "name"] = .ok combined ∧
      evaluate (Table.ofPairs [("team", .string "B")]) combined =
        .error (.invalidOperand "name")) ∧
    ∃ combined,
      combineAll "XOR" [.leaf "team = B", .leaf "team = C", .leaf "name"] = .ok combined ∧
      evaluate (Table.ofPairs [("team", .string "B")]) combined =
        .error (.unknownConnective "XOR") := by
  constructor
  · rcases (combineAll_reports_or_joins "OR").2.2 (.leaf "team = B") (.leaf "team = C")
      [.leaf "name"] with ⟨combined, known, evaluated⟩
    refine ⟨combined, known, ?_⟩
    rw [((evaluated _).1 .or rfl).1]
    refine ⟨[.leaf "team = B", .leaf "team = C"], .leaf "name", [], rfl, by decide +kernel, ?_⟩
    have first : evaluate (Table.ofPairs [("team", .string "B")]) (.leaf "team = B") = .ok true := by
      decide +kernel
    have second : evaluate (Table.ofPairs [("team", .string "B")]) (.leaf "team = C") =
        .ok false := by
      decide +kernel
    simp [noneFails_cons, first, second]
  · rcases (combineAll_reports_or_joins "XOR").2.2 (.leaf "team = B") (.leaf "team = C")
      [.leaf "name"] with ⟨combined, known, evaluated⟩
    refine ⟨combined, known, ?_⟩
    rw [(evaluated _).2 (by decide) (by decide)]
    decide +kernel

end Eligibility.Rule
