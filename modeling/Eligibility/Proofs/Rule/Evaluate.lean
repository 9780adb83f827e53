import Eligibility.Proofs.Failure
import Eligibility.Rule.Evaluate

/-!
# The order of evaluation

The nodes of a rule are evaluated in post-order, the left side of a join before
its right side and both before the connective.  Evaluation reaches every node
until one fails on its own, and it reports that failure.  If none fails, the
verdict is that of the rule as a formula over its conditions.
-/

namespace Eligibility

/-- Every text but the two words is no connective. -/
theorem Connective.ofString?_eq_none_iff {text : String} :
    ofString? text = none ↔ text ≠ "AND" ∧ text ≠ "OR" := by
  constructor
  · intro unread
    constructor
    · rintro rfl
      contradiction
    · rintro rfl
      contradiction
  · rintro ⟨notAnd, notOr⟩
    rw [ofString?, if_neg notAnd, if_neg notOr]

namespace Rule

/-! ## One step of evaluation -/

/-- A join has a verdict if both of its sides have one and its connective is
known. -/
theorem evaluate_join_eq_ok_iff {record : Record} {connective : String} {left right : Rule}
    {verdict : Bool} :
    evaluate record (join connective left right) = .ok verdict ↔
      ∃ leftVerdict rightVerdict joining, evaluate record left = .ok leftVerdict ∧
        evaluate record right = .ok rightVerdict ∧
        Connective.ofString? connective = some joining ∧
        joining.apply leftVerdict rightVerdict = verdict := by
  rw [evaluate]
  cases evaluate record left with
  | error error => simp [bind, Except.bind]
  | ok leftVerdict =>
      cases evaluate record right with
      | error error => simp [bind, Except.bind]
      | ok rightVerdict =>
          cases Connective.ofString? connective <;> simp [bind, Except.bind]

/-- A join fails with its left side, else with its right side, else with its
connective. -/
theorem evaluate_join_eq_error_iff {record : Record} {connective : String}
    {left right : Rule} {error : RuleError} :
    evaluate record (join connective left right) = .error error ↔
      evaluate record left = .error error ∨
      (∃ leftVerdict, evaluate record left = .ok leftVerdict) ∧
        (evaluate record right = .error error ∨
        (∃ rightVerdict, evaluate record right = .ok rightVerdict) ∧
          Connective.ofString? connective = none ∧ .unknownConnective connective = error) := by
  rw [evaluate]
  cases evaluate record left with
  | error leftError => simp [bind, Except.bind]
  | ok leftVerdict =>
      cases evaluate record right with
      | error rightError => simp [bind, Except.bind]
      | ok rightVerdict =>
          cases Connective.ofString? connective <;> simp [bind, Except.bind]

/-! ## Post-order -/

/-- A node of a rule, without the nodes below it. -/
inductive Node
  | condition (text : String)
  | connective (text : String)
deriving DecidableEq, Repr

/-- The nodes of a rule: those on the left, those on the right, and the topmost
node. -/
def postorder : Rule → List Node
  | leaf text => [.condition text]
  | join connective left right => left.postorder ++ right.postorder ++ [.connective connective]

/-- A node fails on its own: a condition as a rule of its own, and a connective
if it is neither of the two words. -/
inductive Node.Fails (record : Record) : Node → RuleError → Prop
  | condition {text : String} {error : RuleError} :
      evaluate record (leaf text) = .error error → Fails record (.condition text) error
  | connective {text : String} : text ≠ "AND" → text ≠ "OR" →
      Fails record (.connective text) (.unknownConnective text)

/-- A rule holds as a formula over its conditions. -/
def Holds (record : Record) : Rule → Prop
  | leaf text => evaluate record (leaf text) = .ok true
  | join connective left right =>
      if connective = "AND" then left.Holds record ∧ right.Holds record
      else left.Holds record ∨ right.Holds record

namespace Node

theorem fails_condition_iff {record : Record} {text : String} {error : RuleError} :
    Fails record (.condition text) error ↔ evaluate record (leaf text) = .error error := by
  constructor
  · rintro ⟨failed⟩
    assumption
  · exact Fails.condition

theorem fails_connective_iff {record : Record} {text : String} {error : RuleError} :
    Fails record (.connective text) error ↔
      Connective.ofString? text = none ∧ .unknownConnective text = error := by
  constructor
  · rintro (_ | ⟨notAnd, notOr⟩)
    exact ⟨Connective.ofString?_eq_none_iff.mpr ⟨notAnd, notOr⟩, rfl⟩
  · rintro ⟨unread, rfl⟩
    rcases Connective.ofString?_eq_none_iff.mp unread with ⟨notAnd, notOr⟩
    exact Fails.connective notAnd notOr

end Node

/-- A rule has a verdict exactly if none of its nodes fails. -/
theorem exists_evaluate_eq_ok_iff {record : Record} {rule : Rule} :
    (∃ verdict, evaluate record rule = .ok verdict) ↔
      NoneFails (Node.Fails record) rule.postorder := by
  induction rule with
  | leaf text =>
      simp only [postorder, noneFails_cons, noneFails_nil, and_true, Node.fails_condition_iff]
      cases evaluate record (leaf text) <;> simp
  | join connective left right leftVerdict rightVerdict =>
      rw [postorder, noneFails_append, noneFails_append, ← leftVerdict, ← rightVerdict,
        noneFails_cons]
      simp only [noneFails_nil, and_true, Node.fails_connective_iff, evaluate_join_eq_ok_iff]
      constructor
      · rintro ⟨verdict, leftValue, rightValue, joining, leftOk, rightOk, known, -⟩
        refine ⟨⟨⟨leftValue, leftOk⟩, ⟨rightValue, rightOk⟩⟩, ?_⟩
        rintro error ⟨unknown, -⟩
        rw [known] at unknown
        contradiction
      · rintro ⟨⟨⟨leftValue, leftOk⟩, ⟨rightValue, rightOk⟩⟩, passes⟩
        cases known : Connective.ofString? connective with
        | none => exact absurd ⟨known, rfl⟩ (passes (.unknownConnective connective))
        | some joining =>
            exact ⟨_, leftValue, rightValue, joining, leftOk, rightOk, rfl, rfl⟩

/-- A rule fails with the first failure among its nodes. -/
theorem evaluate_eq_error_iff_firstFails {record : Record} {rule : Rule} {error : RuleError} :
    evaluate record rule = .error error ↔
      FirstFails (Node.Fails record) rule.postorder error := by
  induction rule with
  | leaf text =>
      rw [postorder, firstFails_singleton, Node.fails_condition_iff]
  | join connective left right leftError rightError =>
      rw [postorder, List.append_assoc, firstFails_append, firstFails_append,
        firstFails_singleton, Node.fails_connective_iff, ← leftError, ← rightError,
        ← exists_evaluate_eq_ok_iff, ← exists_evaluate_eq_ok_iff]
      exact evaluate_join_eq_error_iff

/-- A verdict is the truth value of the rule as a formula. -/
theorem holds_iff_of_evaluate_eq_ok {record : Record} {rule : Rule} {verdict : Bool}
    (evaluated : evaluate record rule = .ok verdict) :
    rule.Holds record ↔ verdict = true := by
  induction rule generalizing verdict with
  | leaf text => rw [Holds, evaluated, Except.ok.injEq]
  | join connective left right leftHolds rightHolds =>
      rcases evaluate_join_eq_ok_iff.mp evaluated with
        ⟨leftVerdict, rightVerdict, joining, leftOk, rightOk, known, rfl⟩
      rw [Holds, leftHolds leftOk, rightHolds rightOk, Connective.ofString?_eq_some_iff.mp known]
      cases joining with
      | and => simp [Connective.word, Connective.apply]
      | or => simp [Connective.word, Connective.apply]

/-- Evaluation fails exactly if a node fails on its own, and then with the error
of the first one in post-order.  Otherwise the verdict is the truth value of the
rule as a formula over its conditions. -/
theorem evaluate_eq_firstFailure_or_formula (record : Record) (rule : Rule) :
    ((∃ error, evaluate record rule = .error error) ↔
      ∃ node ∈ rule.postorder, ∃ error, node.Fails record error) ∧
    (∀ error, evaluate record rule = .error error ↔
      FirstFails (Node.Fails record) rule.postorder error) ∧
    ∀ verdict, evaluate record rule = .ok verdict ↔
      NoneFails (Node.Fails record) rule.postorder ∧ (verdict = true ↔ rule.Holds record) := by
  refine ⟨?_, fun error => evaluate_eq_error_iff_firstFails, ?_⟩
  · constructor
    · rintro ⟨error, failed⟩
      rcases evaluate_eq_error_iff_firstFails.mp failed with
        ⟨before, node, after, nodes_eq, nodeFailed, -⟩
      exact ⟨node, by simp [nodes_eq], error, nodeFailed⟩
    · rintro ⟨node, member, error, failed⟩
      cases evaluated : evaluate record rule with
      | error first => exact ⟨first, rfl⟩
      | ok verdict =>
          have passes := exists_evaluate_eq_ok_iff.mp ⟨verdict, evaluated⟩
          exact absurd failed (passes node member error)
  · intro verdict
    constructor
    · intro evaluated
      exact ⟨exists_evaluate_eq_ok_iff.mp ⟨verdict, evaluated⟩,
        (holds_iff_of_evaluate_eq_ok evaluated).symm⟩
    · rintro ⟨passes, truth⟩
      rcases exists_evaluate_eq_ok_iff.mpr passes with ⟨actual, evaluated⟩
      have same : actual = verdict := by
        apply Bool.eq_iff_iff.mpr
        exact (holds_iff_of_evaluate_eq_ok evaluated).symm.trans truth.symm
      rw [evaluated, same]

end Rule

end Eligibility
