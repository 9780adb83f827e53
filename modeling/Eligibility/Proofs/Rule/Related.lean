import Eligibility.Rule.Evaluate

/-!
# Two evaluations of one rule

A rule is evaluated on two records.  If each of its conditions reports the same
error on both or gives verdicts that are related, then so does the rule, for
every relation that is kept when verdicts are joined.  Equality is such a
relation, and so is that a verdict does not get lost.
-/

namespace Eligibility

universe u v

/-- Two results that are the same error or that are related values. -/
inductive ResultsRelated {α : Type u} (related : α → α → Prop) :
    Except RuleError α → Except RuleError α → Prop
  | error (error : RuleError) : ResultsRelated related (.error error) (.error error)
  | ok {value value' : α} : related value value' →
      ResultsRelated related (.ok value) (.ok value')

namespace ResultsRelated

variable {α : Type u} {related : α → α → Prop} {result result' : Except RuleError α}

theorem of_eq (reflexive : ∀ value, related value value) (same : result = result') :
    ResultsRelated related result result' := by
  subst same
  cases result with
  | error error => exact .error error
  | ok value => exact .ok (reflexive value)

theorem eq (same : ResultsRelated Eq result result') : result = result' := by
  cases same with
  | error error => rfl
  | ok values => rw [values]

theorem eq_error_iff (both : ResultsRelated related result result') (error : RuleError) :
    result = .error error ↔ result' = .error error := by
  cases both with
  | error reported => exact Iff.rfl
  | ok values => simp

theorem exists_of_eq_ok {value : α} (both : ResultsRelated related result result')
    (known : result = .ok value) : ∃ value', result' = .ok value' ∧ related value value' := by
  cases both with
  | error error => cases known
  | ok values =>
      cases known
      exact ⟨_, rfl, values⟩

/-- Computations in a row have related results if each of them takes related
values to related results. -/
theorem bind {β : Type v} {relatedNext : β → β → Prop} {next next' : α → Except RuleError β}
    (both : ResultsRelated related result result')
    (later : ∀ {value value'}, related value value' →
      ResultsRelated relatedNext (next value) (next' value')) :
    ResultsRelated relatedNext (result.bind next) (result'.bind next') := by
  cases both with
  | error error => exact .error error
  | ok values => exact later values

end ResultsRelated

/-- A relation of verdicts that is kept when verdicts are joined. -/
def Connective.Keeps (related : Bool → Bool → Prop) : Prop :=
  ∀ (connective : Connective) {left left' right right' : Bool}, related left left' →
    related right right' → related (connective.apply left right) (connective.apply left' right')

namespace Rule

/-- A condition that is written in a leaf of a rule. -/
def HasCondition (condition : Condition) : Rule → Prop
  | leaf text => Condition.parse text = .ok condition
  | join _ left right => left.HasCondition condition ∨ right.HasCondition condition

/-- What relates the results of all conditions of a rule relates the results of
the rule.  A leaf without a condition and an unknown connective are the same
error on every record. -/
theorem evaluate_related {related : Bool → Bool → Prop} (kept : Connective.Keeps related)
    {first second : Record} {rule : Rule}
    (checked : ∀ condition, rule.HasCondition condition →
      ResultsRelated related (condition.check first) (condition.check second)) :
    ResultsRelated related (rule.evaluate first) (rule.evaluate second) := by
  induction rule with
  | leaf text =>
      rw [evaluate, evaluate, checkLeaf, checkLeaf]
      cases parsed : Condition.parse text with
      | error error => exact .error error
      | ok condition => exact checked condition parsed
  | join connective left right leftRelated rightRelated =>
      specialize leftRelated fun condition member => checked condition (.inl member)
      specialize rightRelated fun condition member => checked condition (.inr member)
      rw [evaluate, evaluate]
      refine leftRelated.bind fun leftVerdicts => rightRelated.bind fun rightVerdicts => ?_
      cases Connective.ofString? connective with
      | none => exact .error (.unknownConnective connective)
      | some joining => exact .ok (kept joining leftVerdicts rightVerdicts)

end Rule

end Eligibility
