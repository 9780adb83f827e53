import Eligibility.Proofs.Failure
import Eligibility.Proofs.Rule.Alike
import Eligibility.Proofs.Rule.NumberOrder

/-!
# Threshold rules

A number that grows can only gain what is asked of it with `>`, and one that
shrinks can only gain what is asked of it with `<`; rounding to doubles does not
turn this around.  Whether a condition fails depends on its literal and on the
kind of its field, but not on the number.  So if each number that changes is only
compared in the direction of its change, a rule keeps its errors and does not
lose its verdict when that is true.
-/

namespace Eligibility

/-- A verdict that is true stays true. -/
def Retains (verdict verdict' : Bool) : Prop :=
  verdict = true → verdict' = true

/-- Neither connective denies, so what holds is not lost by joining. -/
theorem Connective.keeps_retains : Keeps Retains := by
  intro connective left left' right right' leftRetained rightRetained
  cases connective with
  | and =>
      rw [Retains, apply, apply, Bool.and_eq_true, Bool.and_eq_true]
      exact And.imp leftRetained rightRetained
  | or =>
      rw [Retains, apply, apply, Bool.or_eq_true, Bool.or_eq_true]
      exact Or.imp leftRetained rightRetained

namespace Condition

/-- A number may grow where it is compared by `>` and shrink where it is compared
by `<`. -/
theorem checkNumber_retains {condition : Condition} {before after : Json.Number}
    (raised : before.value < after.value → condition.comparator = .greater)
    (lowered : after.value < before.value → condition.comparator = .less) :
    ResultsRelated Retains (condition.checkNumber before.toDouble)
      (condition.checkNumber after.toDouble) := by
  rw [checkNumber, checkNumber]
  cases Literal.value? condition.literal.toList with
  | none => exact .error (.invalidLiteral condition.literal)
  | some expected =>
      refine .ok ?_
      rw [Retains, Double.order, Double.order, Comparator.accepts_compare_iff,
        Comparator.accepts_compare_iff, before.units_toDouble, after.units_toDouble]
      rcases lt_trichotomy before.value after.value with grown | same | shrunk
      · rw [raised grown]
        intro above
        exact lt_of_lt_of_le above (Double.nearestUnits_mono grown.le)
      · rw [same]
        exact id
      · rw [lowered shrunk]
        intro below
        exact lt_of_le_of_lt (Double.nearestUnits_mono shrunk.le) below

end Condition

namespace Rule

/-- A change of a record in favor of a rule.  Of the fields that the rule names only
numbers change; each number that becomes larger is only compared by `>` in the rule,
and each one that becomes smaller only by `<`. -/
structure Favored (rule : Rule) (first second : Record) : Prop where
  changed : ∀ field, rule.Mentions field → first.get? field = second.get? field ∨
    ∃ before after, first.get? field = some (.number before) ∧
      second.get? field = some (.number after)
  raised : ∀ condition, rule.HasCondition condition → ∀ before after,
    first.get? condition.field = some (.number before) →
    second.get? condition.field = some (.number after) →
    before.value < after.value → condition.comparator = .greater
  lowered : ∀ condition, rule.HasCondition condition → ∀ before after,
    first.get? condition.field = some (.number before) →
    second.get? condition.field = some (.number after) →
    after.value < before.value → condition.comparator = .less

variable {rule : Rule} {first second : Record}

theorem Favored.check_retains (favored : rule.Favored first second) {condition : Condition}
    (member : rule.HasCondition condition) :
    ResultsRelated Retains (condition.check first) (condition.check second) := by
  rcases favored.changed _ (mentions_iff.mpr ⟨condition, member, rfl⟩) with
    same | ⟨before, after, firstField, secondField⟩
  · apply ResultsRelated.of_eq fun _ => id
    rw [Condition.check, Condition.check, same]
  · have raised := favored.raised condition member before after firstField secondField
    have lowered := favored.lowered condition member before after firstField secondField
    rw [Condition.check, firstField, Condition.check, secondField]
    exact Condition.checkNumber_retains raised lowered

/-- A change in favor of a rule changes none of its errors and does not take away a
verdict that is true. -/
theorem evaluate_of_favored (favored : rule.Favored first second) :
    (∀ error, rule.evaluate first = .error error ↔ rule.evaluate second = .error error) ∧
    (rule.evaluate first = .ok true → rule.evaluate second = .ok true) := by
  have both : ResultsRelated Retains (rule.evaluate first) (rule.evaluate second) :=
    evaluate_related Connective.keeps_retains fun _ member => favored.check_retains member
  refine ⟨both.eq_error_iff, fun holds => ?_⟩
  rcases both.exists_of_eq_ok holds with ⟨verdict, evaluated, retained⟩
  rw [evaluated, retained rfl]

/-- A count grows by less than doubles can tell and a debt shrinks to minus zero. -/
theorem evaluate_of_favored_of_two_numbers :
    let rule : Rule :=
      .join "OR" (.join "AND" (.leaf "count > 9e15") (.leaf "debt < 10")) (.leaf "name = Ann")
    let first : Record := Table.ofPairs
      [("count", .number (.integer ⟨9007199254740992, by decide, by decide⟩)),
        ("debt", .number (.integer ⟨5, by decide, by decide⟩)), ("name", .string "Bob")]
    let second : Record := Table.ofPairs
      [("count", .number (.integer ⟨9007199254740993, by decide, by decide⟩)),
        ("debt", .number (.double (.zero true))), ("name", .string "Bob")]
    (∀ error, rule.evaluate first = .error error ↔ rule.evaluate second = .error error) ∧
      rule.evaluate second = .ok true := by
  intro rule first second
  have count : Condition.parse "count > 9e15" = .ok ⟨"count", .greater, "9e15"⟩ :=
    toOption_eq_some_iff.mp (by decide +kernel)
  have debt : Condition.parse "debt < 10" = .ok ⟨"debt", .less, "10"⟩ :=
    toOption_eq_some_iff.mp (by decide +kernel)
  have name : Condition.parse "name = Ann" = .ok ⟨"name", .equal, "Ann"⟩ :=
    toOption_eq_some_iff.mp (by decide +kernel)
  have conditions {condition : Condition} (member : rule.HasCondition condition) :
      condition = ⟨"count", .greater, "9e15"⟩ ∨ condition = ⟨"debt", .less, "10"⟩ ∨
        condition = ⟨"name", .equal, "Ann"⟩ := by
    rcases member with (parsed | parsed) | parsed
    · exact .inl (Except.ok.inj (count.symm.trans parsed)).symm
    · exact .inr (.inl (Except.ok.inj (debt.symm.trans parsed)).symm)
    · exact .inr (.inr (Except.ok.inj (name.symm.trans parsed)).symm)
  have favored : rule.Favored first second := by
    constructor
    · intro field mentioned
      rcases mentions_iff.mp mentioned with ⟨condition, member, rfl⟩
      rw [Record.get?_ofPairs, Record.get?_ofPairs]
      rcases conditions member with rfl | rfl | rfl
      · exact .inr ⟨_, _, rfl, rfl⟩
      · exact .inr ⟨_, _, rfl, rfl⟩
      · exact .inl rfl
    · intro condition member before after firstField secondField grown
      rw [Record.get?_ofPairs] at firstField secondField
      rcases conditions member with rfl | rfl | rfl
      · rfl
      · cases firstField
        cases secondField
        norm_num [Json.Number.value, Double.value] at grown
      · cases firstField
    · intro condition member before after firstField secondField shrunk
      rw [Record.get?_ofPairs] at firstField secondField
      rcases conditions member with rfl | rfl | rfl
      · cases firstField
        cases secondField
        norm_num [Json.Number.value] at shrunk
      · rfl
      · cases firstField
  refine ⟨(evaluate_of_favored favored).1, (evaluate_of_favored favored).2 ?_⟩
  apply toOption_eq_some_iff.mp
  decide +kernel

end Rule

end Eligibility
