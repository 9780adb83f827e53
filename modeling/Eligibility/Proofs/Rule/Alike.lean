import Eligibility.Proofs.Rule.Related

/-!
# Fields that a rule cannot tell apart

A condition sees a string as it is, a number only through the double nearest to
it, and nothing of any other value.  So the result of a rule depends only on what
its conditions see in the fields that they name.
-/

namespace Eligibility

namespace Json.Value

/-- A field with neither a string nor a number. -/
def IsIncomparable : Option Json.Value → Prop
  | some (.string _) | some (.number _) => False
  | _ => True

/-- A field has a string, a number or neither. -/
theorem kind_cases (field : Option Json.Value) :
    (∃ text, field = some (.string text)) ∨ (∃ number, field = some (.number number)) ∨
      IsIncomparable field := by
  cases field with
  | none => exact .inr (.inr trivial)
  | some value =>
      cases value with
      | string text => exact .inl ⟨text, rfl⟩
      | number number => exact .inr (.inl ⟨number, rfl⟩)
      | null | bool | array | object => exact .inr (.inr trivial)

/-- Two fields that no condition can tell apart. -/
inductive Alike : Option Json.Value → Option Json.Value → Prop
  | string (text : String) : Alike (some (.string text)) (some (.string text))
  | number {first second : Number} : first.toDouble.units = second.toDouble.units →
      Alike (some (.number first)) (some (.number second))
  | incomparable {first second : Option Json.Value} : IsIncomparable first →
      IsIncomparable second → Alike first second

theorem Alike.refl (field : Option Json.Value) : Alike field field := by
  rcases kind_cases field with ⟨text, rfl⟩ | ⟨number, rfl⟩ | neither
  · exact .string text
  · exact .number rfl
  · exact .incomparable neither neither

end Json.Value

open Json.Value

variable {first second : Record}

namespace Condition

theorem check_of_isIncomparable {condition : Condition} {record : Record}
    (incomparable : IsIncomparable (record.get? condition.field)) :
    condition.check record = .error (.unsupportedFieldType condition.field) := by
  rw [check]
  split
  · rename_i text found
    rw [found] at incomparable
    exact incomparable.elim
  · rename_i number found
    rw [found] at incomparable
    exact incomparable.elim
  · rfl

/-- A number is compared through the value of the double nearest to it. -/
theorem checkNumber_eq_of_units_eq {condition : Condition} {actual other : Double}
    (same : actual.units = other.units) :
    condition.checkNumber actual = condition.checkNumber other := by
  rw [checkNumber, checkNumber]
  cases Literal.value? condition.literal.toList with
  | none => rfl
  | some expected =>
      dsimp only
      rw [Double.order, Double.order, same]

/-- A condition cannot tell records with a like field apart. -/
theorem check_eq_of_alike {condition : Condition}
    (alike : Alike (first.get? condition.field) (second.get? condition.field)) :
    condition.check first = condition.check second := by
  generalize firstField : first.get? condition.field = firstValue at alike
  generalize secondField : second.get? condition.field = secondValue at alike
  cases alike with
  | string text => rw [check, firstField, check, secondField]
  | number same =>
      rw [check, firstField, check, secondField]
      exact checkNumber_eq_of_units_eq same
  | incomparable firstIncomparable secondIncomparable =>
      rw [← firstField] at firstIncomparable
      rw [← secondField] at secondIncomparable
      rw [check_of_isIncomparable firstIncomparable, check_of_isIncomparable secondIncomparable]

end Condition

namespace Rule

/-- A field is named by a condition of a rule. -/
def Mentions (field : String) : Rule → Prop
  | leaf text => ∃ condition, Condition.parse text = .ok condition ∧ condition.field = field
  | join _ left right => left.Mentions field ∨ right.Mentions field

theorem mentions_iff {rule : Rule} {field : String} :
    rule.Mentions field ↔ ∃ condition, rule.HasCondition condition ∧ condition.field = field := by
  induction rule with
  | leaf text => exact Iff.rfl
  | join connective left right leftMentions rightMentions =>
      simp only [Mentions, HasCondition, leftMentions, rightMentions, or_and_right, exists_or]

/-- A rule cannot tell records apart of which the fields that it names are
alike. -/
theorem evaluate_eq_of_alike {rule : Rule}
    (alike : ∀ field, rule.Mentions field → Alike (first.get? field) (second.get? field)) :
    rule.evaluate first = rule.evaluate second := by
  have kept : Connective.Keeps Eq := by
    intro connective left left' right right' leftSame rightSame
    rw [leftSame, rightSame]
  apply (evaluate_related kept ?_).eq
  intro condition member
  apply ResultsRelated.of_eq fun _ => rfl
  exact Condition.check_eq_of_alike (alike _ (mentions_iff.mpr ⟨condition, member, rfl⟩))

end Rule

end Eligibility
