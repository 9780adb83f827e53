import Eligibility.Proofs.Rule.Judge
import Eligibility.Proofs.Rule.Script

/-!
# Rules under one connective

Results are joined associatively, and each connective has a verdict that changes
no result.  A rule with only one connective can therefore be read as the list of
its conditions: it fails with the first error among them, and otherwise its
verdict says whether all of them hold, or whether one of them does.  The verdict
depends on nothing but which conditions there are.  Only the choice of the error
depends on their order.
-/

namespace Eligibility

universe u

namespace Connective

/-! ## Joined results -/

/-- The verdict that changes nothing when it is joined. -/
def neutral : Connective → Bool
  | and => true
  | or => false

@[simp]
theorem combine_neutral (connective : Connective) (result : Except RuleError Bool) :
    connective.combine result (.ok connective.neutral) = result := by
  cases result with
  | error error => rfl
  | ok verdict => cases connective <;> simp [apply, neutral]

@[simp]
theorem neutral_combine (connective : Connective) (result : Except RuleError Bool) :
    connective.combine (.ok connective.neutral) result = result := by
  cases result with
  | error error => rfl
  | ok verdict => cases connective <;> simp [apply, neutral]

/-- Of several errors the first one counts, and of several verdicts each one,
however they are grouped. -/
theorem combine_assoc (connective : Connective) (first second third : Except RuleError Bool) :
    connective.combine (connective.combine first second) third =
      connective.combine first (connective.combine second third) := by
  cases first with
  | error error => rfl
  | ok verdict =>
      cases second with
      | error error => rfl
      | ok next =>
          cases third with
          | error error =>
              rw [combine_ok_ok]
              rfl
          | ok last => cases connective <;> simp [apply, Bool.and_assoc, Bool.or_assoc]

theorem combine_eq_ok_iff {connective : Connective} {left right : Except RuleError Bool}
    {verdict : Bool} :
    connective.combine left right = .ok verdict ↔
      ∃ leftVerdict rightVerdict, left = .ok leftVerdict ∧ right = .ok rightVerdict ∧
        connective.apply leftVerdict rightVerdict = verdict := by
  cases left with
  | error error => simp [combine]
  | ok leftVerdict =>
      cases right with
      | error error => simp [combine]
      | ok rightVerdict => simp

/-! ## Items judged in a row -/

variable {α : Type u} {judge : α → Except RuleError Bool} {connective : Connective}

/-- The results of items in a row, joined. -/
def conclude (connective : Connective) (judge : α → Except RuleError Bool) (items : List α) :
    Except RuleError Bool :=
  items.foldr (fun item result => connective.combine (judge item) result)
    (.ok connective.neutral)

/-- All items of a list hold, or one of them does. -/
def Joins (holds : α → Prop) (items : List α) : Connective → Prop
  | and => ∀ item ∈ items, holds item
  | or => ∃ item ∈ items, holds item

@[simp]
theorem conclude_nil : connective.conclude judge [] = .ok connective.neutral :=
  rfl

theorem conclude_cons (item : α) (items : List α) :
    connective.conclude judge (item :: items) =
      connective.combine (judge item) (connective.conclude judge items) :=
  rfl

@[simp]
theorem conclude_singleton (item : α) : connective.conclude judge [item] = judge item := by
  rw [conclude_cons, conclude_nil, combine_neutral]

theorem conclude_append (items others : List α) :
    connective.conclude judge (items ++ others) =
      connective.combine (connective.conclude judge items) (connective.conclude judge others) := by
  induction items with
  | nil => rw [List.nil_append, conclude_nil, neutral_combine]
  | cons item items ih => rw [List.cons_append, conclude_cons, conclude_cons, ih, combine_assoc]

theorem conclude_eq_error_iff {items : List α} {error : RuleError} :
    connective.conclude judge items = .error error ↔
      FirstFails (fun item error => judge item = .error error) items error := by
  induction items with
  | nil => simp
  | cons item items ih =>
      rw [conclude_cons, combine_eq_error_iff, firstFails_cons, ih, ← forall_ne_error_iff]

/-- A verdict says whether all items hold, or whether one of them does. -/
theorem joins_iff_of_conclude_eq_ok {items : List α} {verdict : Bool}
    (concluded : connective.conclude judge items = .ok verdict) :
    connective.Joins (fun item => judge item = .ok true) items ↔ verdict = true := by
  induction items generalizing verdict with
  | nil =>
      cases concluded
      cases connective <;> simp [Joins, neutral]
  | cons item items ih =>
      rw [conclude_cons] at concluded
      rcases combine_eq_ok_iff.mp concluded with ⟨first, later, judged, laterConcluded, rfl⟩
      have laterJoins := ih laterConcluded
      cases connective with
      | and =>
          change (∀ other ∈ item :: items, _) ↔ _
          rw [List.forall_mem_cons, judged, Except.ok.injEq, apply, Bool.and_eq_true]
          exact and_congr Iff.rfl laterJoins
      | or =>
          change (∃ other ∈ item :: items, _) ↔ _
          rw [List.exists_mem_cons_iff, judged, Except.ok.injEq, apply, Bool.or_eq_true]
          exact or_congr Iff.rfl laterJoins

/-- Items have a verdict together if none of them fails. -/
theorem conclude_eq_ok_iff {items : List α} {verdict : Bool} :
    connective.conclude judge items = .ok verdict ↔
      NoneFails (fun item error => judge item = .error error) items ∧
        (verdict = true ↔ connective.Joins (fun item => judge item = .ok true) items) := by
  rw [noneFails_iff_forall_not_firstFails]
  constructor
  · intro concluded
    refine ⟨fun error failed => ?_, (joins_iff_of_conclude_eq_ok concluded).symm⟩
    rw [conclude_eq_error_iff.mpr failed] at concluded
    contradiction
  · rintro ⟨passes, truth⟩
    cases concluded : connective.conclude judge items with
    | error error => exact absurd (conclude_eq_error_iff.mp concluded) (passes error)
    | ok actual =>
        have same : actual = verdict :=
          Bool.eq_iff_iff.mpr ((joins_iff_of_conclude_eq_ok concluded).symm.trans truth.symm)
        rw [same]

/-- The verdict depends on nothing but which items there are. -/
theorem conclude_eq_ok_congr {items others : List α}
    (same : ∀ item, item ∈ items ↔ item ∈ others) (verdict : Bool) :
    connective.conclude judge items = .ok verdict ↔
      connective.conclude judge others = .ok verdict := by
  rw [conclude_eq_ok_iff, conclude_eq_ok_iff]
  cases connective with
  | and => simp only [NoneFails, Joins, same]
  | or => simp only [NoneFails, Joins, same]

end Connective

namespace Rule

/-- All connectives of a rule are a given one. -/
def IsUnder (connective : Connective) (rule : Rule) : Prop :=
  ∀ text ∈ rule.connectives, text = connective.word

variable {connective : Connective} {first second : Rule}

theorem isUnder_join_iff {text : String} {left right : Rule} :
    IsUnder connective (join text left right) ↔
      IsUnder connective left ∧ text = connective.word ∧ IsUnder connective right := by
  rw [IsUnder, connectives, List.forall_mem_append, List.forall_mem_cons]
  rfl

/-- A rule under one connective is judged as the list of its conditions. -/
theorem evaluate_of_isUnder {rule : Rule} (under : rule.IsUnder connective) (record : Record) :
    rule.evaluate record = connective.conclude (checkLeaf · record) rule.leaves := by
  induction rule with
  | leaf text => rw [leaves, Connective.conclude_singleton, evaluate]
  | join text left right leftJudged rightJudged =>
      rcases isUnder_join_iff.mp under with ⟨leftUnder, rfl, rightUnder⟩
      rw [evaluate_join_word, leftJudged leftUnder, rightJudged rightUnder, leaves,
        Connective.conclude_append]

/-- Of two rules under one connective only the conditions matter.  With the same
conditions in the same order they have the same result on every record, whatever
their grouping.  With the same conditions in any order, each any number of times,
they both fail or have the same verdict. -/
theorem evaluate_eq_of_isUnder (firstUnder : first.IsUnder connective)
    (secondUnder : second.IsUnder connective) (record : Record) :
    (first.leaves = second.leaves → first.evaluate record = second.evaluate record) ∧
    ((∀ text, text ∈ first.leaves ↔ text ∈ second.leaves) →
      (∃ error, first.evaluate record = .error error) ∧
        (∃ error, second.evaluate record = .error error) ∨
      ∃ verdict, first.evaluate record = .ok verdict ∧ second.evaluate record = .ok verdict) := by
  rw [evaluate_of_isUnder firstUnder, evaluate_of_isUnder secondUnder]
  constructor
  · intro same
    rw [same]
  · intro same
    have verdicts (verdict : Bool) :
        connective.conclude (checkLeaf · record) first.leaves = .ok verdict ↔
          connective.conclude (checkLeaf · record) second.leaves = .ok verdict :=
      Connective.conclude_eq_ok_congr same verdict
    cases concluded : connective.conclude (checkLeaf · record) first.leaves with
    | ok verdict => exact .inr ⟨verdict, rfl, (verdicts verdict).mp concluded⟩
    | error error =>
        cases other : connective.conclude (checkLeaf · record) second.leaves with
        | error last => exact .inl ⟨⟨error, rfl⟩, ⟨last, rfl⟩⟩
        | ok verdict =>
            have impossible := (verdicts verdict).mpr other
            rw [concluded] at impossible
            contradiction

/-- Three conditions under OR are regrouped, and then reordered with one of them
repeated. -/
theorem evaluate_eq_of_isUnder_of_three :
    let record : Record := Table.ofPairs [("name", .string "Ann"), ("team", .string "B")]
    let grouped : Rule :=
      .join "OR" (.join "OR" (.leaf "name = Bob") (.leaf "team = B")) (.leaf "name = Eve")
    let regrouped : Rule :=
      .join "OR" (.leaf "name = Bob") (.join "OR" (.leaf "team = B") (.leaf "name = Eve"))
    let reordered : Rule :=
      .join "OR" (.leaf "team = B") (.join "OR" (.join "OR" (.leaf "name = Eve")
        (.leaf "team = B")) (.leaf "name = Bob"))
    grouped.evaluate record = regrouped.evaluate record ∧
      ((∃ error, grouped.evaluate record = .error error) ∧
          (∃ error, reordered.evaluate record = .error error) ∨
        ∃ verdict, grouped.evaluate record = .ok verdict ∧
          reordered.evaluate record = .ok verdict) := by
  intro record grouped regrouped reordered
  have groupedUnder : grouped.IsUnder .or := by
    simp [IsUnder, connectives, Connective.word, grouped]
  have regroupedUnder : regrouped.IsUnder .or := by
    simp [IsUnder, connectives, Connective.word, regrouped]
  have reorderedUnder : reordered.IsUnder .or := by
    simp [IsUnder, connectives, Connective.word, reordered]
  constructor
  · exact (evaluate_eq_of_isUnder groupedUnder regroupedUnder record).1 rfl
  · apply (evaluate_eq_of_isUnder groupedUnder reorderedUnder record).2
    intro text
    simp only [leaves, grouped, reordered, List.mem_append, List.mem_singleton]
    tauto

/-- Which of two errors is reported depends on the order of the conditions. -/
example : evaluate Table.empty (.join "AND" (.leaf "age") (.leaf "name")) ≠
    evaluate Table.empty (.join "AND" (.leaf "name") (.leaf "age")) := by
  decide +kernel

end Rule

end Eligibility
