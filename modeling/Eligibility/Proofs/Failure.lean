import Eligibility.Error
import Mathlib.Logic.Basic

/-!
# First failures

Several parts of a rule can fail at once, but only one error is reported.  For
any way in which items can fail, this file says which failure comes first in a
list of items and how first failures of lists compose.  Computations in a row
report the first failure of the things that they require, one after another.
-/

namespace Eligibility

universe u v w

/-! ## Computations in a row -/

theorem bind_eq_ok_iff {ε : Type u} {α : Type v} {β : Type w} {first : Except ε α}
    {next : α → Except ε β} {result : β} :
    first.bind next = .ok result ↔ ∃ value, first = .ok value ∧ next value = .ok result := by
  cases first with
  | error error => simp [Except.bind]
  | ok value => simp [Except.bind]

theorem map_eq_ok_iff {ε : Type u} {α : Type v} {β : Type w} {first : Except ε α} {f : α → β}
    {result : β} :
    first.map f = .ok result ↔ ∃ value, first = .ok value ∧ f value = result := by
  cases first with
  | error error => simp [Except.map]
  | ok value => simp [Except.map]

theorem toOption_eq_some_iff {ε : Type u} {α : Type v} {result : Except ε α} {value : α} :
    result.toOption = some value ↔ result = .ok value := by
  cases result <;> simp [Except.toOption]

theorem bind_eq_error_iff {ε : Type u} {α : Type v} {β : Type w} {first : Except ε α}
    {next : α → Except ε β} {error : ε} :
    first.bind next = .error error ↔
      first = .error error ∨ ∃ value, first = .ok value ∧ next value = .error error := by
  cases first with
  | error error => simp [Except.bind]
  | ok value => simp [Except.bind]

theorem map_eq_error_iff {ε : Type u} {α : Type v} {β : Type w} {first : Except ε α} {f : α → β}
    {error : ε} : first.map f = .error error ↔ first = .error error := by
  cases first with
  | error error => simp [Except.map]
  | ok value => simp [Except.map]

theorem forall_ne_error_iff {ε : Type u} {α : Type v} {result : Except ε α} :
    (∀ error, result ≠ .error error) ↔ ∃ value, result = .ok value := by
  cases result <;> simp

/-- The error of a computation that fails. -/
def error? {ε : Type u} {α : Type v} : Except ε α → Option ε
  | .error error => some error
  | .ok _ => none

@[simp]
theorem error?_map {ε : Type u} {α : Type v} {β : Type w} (first : Except ε α) (f : α → β) :
    error? (first.map f) = error? first := by
  cases first <;> rfl

/-- If the second of two computations has the same error on every result, that is the
error of both in a row unless the first one fails. -/
theorem error?_bind {ε : Type u} {α β : Type v} {first : Except ε α} {next : α → Except ε β}
    {later : Option ε} (nextError : ∀ value, error? (next value) = later) :
    error? (first >>= next) = (error? first).or later := by
  cases first with
  | error error => rfl
  | ok value => exact nextError value

theorem error?_bind_ok {ε : Type u} {α β : Type v} (first : Except ε α) (f : α → β) :
    error? (do let value ← first; .ok (f value)) = error? first := by
  cases first <;> rfl

/-! ## Items in a row -/

variable {α : Type u} {fails : α → RuleError → Prop}

/-- No item of a list fails. -/
def NoneFails (fails : α → RuleError → Prop) (items : List α) : Prop :=
  ∀ item ∈ items, ∀ error, ¬ fails item error

/-- An item of a list fails with an error, and no item in front of it fails. -/
def FirstFails (fails : α → RuleError → Prop) (items : List α) (error : RuleError) : Prop :=
  ∃ before item after, items = before ++ item :: after ∧ fails item error ∧
    NoneFails fails before

@[simp]
theorem noneFails_nil : NoneFails fails [] := by
  simp [NoneFails]

theorem noneFails_cons {item : α} {items : List α} :
    NoneFails fails (item :: items) ↔ (∀ error, ¬ fails item error) ∧ NoneFails fails items := by
  simp [NoneFails]

theorem noneFails_append {items others : List α} :
    NoneFails fails (items ++ others) ↔ NoneFails fails items ∧ NoneFails fails others := by
  simp only [NoneFails, List.mem_append]
  constructor
  · intro passes
    exact ⟨fun item member => passes item (.inl member),
      fun item member => passes item (.inr member)⟩
  · rintro ⟨itemsPass, othersPass⟩ item (member | member)
    · exact itemsPass item member
    · exact othersPass item member

@[simp]
theorem not_firstFails_nil {error : RuleError} : ¬ FirstFails fails [] error := by
  rintro ⟨before, item, after, items_eq, -⟩
  simp at items_eq

/-- Either the first item fails, or it passes and a later one fails first. -/
theorem firstFails_cons {item : α} {items : List α} {error : RuleError} :
    FirstFails fails (item :: items) error ↔
      fails item error ∨ (∀ other, ¬ fails item other) ∧ FirstFails fails items error := by
  constructor
  · rintro ⟨before, failing, after, items_eq, failed, passed⟩
    cases before with
    | nil =>
        obtain ⟨rfl, rfl⟩ := List.cons.inj items_eq
        exact .inl failed
    | cons first before =>
        obtain ⟨rfl, rfl⟩ := List.cons.inj items_eq
        obtain ⟨firstPassed, restPassed⟩ := noneFails_cons.mp passed
        exact .inr ⟨firstPassed, before, failing, after, rfl, failed, restPassed⟩
  · rintro (failed | ⟨passed, before, failing, after, rfl, failed, restPassed⟩)
    · exact ⟨[], item, items, rfl, failed, noneFails_nil⟩
    · exact ⟨item :: before, failing, after, rfl, failed, noneFails_cons.mpr ⟨passed, restPassed⟩⟩

@[simp]
theorem firstFails_singleton {item : α} {error : RuleError} :
    FirstFails fails [item] error ↔ fails item error := by
  simp [firstFails_cons]

/-- Either the front of a list has a first failure, or it passes and the back
of the list has one. -/
theorem firstFails_append {items others : List α} {error : RuleError} :
    FirstFails fails (items ++ others) error ↔
      FirstFails fails items error ∨ NoneFails fails items ∧ FirstFails fails others error := by
  induction items with
  | nil => simp
  | cons item items ih =>
      rw [List.cons_append, firstFails_cons, firstFails_cons, noneFails_cons, ih,
        and_or_left, or_assoc, and_assoc]

/-- Nothing fails first exactly if nothing fails. -/
theorem noneFails_iff_forall_not_firstFails {items : List α} :
    NoneFails fails items ↔ ∀ error, ¬ FirstFails fails items error := by
  induction items with
  | nil => simp
  | cons item items ih =>
      simp only [noneFails_cons, firstFails_cons, ih, not_or, not_and]
      constructor
      · rintro ⟨passes, later⟩ error
        exact ⟨passes error, fun _ => later error⟩
      · intro neither
        have passes error := (neither error).1
        exact ⟨passes, fun error => (neither error).2 passes⟩

/-! ## Requirements -/

/-- Something that a computation requires, with the error if it is not met and the
wording of that error. -/
structure Requirement where
  error : RuleError
  message : String
  met : Prop

namespace Requirement

/-- A requirement fails with its own error, in its own wording, if it is not met. -/
def Fails (requirement : Requirement) (error : RuleError) : Prop :=
  ¬ requirement.met ∧ error = requirement.error ∧ error.message = requirement.message

/-- A computation reports the first of some requirements that is not met, and
otherwise it succeeds. -/
def ReportedBy (requirements : List Requirement) (result : Except RuleError α) : Prop :=
  ∀ error, result = .error error ↔ FirstFails Fails requirements error

theorem reportedBy_nil (value : α) : ReportedBy [] (.ok value) := by
  intro error
  simp

variable {error : RuleError} {message : String} {met : Prop} {requirements : List Requirement}

/-- A requirement that is not met is reported before all that follow. -/
theorem reportedBy_cons_of_not_met (fails : ¬ met) (worded : error.message = message) :
    ReportedBy (⟨error, message, met⟩ :: requirements) (.error error : Except RuleError α) := by
  intro other
  rw [firstFails_cons, Fails]
  constructor
  · rintro ⟨⟩
    exact .inl ⟨fails, rfl, worded⟩
  · rintro (⟨-, rfl, -⟩ | ⟨passes, -⟩)
    · rfl
    · exact absurd ⟨fails, rfl, worded⟩ (passes error)

theorem not_fails (holds : met) (other : RuleError) : ¬ Fails ⟨error, message, met⟩ other :=
  fun failed => failed.1 holds

theorem ReportedBy.cons_of_met {result : Except RuleError α} (holds : met)
    (later : ReportedBy requirements result) :
    ReportedBy (⟨error, message, met⟩ :: requirements) result := by
  intro other
  simpa [firstFails_cons, not_fails holds] using later other

/-- Of two computations in a row, the second one reports what the first one does
not. -/
theorem ReportedBy.bind {β : Type v} {others : List Requirement}
    {first : Except RuleError α} {next : α → Except RuleError β}
    (firstReports : ReportedBy requirements first)
    (nextReports : ∀ value, first = .ok value → ReportedBy others (next value)) :
    ReportedBy (requirements ++ others) (first.bind next) := by
  intro error
  rw [bind_eq_error_iff, firstFails_append, noneFails_iff_forall_not_firstFails]
  apply or_congr (firstReports error)
  constructor
  · rintro ⟨value, first_eq, next_eq⟩
    refine ⟨fun other failed => ?_, (nextReports value first_eq error).mp next_eq⟩
    rw [(firstReports other).mpr failed] at first_eq
    contradiction
  · rintro ⟨passes, failed⟩
    cases first_eq : first with
    | error other => exact absurd ((firstReports other).mp first_eq) (passes other)
    | ok value => exact ⟨value, rfl, (nextReports value first_eq error).mpr failed⟩

end Requirement

end Eligibility
