import Eligibility.Proofs.Failure
import Eligibility.Rule.Description
import Mathlib.Data.List.Forall2
import Mathlib.Data.Option.Basic

/-!
# The shape of a description

Whether a description gives a rule depends on a few of its entries only.  They are
listed here as what a description requires, in the order in which a violation is
reported, and a description that meets all of them gives the rule that can be read
off the same entries.  Two descriptions that agree in these entries give the same
result, whatever else they hold.
-/

namespace Eligibility.Rule

open Requirement

/-! ## What a description gives -/

/-- A value describes an operator between two operands.  Its further entries do
not matter. -/
inductive DescribesRule (item : Json.Value) : Rule → Prop
  | join {operator left right : String}
      (operatorText : item.field? "operator" = some (.string operator))
      (leftOperand : (item.field? "left").bind (Json.Value.field? · "operand") =
        some (.string left))
      (rightOperand : (item.field? "right").bind (Json.Value.field? · "operand") =
        some (.string right)) :
      DescribesRule item (.join operator (.leaf left) (.leaf right))

/-- The rule that a description gives: that of a single described rule, or the
rules of a list joined by AND from the left. -/
inductive Gives (description : Json.Value) : Rule → Prop
  | single {item : Json.Value} {rule : Rule} (rules : description.field? "rules" = some item)
      (described : DescribesRule item rule) : Gives description rule
  | list {items : List Json.Value} {first : Rule} {others : List Rule}
      (rules : description.field? "rules" = some (.array items))
      (described : List.Forall₂ DescribesRule items (first :: others)) :
      Gives description (others.foldl (.join "AND") first)

/-! ## What a description requires -/

/-- A side is an object with a text as its operand. -/
def sideRequirements (side : Side) (name : String) (item : Json.Value) : List Requirement :=
  [⟨.invalidStructure (.sideKind side),
      "Invalid rule structure: " ++ (name ++ " must be a valid JSON object"),
      ∃ entries, item.field? name = some (.object entries)⟩,
    ⟨.invalidStructure (.operandKind side),
      "Invalid rule structure: " ++ (name ++ ".operand must be a string"),
      ∃ operand, (item.field? name).bind (Json.Value.field? · "operand") =
        some (.string operand)⟩]

/-- A described rule is an object with two sides and a text as its operator. -/
def itemRequirements (item : Json.Value) : List Requirement :=
  ⟨.invalidStructure .itemKind, "Invalid rule structure: Each rule must be a valid JSON object",
      ∃ members, item = .object members⟩ ::
    (sideRequirements .left "left" item ++ (sideRequirements .right "right" item ++
      [⟨.invalidStructure .operatorKind, "Invalid rule structure: operator must be a string",
        ∃ operator, item.field? "operator" = some (.string operator)⟩]))

/-- The items that a description lists.  A single described rule counts as one. -/
def listedItems (description : Json.Value) : List Json.Value :=
  match description.field? "rules" with
  | some (.array items) => items
  | some item => [item]
  | none => []

/-- A description has an entry for its rules, which is an object or a list, the
items meet their own requirements, and there is at least one of them. -/
def requirements (description : Json.Value) : List Requirement :=
  ⟨.invalidStructure .noRules, "Invalid rule structure: Invalid JSON structure for rules",
      ∃ rules, rules ≠ .null ∧ description.field? "rules" = some rules⟩ ::
    ⟨.invalidStructure .rulesKind,
      "Invalid rule structure: Rules must be a valid JSON object or a list",
      (∃ items, description.field? "rules" = some (.array items)) ∨
        ∃ members, description.field? "rules" = some (.object members)⟩ ::
    ((listedItems description).flatMap itemRequirements ++
      [⟨.invalidStructure .emptyList, "Invalid rule structure: Rules list cannot be empty",
        description.field? "rules" ≠ some (.array [])⟩])

/-! ## What does not matter -/

/-- Two values have alike entries under a name, or both have none. -/
def EntryAlike (name : String) (alike : Json.Value → Json.Value → Prop)
    (value other : Json.Value) : Prop :=
  Option.Rel alike (value.field? name) (other.field? name)

/-- Two values are the same text, or neither is a text. -/
def TextAlike (value other : Json.Value) : Prop :=
  value.text? = other.text?

/-- Two sides differ in entries other than the operand. -/
structure SideAlike (side other : Json.Value) : Prop where
  object : side.members?.isSome = other.members?.isSome
  operand : EntryAlike "operand" TextAlike side other

/-- Two items differ in entries other than the operator, and their sides in
entries other than the operand. -/
structure ItemAlike (item other : Json.Value) : Prop where
  object : item.members?.isSome = other.members?.isSome
  side : ∀ side : Side, EntryAlike side.name SideAlike item other
  operator : EntryAlike "operator" TextAlike item other

/-- Two entries for the rules differ in what does not matter to their items. -/
inductive RulesAlike : Json.Value → Json.Value → Prop
  | same (value : Json.Value) : RulesAlike value value
  | single {members others : List (String × Json.Value)}
      (alike : ItemAlike (.object members) (.object others)) :
      RulesAlike (.object members) (.object others)
  | list {items others : List Json.Value} (alike : List.Forall₂ ItemAlike items others) :
      RulesAlike (.array items) (.array others)

/-- Two descriptions differ in entries other than that for the rules, and those in
what does not matter. -/
def DescriptionAlike (description other : Json.Value) : Prop :=
  EntryAlike "rules" RulesAlike description other

/-! ## Sides -/

section Side

variable {side : Side} {members others : List (String × Json.Value)} {rule : Rule}

theorem describedSide_eq_ok_iff :
    describedSide side members = .ok rule ↔
      ∃ operand, (Json.lookup side.name members).bind (Json.Value.field? · "operand") =
        some (.string operand) ∧ .leaf operand = rule := by
  rw [describedSide]
  split
  case h_1 entries found =>
    rw [found]
    change _ ↔ ∃ operand, Json.lookup "operand" entries = some (.string operand) ∧ _
    split
    case h_1 operand operand_eq => simp [operand_eq]
    case h_2 noText => simpa using fun operand operand_eq => absurd operand_eq (noText operand)
  case h_2 noObject =>
    simp only [reduceCtorEq, false_iff, not_exists, not_and]
    intro operand described
    rcases Option.bind_eq_some_iff.mp described with ⟨value, found, operand_eq⟩
    cases value with
    | object entries => exact absurd found (noObject entries)
    | _ => cases operand_eq

/-- A side reports the first of its requirements that is not met. -/
theorem describedSide_reportedBy :
    ReportedBy (sideRequirements side side.name (.object members))
      (describedSide side members) := by
  rw [describedSide, sideRequirements]
  change ReportedBy [⟨_, _, ∃ entries, Json.lookup side.name members = some (.object entries)⟩,
    ⟨_, _, ∃ operand, (Json.lookup side.name members).bind (Json.Value.field? · "operand") =
      some (.string operand)⟩] _
  split
  case h_1 entries found =>
    refine .cons_of_met ⟨entries, found⟩ ?_
    rw [found]
    change ReportedBy
      [⟨_, _, ∃ operand, Json.lookup "operand" entries = some (.string operand)⟩] _
    split
    case h_1 operand operand_eq => exact .cons_of_met ⟨operand, operand_eq⟩ (reportedBy_nil _)
    case h_2 noText => exact reportedBy_cons_of_not_met (not_exists.mpr noText) rfl
  case h_2 noObject => exact reportedBy_cons_of_not_met (not_exists.mpr noObject) rfl

/-- Alike entries are the same text, or neither is one. -/
theorem entryAlike_text_cases {value other : Option Json.Value}
    (alike : Option.Rel TextAlike value other) :
    (∃ text, value = some (.string text) ∧ other = some (.string text)) ∨
      (∀ text, value ≠ some (.string text)) ∧ ∀ text, other ≠ some (.string text) := by
  cases alike with
  | none => exact .inr (by simp)
  | @some value other alike =>
      rw [TextAlike] at alike
      cases value with
      | string text =>
          cases other with
          | string other =>
              cases alike
              exact .inl ⟨text, rfl, rfl⟩
          | _ => cases alike
      | _ =>
          cases other with
          | string other => cases alike
          | _ => exact .inr (by simp)

/-- What a side gives depends on whether it is an object and on its operand. -/
theorem describedSide_congr
    (alike : EntryAlike side.name SideAlike (.object members) (.object others)) :
    describedSide side members = describedSide side others := by
  change Option.Rel SideAlike (Json.lookup side.name members) (Json.lookup side.name others)
    at alike
  rw [describedSide, describedSide]
  generalize Json.lookup side.name members = value at alike
  generalize Json.lookup side.name others = other at alike
  cases alike with
  | none => rfl
  | @some value other alike =>
      cases value with
      | object entries =>
          cases other with
          | object others =>
              have operands : Option.Rel TextAlike (Json.lookup "operand" entries)
                (Json.lookup "operand" others) := alike.operand
              rcases entryAlike_text_cases operands with
                ⟨operand, here, there⟩ | ⟨here, there⟩
              · simp only [here, there]
              · dsimp only
                split
                case h_1 operand found => exact absurd found (here operand)
                case h_2 => rfl
          | _ => cases alike.object
      | _ =>
          cases other with
          | object others => cases alike.object
          | _ => rfl

end Side

/-! ## Items -/

theorem describedRule_eq_ok_iff {members : List (String × Json.Value)} {rule : Rule} :
    describedRule members = .ok rule ↔ DescribesRule (.object members) rule := by
  rw [describedRule]
  constructor
  · intro described
    rcases bind_eq_ok_iff.mp described with ⟨left, left_eq, described⟩
    rcases bind_eq_ok_iff.mp described with ⟨right, right_eq, described⟩
    rcases describedSide_eq_ok_iff.mp left_eq with ⟨leftText, leftOperand, rfl⟩
    rcases describedSide_eq_ok_iff.mp right_eq with ⟨rightText, rightOperand, rfl⟩
    split at described
    case h_1 operator operator_eq =>
      cases described
      exact .join operator_eq leftOperand rightOperand
    case h_2 => cases described
  · rintro ⟨operatorText, leftOperand, rightOperand⟩
    have left_eq := (@describedSide_eq_ok_iff .left members _).mpr ⟨_, leftOperand, rfl⟩
    have right_eq := (@describedSide_eq_ok_iff .right members _).mpr ⟨_, rightOperand, rfl⟩
    change Json.lookup "operator" members = _ at operatorText
    rw [left_eq, right_eq, operatorText]
    rfl

/-- An item gives a rule exactly if it describes it. -/
theorem describedItem_eq_ok_iff {item : Json.Value} {rule : Rule} :
    describedItem item = .ok rule ↔ DescribesRule item rule := by
  cases item with
  | object members => exact describedRule_eq_ok_iff
  | _ =>
      constructor
      · intro described
        cases described
      · rintro ⟨operatorText, -, -⟩
        cases operatorText

/-- An item reports the first of its requirements that is not met. -/
theorem describedItem_reportedBy (item : Json.Value) :
    ReportedBy (itemRequirements item) (describedItem item) := by
  cases item with
  | object members =>
      refine .cons_of_met ⟨members, rfl⟩ ?_
      refine describedSide_reportedBy.bind fun left _ => ?_
      refine describedSide_reportedBy.bind fun right _ => ?_
      change ReportedBy
        [⟨_, _, ∃ operator, Json.lookup "operator" members = some (.string operator)⟩] _
      split
      case h_1 operator found => exact .cons_of_met ⟨operator, found⟩ (reportedBy_nil _)
      case h_2 noText => exact reportedBy_cons_of_not_met (not_exists.mpr noText) rfl
  | _ => exact reportedBy_cons_of_not_met (by simp) rfl

/-- What an item gives depends on its operator and on the operands of its sides. -/
theorem describedItem_congr {item other : Json.Value} (alike : ItemAlike item other) :
    describedItem item = describedItem other := by
  cases item with
  | object members =>
      cases other with
      | object others =>
          have operators : Option.Rel TextAlike (Json.lookup "operator" members)
            (Json.lookup "operator" others) := alike.operator
          change describedRule members = describedRule others
          rw [describedRule, describedRule, describedSide_congr (alike.side .left),
            describedSide_congr (alike.side .right)]
          refine congrArg _ (funext fun left => congrArg _ (funext fun right => ?_))
          rcases entryAlike_text_cases operators with ⟨operator, here, there⟩ | ⟨here, there⟩
          · rw [here, there]
          · split
            case h_1 operator found => exact absurd found (here operator)
            case h_2 => rfl
      | _ => cases alike.object
  | _ =>
      cases other with
      | object others => cases alike.object
      | _ => rfl

/-! ## Lists of items -/

section Items

variable {items others : List Json.Value}

/-- A list gives rules exactly if its items describe them one by one. -/
theorem describedItems_eq_ok_iff {rules : List Rule} :
    describedItems items = .ok rules ↔ List.Forall₂ DescribesRule items rules := by
  induction items generalizing rules with
  | nil =>
      constructor
      · intro described
        cases described
        exact .nil
      · intro described
        cases described
        rfl
  | cons item items ih =>
      rw [describedItems]
      constructor
      · intro described
        rcases bind_eq_ok_iff.mp described with ⟨rule, item_eq, described⟩
        rcases bind_eq_ok_iff.mp described with ⟨later, items_eq, described⟩
        cases described
        exact .cons (describedItem_eq_ok_iff.mp item_eq) (ih.mp items_eq)
      · intro described
        cases described with
        | cons first later =>
            rw [describedItem_eq_ok_iff.mpr first, ih.mpr later]
            rfl

/-- A list reports the first requirement of its items that is not met, one item
after another. -/
theorem describedItems_reportedBy :
    ReportedBy (items.flatMap itemRequirements) (describedItems items) := by
  induction items with
  | nil => exact reportedBy_nil _
  | cons item items ih =>
      rw [List.flatMap_cons, describedItems]
      refine (describedItem_reportedBy item).bind fun rule _ => ?_
      rw [← List.append_nil (items.flatMap itemRequirements)]
      exact ih.bind fun rules _ => reportedBy_nil _

theorem describedItems_congr (alike : List.Forall₂ ItemAlike items others) :
    describedItems items = describedItems others := by
  induction alike with
  | nil => rfl
  | cons first _ ih => rw [describedItems, describedItems, describedItem_congr first, ih]

end Items

/-! ## Descriptions -/

variable {description other : Json.Value}

/-- A description is accepted exactly if it gives a rule, and that is the rule
that it gives. -/
theorem ofDescription_eq_ok_iff {rule : Rule} :
    ofDescription description = .ok rule ↔ Gives description rule := by
  constructor
  · intro accepted
    rw [ofDescription] at accepted
    split at accepted
    case h_1 => cases accepted
    case h_2 => cases accepted
    case h_3 items rules =>
      rcases bind_eq_ok_iff.mp accepted with ⟨described, items_eq, combined⟩
      rw [describedItems_eq_ok_iff] at items_eq
      cases described with
      | nil => cases combined
      | cons first later =>
          cases combined
          exact .list rules items_eq
    case h_4 members rules => exact .single rules (describedRule_eq_ok_iff.mp accepted)
    case h_5 => cases accepted
  · intro gives
    cases gives with
    | @single item rule rules described =>
        rw [ofDescription, rules]
        have item_eq := describedItem_eq_ok_iff.mpr described
        cases item with
        | object members => exact item_eq
        | _ => cases item_eq
    | list rules described =>
        rw [ofDescription, rules]
        change (describedItems _ >>= fun rules => _) = _
        rw [describedItems_eq_ok_iff.mpr described]
        rfl

/-- A description reports the first of its requirements that is not met. -/
theorem ofDescription_reportedBy (description : Json.Value) :
    ReportedBy (requirements description) (ofDescription description) := by
  rw [requirements, listedItems, ofDescription]
  generalize description.field? "rules" = entry
  rcases entry with - | (- | - | - | - | items | members)
  case some.array =>
    refine .cons_of_met ⟨_, by simp, rfl⟩ (.cons_of_met (.inl ⟨_, rfl⟩) ?_)
    refine describedItems_reportedBy.bind fun rules items_eq => ?_
    rw [describedItems_eq_ok_iff] at items_eq
    cases items_eq with
    | nil => exact reportedBy_cons_of_not_met (by simp) rfl
    | cons => exact .cons_of_met (by simp) (reportedBy_nil _)
  case some.object =>
    refine .cons_of_met ⟨_, by simp, rfl⟩ (.cons_of_met (.inr ⟨_, rfl⟩) ?_)
    change ReportedBy _ (describedRule members)
    rw [List.flatMap_singleton, ← bind_pure (describedRule members)]
    refine (describedItem_reportedBy (.object members)).bind fun rule _ => ?_
    exact .cons_of_met (by simp) (reportedBy_nil rule)
  case none => exact reportedBy_cons_of_not_met (by simp) rfl
  case some.null => exact reportedBy_cons_of_not_met (by simp) rfl
  all_goals exact .cons_of_met ⟨_, by simp, rfl⟩ (reportedBy_cons_of_not_met (by simp) rfl)

/-- What a description gives depends on its rules. -/
theorem ofDescription_congr (alike : DescriptionAlike description other) :
    ofDescription description = ofDescription other := by
  rw [DescriptionAlike, EntryAlike] at alike
  rw [ofDescription, ofDescription]
  generalize description.field? "rules" = entry at alike
  generalize other.field? "rules" = otherEntry at alike
  cases alike with
  | none => rfl
  | some rules =>
      cases rules with
      | same => rfl
      | single item => exact describedItem_congr item
      | list items =>
          change (describedItems _ >>= fun rules => _) = _
          rw [describedItems_congr items]

/-- A description is read by its shape.  It is accepted exactly if it gives a rule,
which is the one read; otherwise the first of its requirements that is not met is
reported, in the wording of that requirement; and no other entry matters for either. -/
theorem ofDescription_follows_shape (description : Json.Value) :
    (∀ rule, ofDescription description = .ok rule ↔ Gives description rule) ∧
    (∀ error, ofDescription description = .error error ↔
      FirstFails Requirement.Fails (requirements description) error) ∧
    ∀ other, DescriptionAlike description other →
      ofDescription other = ofDescription description :=
  ⟨fun _ => ofDescription_eq_ok_iff, ofDescription_reportedBy description,
    fun _ alike => (ofDescription_congr alike).symm⟩

/-- Two rules are accepted with an unknown operator and with further entries, of which
none matters.  A number as the first operand is reported before the side, the operator
and the item that are wrong behind it. -/
theorem ofDescription_follows_shape_of_several_rules :
    let noted : Json.Value := .object [("operator", .string "OR"), ("note", .array []),
      ("left", .object [("operator", .string "AND"), ("operand", .string " age > 30")]),
      ("right", .object [("operand", .string "team = b"), ("note", .bool true)])]
    let plain : Json.Value := .object [("operator", .string "OR"),
      ("left", .object [("operand", .string " age > 30")]),
      ("right", .object [("operand", .string "team = b")])]
    let other : Json.Value := .object [("left", .object [("operand", .string "a")]),
      ("right", .object [("operand", .string "")]), ("operator", .string "XOR")]
    let faulty : Json.Value := .object [("right", .null),
      ("left", .object [("operand", .number (.integer ⟨5, by decide, by decide⟩))])]
    ofDescription (.object [("note", .null), ("rules", .array [noted, other])]) =
      .ok (.join "AND" (.join "OR" (.leaf " age > 30") (.leaf "team = b"))
        (.join "XOR" (.leaf "a") (.leaf ""))) ∧
    ofDescription (.object [("note", .null), ("rules", .array [noted, other])]) =
      ofDescription (.object [("rules", .array [plain, other])]) ∧
    ∃ error, ofDescription (.object [("rules", .array [faulty, .null])]) = .error error ∧
      error.message = "Invalid rule structure: left.operand must be a string" := by
  intro noted plain other faulty
  refine ⟨?_, ?_, .invalidStructure (.operandKind .left), ?_, rfl⟩
  · apply ((ofDescription_follows_shape _).1 _).mpr
    exact .list rfl (.cons (.join rfl rfl rfl) (.cons (.join rfl rfl rfl) .nil))
  · apply (ofDescription_follows_shape _).2.2
    have sides (side : Side) : EntryAlike side.name SideAlike plain noted := by
      cases side <;> exact .some ⟨rfl, .some rfl⟩
    have same (side : Side) : EntryAlike side.name SideAlike other other := by
      cases side <;> exact .some ⟨rfl, .some rfl⟩
    exact .some (.list (.cons ⟨rfl, sides, .some rfl⟩ (.cons ⟨rfl, same, .some rfl⟩ .nil)))
  · apply ((ofDescription_follows_shape _).2.1 _).mpr
    refine ⟨_ :: _ :: _ :: _ :: [], _, _, rfl, ⟨?_, rfl, rfl⟩, ?_⟩
    · rintro ⟨operand, found⟩
      cases found
    · simp only [noneFails_cons, noneFails_nil, and_true]
      exact ⟨not_fails ⟨_, by simp, rfl⟩, not_fails (.inl ⟨_, rfl⟩), not_fails ⟨_, rfl⟩,
        not_fails ⟨_, rfl⟩⟩

end Eligibility.Rule
