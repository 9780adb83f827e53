import Eligibility.Proofs.Rule.Combined
import Eligibility.Proofs.Rule.Described
import Eligibility.Proofs.Rule.Seam

/-!
# Described pairs

A description and a rule text are two ways to write a pair of conditions with a
connective between them.  The description takes both conditions over as they
are, the text loses the blank text around them, so the two rules are the same
exactly if there is none to lose.  Their verdicts never differ, also for a list
of pairs; only the wording of an error tells which text was kept.
-/

namespace Eligibility

open Eligibility.Text

namespace RuleError

/-- An error that words a condition without the blank text around it. -/
def trimmed : RuleError → RuleError
  | invalidOperand text => invalidOperand (String.ofList (trim text.toList))
  | error => error

end RuleError

namespace Connective

theorem mapError_combine (connective : Connective) (change : RuleError → RuleError)
    (left right : Except RuleError Bool) :
    (connective.combine left right).mapError change =
      connective.combine (left.mapError change) (right.mapError change) := by
  cases left with
  | error error => rfl
  | ok verdict =>
      cases right with
      | error error => rfl
      | ok rightVerdict => cases connective <;> rfl

end Connective

namespace Rule

/-! ## Rules combined with AND -/

/-- The first error on a list of rules, or else whether all of them hold. -/
def evaluateAll (record : Record) (rules : List Rule) : Except RuleError Bool :=
  (rules.mapM (evaluate record)).map fun verdicts => verdicts.all id

theorem evaluateAll_cons (record : Record) (rule : Rule) (rules : List Rule) :
    evaluateAll record (rule :: rules) =
      Connective.and.combine (evaluate record rule) (evaluateAll record rules) := by
  rw [evaluateAll, evaluateAll, List.mapM_cons]
  cases evaluate record rule with
  | error error => rfl
  | ok verdict => cases rules.mapM (evaluate record) <;> rfl

theorem exists_combineAll_eq_ok (connective : String) {rules : List Rule} (nonempty : rules ≠ []) :
    ∃ combined, combineAll connective rules = .ok combined := by
  cases rules with
  | nil => contradiction
  | cons first others => exact ⟨_, rfl⟩

theorem evaluateAll_eq_conclude (record : Record) (rules : List Rule) :
    evaluateAll record rules = Connective.and.conclude (evaluate record) rules := by
  induction rules with
  | nil => rfl
  | cons rule rules ih => rw [evaluateAll_cons, ih, Connective.conclude_cons]

/-- A rule combined with AND from a list is the conjunction of the list. -/
theorem evaluate_combineAll_and {rules : List Rule} {combined : Rule} (record : Record)
    (known : combineAll Connective.and.word rules = .ok combined) :
    evaluate record combined = evaluateAll record rules := by
  rw [evaluate_combineAll record known, evaluateAll_eq_conclude]

/-! ## Conditions with blank text around them -/

/-- A text that is a single condition compiles to it without the blank text
around it. -/
theorem toList_of_compile_eq_leaf {text condition : String}
    (compiled : compile text = .ok (.leaf condition)) :
    condition.toList = trim text.toList := by
  rcases Reading.exists_of_compile_eq_ok compiled with ⟨reading, rule_eq⟩
  have noClause : reading.clauses = [] := by
    rcases List.eq_nil_or_concat' reading.clauses with empty | ⟨clauses, clause, clauses_eq⟩
    · exact empty
    · rw [Reading.sentence, clauses_eq, Sentence.rule, List.map_append, List.map_singleton,
        List.foldl_append] at rule_eq
      cases rule_eq
  have words_eq : reading.words = reading.first := by
    rw [reading.words_eq, noClause, List.flatMap_nil, List.append_nil]
  rw [Reading.sentence, noClause] at rule_eq
  cases rule_eq
  rw [String.toList_ofList, ← words_eq, reading.toWording.span_words]

theorem check_ne_invalidOperand (condition : Condition) (record : Record) (text : String) :
    condition.check record ≠ .error (.invalidOperand text) := by
  intro failed
  rcases Condition.error_of_check failed with field | ⟨symbol, comparator⟩ | literal
  · cases field
  · cases comparator
  · cases literal

theorem eq_of_checkLeaf_eq_invalidOperand {text reported : String} {record : Record}
    (failed : checkLeaf text record = .error (.invalidOperand reported)) : reported = text := by
  rcases error_of_checkLeaf failed with same | ⟨condition, -, checked⟩
  · cases same
    rfl
  · exact absurd checked (check_ne_invalidOperand condition record reported)

/-- A condition that is reported is one of those in the rule. -/
theorem mem_leaves_of_evaluate_eq_invalidOperand {rule : Rule} {reported : String}
    {record : Record} (failed : evaluate record rule = .error (.invalidOperand reported)) :
    reported ∈ rule.leaves := by
  induction rule with
  | leaf text =>
      rw [eq_of_checkLeaf_eq_invalidOperand failed]
      exact List.mem_cons_self
  | join connective left right leftMem rightMem =>
      rcases evaluate_join_eq_error_iff.mp failed with
        leftFailed | ⟨-, rightFailed | ⟨-, -, unknown⟩⟩
      · exact List.mem_append_left _ (leftMem leftFailed)
      · exact List.mem_append_right _ (rightMem rightFailed)
      · cases unknown

/-- The blank text around a condition shows in its own report only. -/
theorem mapError_checkLeaf {text condition : String}
    (compiled : compile text = .ok (.leaf condition)) (record : Record) :
    (checkLeaf text record).mapError RuleError.trimmed = checkLeaf condition record := by
  have condition_eq := toList_of_compile_eq_leaf compiled
  have same : trim condition.toList = trim text.toList := by
    rw [condition_eq, trim_trim]
  rw [checkLeaf, checkLeaf, Condition.parse, Condition.parse, same]
  cases Condition.ofTrimmed? (trim text.toList) with
  | none =>
      change Except.error (RuleError.invalidOperand (String.ofList (trim text.toList))) = _
      rw [← condition_eq, String.ofList_toList]
      rfl
  | some parsed =>
      change (parsed.check record).mapError RuleError.trimmed = parsed.check record
      cases checked : parsed.check record with
      | ok verdict => rfl
      | error error =>
          cases error with
          | invalidOperand reported =>
              exact absurd checked (check_ne_invalidOperand parsed record reported)
          | _ => rfl

/-! ## Pairs -/

/-- Two conditions with a connective between them. -/
structure Pair where
  connective : Connective
  left : String
  right : String

/-- A text that is a single condition, perhaps with blank text around it. -/
def IsSingle (text : String) : Prop :=
  ∃ condition, compile text = .ok (.leaf condition)

namespace Pair

/-- The rule that joins the two conditions as they are. -/
def rule (pair : Pair) : Rule :=
  .join pair.connective.word (.leaf pair.left) (.leaf pair.right)

/-- The rule text for a pair. -/
def text (pair : Pair) (seam : Seam) : String :=
  seam.join pair.connective pair.left pair.right

/-- A JSON value describes a pair.  Its further entries do not matter. -/
structure Describes (description : Json.Value) (pair : Pair) : Prop where
  operator : description.field? "operator" = some (.string pair.connective.word)
  left : (description.field? "left").bind (Json.Value.field? · "operand") =
    some (.string pair.left)
  right : (description.field? "right").bind (Json.Value.field? · "operand") =
    some (.string pair.right)

/-- The description of a pair without further entries. -/
def description (pair : Pair) : Json.Value :=
  .object [("operator", .string pair.connective.word),
    ("left", .object [("operand", .string pair.left)]),
    ("right", .object [("operand", .string pair.right)])]

theorem describes_description (pair : Pair) : Describes pair.description pair :=
  ⟨rfl, rfl, rfl⟩

theorem Describes.describesRule {description : Json.Value} {pair : Pair}
    (described : Describes description pair) : DescribesRule description pair.rule :=
  .join described.operator described.left described.right

theorem ofDescription_eq {description item : Json.Value} {pair : Pair}
    (rules : description.field? "rules" = some item) (described : Describes item pair) :
    ofDescription description = .ok pair.rule :=
  ofDescription_eq_ok_iff.mpr (.single rules described.describesRule)

/-- A description of several pairs combines their rules with AND. -/
theorem ofDescription_array_eq {description : Json.Value} {items : List Json.Value}
    {pairs : List Pair} (rules : description.field? "rules" = some (.array items))
    (described : List.Forall₂ Describes items pairs) (nonempty : pairs ≠ []) :
    ofDescription description = combineAll Connective.and.word (pairs.map rule) := by
  have each : List.Forall₂ DescribesRule items (pairs.map rule) :=
    List.forall₂_map_right_iff.mpr (described.imp fun _ _ => Describes.describesRule)
  cases pairs with
  | nil => contradiction
  | cons pair pairs => exact ofDescription_eq_ok_iff.mpr (.list rules each)

variable {pair : Pair} {seam : Seam}

/-- The text of a pair compiles to the rule of its conditions as they are exactly
if both are single conditions without blank text around them. -/
theorem compile_text_eq_rule_iff :
    compile (pair.text seam) = .ok pair.rule ↔
      compile pair.left = .ok (.leaf pair.left) ∧ compile pair.right = .ok (.leaf pair.right) := by
  rw [text, compile_join_eq_ok_iff]
  constructor
  · rintro ⟨left, right, leftCompiled, rightCompiled, joined⟩
    cases right with
    | leaf condition =>
        cases joined
        exact ⟨leftCompiled, rightCompiled⟩
    | join connective first second =>
        have conditions_eq := congrArg leaves joined
        rw [leaves_goOn] at conditions_eq
        have counted := congrArg List.length conditions_eq
        have leftCount := left.length_leaves
        have firstCount := first.length_leaves
        have secondCount := second.length_leaves
        simp only [rule, leaves, List.length_append, List.length_singleton] at counted
        omega
  · rintro ⟨leftCompiled, rightCompiled⟩
    exact ⟨_, _, leftCompiled, rightCompiled, rfl⟩

/-- The text of two single conditions compiles to a rule with the verdicts of the
conditions as they are. -/
theorem exists_compile_text_eq (leftSingle : IsSingle pair.left)
    (rightSingle : IsSingle pair.right) :
    ∃ compiled, (∀ seam : Seam, compile (pair.text seam) = .ok compiled) ∧
      ∀ record, (evaluate record pair.rule).mapError RuleError.trimmed =
        evaluate record compiled := by
  rcases leftSingle with ⟨left, leftCompiled⟩
  rcases rightSingle with ⟨right, rightCompiled⟩
  refine ⟨.join pair.connective.word (.leaf left) (.leaf right),
    fun seam => compile_join_of_leaf leftCompiled rightCompiled, ?_⟩
  intro record
  rw [rule, evaluate_join_word, evaluate_join_word, Connective.mapError_combine]
  exact congrArg₂ pair.connective.combine (mapError_checkLeaf leftCompiled record)
    (mapError_checkLeaf rightCompiled record)

/-- The texts of pairs of single conditions compile to rules that hold together
exactly if the rules of the conditions as they are do. -/
theorem exists_compile_texts_eq {pairs : List Pair}
    (single : ∀ pair ∈ pairs, IsSingle pair.left ∧ IsSingle pair.right) :
    ∃ rules, List.Forall₂ (fun pair compiled => ∀ seam : Seam,
        compile (text pair seam) = .ok compiled) pairs rules ∧
      ∀ record, (evaluateAll record (pairs.map rule)).mapError RuleError.trimmed =
        evaluateAll record rules := by
  induction pairs with
  | nil => exact ⟨[], .nil, fun _ => rfl⟩
  | cons pair pairs ih =>
      rcases List.forall_mem_cons.mp single with ⟨⟨leftSingle, rightSingle⟩, laterSingle⟩
      rcases exists_compile_text_eq leftSingle rightSingle with ⟨compiled, compiles, same⟩
      rcases ih laterSingle with ⟨rules, laterCompile, laterSame⟩
      refine ⟨compiled :: rules, .cons compiles laterCompile, fun record => ?_⟩
      rw [List.map_cons, evaluateAll_cons, evaluateAll_cons, Connective.mapError_combine,
        same record, laterSame record]

/-- A description and a rule text agree.  A described pair has the rule of its text
exactly if both conditions are single and have no blank text around them.  With
blank text around them, the described pairs of a list hold together exactly if
the rules of their texts do, and they fail with the first error among those,
except that a condition that cannot be taken apart is reported as described. -/
theorem ofDescription_agrees_with_compile :
    (∀ (pair : Pair) (seam : Seam) (description item : Json.Value),
      description.field? "rules" = some item → Describes item pair →
      (ofDescription description = compile (pair.text seam) ↔
        compile pair.left = .ok (.leaf pair.left) ∧
        compile pair.right = .ok (.leaf pair.right))) ∧
    ∀ (pairs : List Pair) (description : Json.Value) (items : List Json.Value),
      description.field? "rules" = some (.array items) → List.Forall₂ Describes items pairs →
      pairs ≠ [] → (∀ pair ∈ pairs, IsSingle pair.left ∧ IsSingle pair.right) →
      ∃ tree rules, ofDescription description = .ok tree ∧
        List.Forall₂ (fun pair compiled => ∀ seam : Seam,
          compile (text pair seam) = .ok compiled) pairs rules ∧
        ∀ record,
          (evaluate record tree).mapError RuleError.trimmed = evaluateAll record rules ∧
          ∀ reported, evaluate record tree = .error (.invalidOperand reported) →
            ∃ pair ∈ pairs, reported = pair.left ∨ reported = pair.right := by
  constructor
  · intro pair seam description item rules described
    rw [ofDescription_eq rules described, eq_comm]
    exact compile_text_eq_rule_iff
  · intro pairs description items rules described nonempty single
    rcases exists_compile_texts_eq single with ⟨compiled, compiles, same⟩
    rcases exists_combineAll_eq_ok Connective.and.word (mt List.map_eq_nil_iff.mp nonempty) with
      ⟨tree, combined⟩
    refine ⟨tree, compiled, ?_, compiles, fun record => ⟨?_, ?_⟩⟩
    · rw [ofDescription_array_eq rules described nonempty, combined]
    · rw [evaluate_combineAll_and record combined]
      exact same record
    · intro reported failed
      have member := mem_leaves_of_evaluate_eq_invalidOperand failed
      rw [leaves_of_combineAll combined, List.mem_flatMap] at member
      rcases member with ⟨rule, ruleMem, reportedMem⟩
      rcases List.mem_map.mp ruleMem with ⟨pair, pairMem, rfl⟩
      exact ⟨pair, pairMem, by simpa [rule, leaves] using reportedMem⟩

/-- A condition with a space in its field and blank text around it is single, but
cannot be taken apart. -/
theorem ofDescription_agrees_with_compile_of_blank_text :
    (ofDescription (.object [("rules", (Pair.mk .or "age > 30" "team = 'b c'").description)]) =
        compile "age > 30 OR team = 'b c'" ↔
      compile "age > 30" = .ok (.leaf "age > 30") ∧
      compile "team = 'b c'" = .ok (.leaf "team = 'b c'")) ∧
    ∃ tree rules,
      ofDescription (.object [("rules", .array [(Pair.mk .or " age > 30" "team = b").description,
        (Pair.mk .and "age < 60" "\tfirst name = c ").description])]) = .ok tree ∧
      List.Forall₂ (fun pair compiled => ∀ seam : Seam, compile (text pair seam) = .ok compiled)
        [⟨.or, " age > 30", "team = b"⟩, ⟨.and, "age < 60", "\tfirst name = c "⟩] rules ∧
      ∀ record,
        (evaluate record tree).mapError RuleError.trimmed = evaluateAll record rules ∧
        ∀ reported, evaluate record tree = .error (.invalidOperand reported) →
          ∃ pair ∈ [Pair.mk .or " age > 30" "team = b", ⟨.and, "age < 60", "\tfirst name = c "⟩],
            reported = pair.left ∨ reported = pair.right := by
  let space : Seam := ⟨" ", " ", by decide, by decide, by decide, by decide⟩
  have ageSingle : compile " age > 30" = .ok (.leaf "age > 30") := by decide +kernel
  have teamSingle : compile "team = b" = .ok (.leaf "team = b") := by decide +kernel
  have limitSingle : compile "age < 60" = .ok (.leaf "age < 60") := by decide +kernel
  have nameSingle : compile "\tfirst name = c " = .ok (.leaf "first name = c") := by
    decide +kernel
  constructor
  · exact ofDescription_agrees_with_compile.1 ⟨.or, "age > 30", "team = 'b c'"⟩ space _ _ rfl
      (describes_description _)
  · refine ofDescription_agrees_with_compile.2 [⟨.or, " age > 30", "team = b"⟩,
      ⟨.and, "age < 60", "\tfirst name = c "⟩] _ _ rfl ?_ (List.cons_ne_nil _ _) ?_
    · exact .cons (describes_description _) (.cons (describes_description _) .nil)
    · rw [List.forall_mem_cons, List.forall_mem_singleton]
      exact ⟨⟨⟨_, ageSingle⟩, ⟨_, teamSingle⟩⟩, ⟨⟨_, limitSingle⟩, ⟨_, nameSingle⟩⟩⟩

end Pair

end Rule

end Eligibility
