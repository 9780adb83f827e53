import Eligibility.Proofs.Rule.Combined
import Eligibility.Proofs.Rule.Measure
import Eligibility.Proofs.Rule.Seam
import Eligibility.Proofs.Text.WordList
import Mathlib.Order.Bounds.Basic

/-!
# Levels and leaves of compiled and combined rules

A compiled rule is one long left spine, so it has as many levels as leaves, and one of
both for each connective of its text and one more.  When rules are combined from the
left, the first one comes to stand below all joins and each further one below its own
join and those behind it.  Their leaves add up, and the deepest of them decides the
depth of the whole.
-/

namespace Eligibility

open Eligibility.Text

/-! ## Connectives of a text -/

/-- The connectives among the words of a text, in text order. -/
def Connective.ofText (text : List Char) : List Connective :=
  (words text).filterMap fun letters => Connective.ofString? (String.ofList letters)

namespace Connective

theorem ofText_eq {text : List Char} (wording : Wording text) :
    ofText text = wording.words.filterMap fun word => ofString? (String.ofList word.letters) := by
  rw [ofText, wording.words_text, List.filterMap_map]
  rfl

theorem filterMap_of_isPlain {run : List Word} (plain : Segment.IsPlain run) :
    run.filterMap (fun word => ofString? (String.ofList word.letters)) = [] := by
  apply List.filterMap_eq_nil_iff.mpr
  intro word member
  exact ofString?_ofList_eq_none_iff.mpr (plain word member)

/-- Every clause has one connective. -/
theorem filterMap_clauses {clauses : List Clause}
    (conditions : ∀ clause ∈ clauses, IsCondition clause.run) :
    (clauses.flatMap Clause.words).filterMap
        (fun word => ofString? (String.ofList word.letters)) =
      clauses.map Clause.connective := by
  induction clauses with
  | nil => rfl
  | cons clause clauses ih =>
      obtain ⟨condition, laterConditions⟩ := List.forall_mem_cons.mp conditions
      have own : ofString? (String.ofList clause.connective.word.toList) =
          some clause.connective := by
        rw [String.ofList_toList, ofString?_word]
      rw [List.flatMap_cons, List.filterMap_append, ih laterConditions, Clause.words,
        List.filterMap_cons, own, filterMap_of_isPlain condition.plain]
      rfl

end Connective

namespace Rule

theorem connectives_of_compile {text : String} {rule : Rule} (compiled : compile text = .ok rule) :
    rule.connectives = (Connective.ofText text.toList).map Connective.word := by
  obtain ⟨reading, rfl⟩ := Reading.exists_of_compile_eq_ok compiled
  rw [Connective.ofText_eq reading.toWording, reading.words_eq, List.filterMap_append,
    Connective.filterMap_of_isPlain reading.first_isCondition.plain,
    Connective.filterMap_clauses reading.clauses_areConditions, Sentence.rule,
    Sentence.connectives_foldl_joinLeaf, Reading.sentence]
  simp [connectives, Clause.spelled]

theorem nestsLeft_of_compile {text : String} {rule : Rule} (compiled : compile text = .ok rule) :
    rule.NestsLeft := by
  obtain ⟨reading, rfl⟩ := Reading.exists_of_compile_eq_ok compiled
  exact Sentence.nestsLeft_foldl_joinLeaf trivial

/-! ## Levels and leaves of a tree -/

theorem leafCount_eq_length_leaves (rule : Rule) : rule.leafCount = rule.leaves.length := by
  induction rule with
  | leaf condition => rfl
  | join connective left right leftCount rightCount =>
      rw [leafCount, leaves, List.length_append, leftCount, rightCount]

theorem leafCount_eq (rule : Rule) : rule.leafCount = rule.connectives.length + 1 := by
  rw [leafCount_eq_length_leaves, length_leaves]

/-- A left spine has one level more than it has connectives. -/
theorem depth_of_nestsLeft {rule : Rule} (nested : rule.NestsLeft) :
    rule.depth = rule.connectives.length + 1 := by
  induction rule with
  | leaf condition => rfl
  | join connective left right leftDepth _ =>
      obtain ⟨leftNested, single⟩ := nested
      cases right with
      | join _ _ _ => cases single
      | leaf condition =>
          have levels : left.depth = left.connectives.length + 1 := leftDepth leftNested
          rw [depth, depth, levels, connectives, connectives, List.length_append]
          exact congrArg Nat.succ (Nat.max_eq_left (Nat.le_add_left 1 _))

/-! ## Combined rules -/

theorem leafCount_of_combineAll {connective : String} {rules : List Rule} {combined : Rule}
    (known : combineAll connective rules = .ok combined) :
    combined.leafCount = (rules.map leafCount).sum := by
  rw [leafCount_eq_length_leaves, leaves_of_combineAll known, List.length_flatMap,
    funext leafCount_eq_length_leaves]

/-- A level that one of several combined rules reaches: the first rule stands below all
joins, and each further one below its own join and those behind it. -/
def ReachedLevel (first : Rule) (others : List Rule) (level : Nat) : Prop :=
  level = first.depth + others.length ∨
    ∃ position rule, others[position]? = some rule ∧
      level = rule.depth + (others.length - position)

/-- To join the second rule first changes no level that is the deepest one. -/
theorem isGreatest_reachedLevel_of_join {connective : String} {first next : Rule}
    {others : List Rule} {deepest : Nat}
    (greatest : IsGreatest {level | ReachedLevel (join connective first next) others level}
      deepest) :
    IsGreatest {level | ReachedLevel first (next :: others) level} deepest := by
  obtain ⟨reached, bound⟩ := greatest
  have below : max first.depth next.depth + 1 + others.length ≤ deepest := bound (.inl rfl)
  constructor
  · rcases reached with top | ⟨position, rule, found, level_eq⟩
    · rw [depth] at top
      rcases Nat.le_total next.depth first.depth with deeper | deeper
      · rw [Nat.max_eq_left deeper] at top
        exact .inl (by rw [top, List.length_cons]; omega)
      · rw [Nat.max_eq_right deeper] at top
        exact .inr ⟨0, next, rfl, by rw [top, List.length_cons]; omega⟩
    · exact .inr ⟨position + 1, rule, found, by rw [level_eq, List.length_cons]; omega⟩
  · rintro level (rfl | ⟨_ | position, rule, found, rfl⟩)
    · rw [List.length_cons]
      omega
    · cases found
      rw [List.length_cons]
      omega
    · have later := bound (.inr ⟨position, rule, found, rfl⟩)
      rw [List.length_cons]
      omega

/-- The depth of combined rules is the deepest level that one of them reaches. -/
theorem isGreatest_depth_foldl_join (connective : String) (first : Rule) (others : List Rule) :
    IsGreatest {level | ReachedLevel first others level}
      (others.foldl (join connective) first).depth := by
  induction others generalizing first with
  | nil =>
      refine ⟨.inl rfl, ?_⟩
      rintro level (rfl | ⟨position, rule, found, -⟩)
      · exact Nat.le_refl _
      · cases found
  | cons next others ih => exact isGreatest_reachedLevel_of_join (ih (join connective first next))

/-- The walks end after as many steps as the rule has nodes, with the depth and the
number of leaves that are defined by recursion on the tree.  A text compiles to a rule
with as many levels as leaves, which is one more than it has connectives.  Combined
rules have all the leaves together, and the depth is the deepest level that one of
them reaches below the joins. -/
theorem walks_end_with_measures :
    (∀ rule : Rule,
      (∀ steps, rule.size ≤ steps →
        depthStep^[steps] (0, [(rule, 1)]) = (rule.measuredDepth, []) ∧
        leafStep^[steps] (0, [rule]) = (rule.measuredLeafCount, [])) ∧
      rule.measuredDepth = rule.depth ∧ rule.measuredLeafCount = rule.leafCount) ∧
    (∀ text rule, compile text = .ok rule →
      rule.measuredDepth = rule.measuredLeafCount ∧
      rule.measuredLeafCount = 1 + (Connective.ofText text.toList).length) ∧
    ∀ connective first others, ∃ combined,
      combineAll connective (first :: others) = .ok combined ∧
      combined.measuredLeafCount = ((first :: others).map measuredLeafCount).sum ∧
      IsGreatest {level | level = first.measuredDepth + others.length ∨
        ∃ position rule, others[position]? = some rule ∧
          level = rule.measuredDepth + (others.length - position)} combined.measuredDepth := by
  refine ⟨fun rule => ⟨fun steps enough => ⟨iterate_depthStep enough, iterate_leafStep enough⟩,
    rule.measuredDepth_eq_depth, rule.measuredLeafCount_eq_leafCount⟩, ?_, ?_⟩
  · intro text rule compiled
    have counted : rule.connectives.length = (Connective.ofText text.toList).length := by
      rw [connectives_of_compile compiled, List.length_map]
    rw [measuredDepth_eq_depth, measuredLeafCount_eq_leafCount,
      depth_of_nestsLeft (nestsLeft_of_compile compiled), leafCount_eq, counted]
    exact ⟨rfl, Nat.add_comm _ _⟩
  · intro connective first others
    refine ⟨_, rfl, ?_, ?_⟩
    · simp only [funext measuredLeafCount_eq_leafCount]
      exact leafCount_of_combineAll rfl
    · simp only [measuredDepth_eq_depth]
      exact isGreatest_depth_foldl_join connective first others

/-- A word that only begins like a connective is none. -/
theorem walks_end_with_measures_of_three_conditions :
    let rule : Rule := join "OR" (join "AND" (leaf "a = 1") (leaf "b = ORDER")) (leaf "c < 3")
    compile " a = 1 AND\tb = ORDER  OR c < 3 " = .ok rule ∧
      rule.measuredDepth = 3 ∧ rule.measuredLeafCount = 3 ∧
      depthStep^[5] (0, [(rule, 1)]) = (3, []) ∧ leafStep^[5] (0, [rule]) = (3, []) := by
  intro rule
  have compiled : compile " a = 1 AND\tb = ORDER  OR c < 3 " = .ok rule := by
    decide +kernel
  have connectives :
      (Connective.ofText " a = 1 AND\tb = ORDER  OR c < 3 ".toList).length = 2 := by
    decide +kernel
  obtain ⟨levels, leaves⟩ := walks_end_with_measures.2.1 _ rule compiled
  obtain ⟨depthWalk, leafWalk⟩ := (walks_end_with_measures.1 rule).1 5 (by decide)
  rw [connectives] at leaves
  rw [leaves] at levels leafWalk
  rw [levels] at depthWalk
  exact ⟨compiled, levels, leaves, depthWalk, leafWalk⟩

end Rule

end Eligibility
