import Eligibility.Rule.Measure
import Mathlib.Algebra.GroupWithZero.Nat
import Mathlib.Logic.Function.Iterate

/-!
# The stacked measures

A walk over stacked subtrees keeps what it has found so far and what is still
below the stack.  Each step moves one node from the second to the first, so the
walk ends with the measure that is defined by recursion on the tree, after as many
steps as the tree has nodes.
-/

namespace Eligibility.Rule

/-! ## What a walk finds -/

/-- The deepest level below stacked subtrees, or the level reached so far if
that is deeper. -/
def deepestLevel (reached : Nat) : List (Rule × Nat) → Nat
  | [] => reached
  | (rule, level) :: stack => max (level + rule.depth - 1) (deepestLevel reached stack)

theorem depth_pos (rule : Rule) : 0 < rule.depth := by
  cases rule <;> simp [depth]

theorem deepestLevel_max (reached level : Nat) (stack : List (Rule × Nat)) :
    deepestLevel (max reached level) stack = max level (deepestLevel reached stack) := by
  induction stack with
  | nil => exact Nat.max_comm reached level
  | cons top stack ih => rw [deepestLevel, deepestLevel, ih, Nat.max_left_comm]

theorem level_add_depth_join (connective : String) (left right : Rule) (level : Nat) :
    level + (join connective left right).depth - 1 =
      max (level + 1 + right.depth - 1) (level + 1 + left.depth - 1) := by
  rw [depth]
  omega

/-- The walk finds the deepest level. -/
theorem deepest_eq_deepestLevel (reached : Nat) (stack : List (Rule × Nat)) :
    deepest reached stack = deepestLevel reached stack := by
  induction reached, stack using deepest.induct with
  | case1 reached => rw [deepest, deepestLevel]
  | case2 reached condition level stack ih =>
      rw [deepest, ih, deepestLevel_max, deepestLevel]
      rfl
  | case3 reached connective left right level stack ih =>
      have below : level ≤ level + 1 + right.depth - 1 := by omega
      rw [deepest, ih, deepestLevel, deepestLevel, deepestLevel, deepestLevel_max,
        level_add_depth_join, ← Nat.max_assoc, ← Nat.max_assoc]
      omega

/-- The number of levels that is found with a stack is the depth of the tree. -/
theorem measuredDepth_eq_depth (rule : Rule) : rule.measuredDepth = rule.depth := by
  have positive := rule.depth_pos
  rw [measuredDepth, deepest_eq_deepestLevel, deepestLevel, deepestLevel]
  omega

/-- The walk counts the leaves of all stacked subtrees. -/
theorem countLeaves_eq_add_sum (counted : Nat) (stack : List Rule) :
    countLeaves counted stack = counted + (stack.map leafCount).sum := by
  induction counted, stack using countLeaves.induct with
  | case1 counted => rw [countLeaves, List.map_nil, List.sum_nil, Nat.add_zero]
  | case2 counted condition stack ih =>
      rw [countLeaves, ih, List.map_cons, List.sum_cons, leafCount, Nat.add_assoc]
  | case3 counted connective left right stack ih =>
      rw [countLeaves, ih]
      simp only [List.map_cons, List.sum_cons, leafCount]
      omega

/-- The number of leaves that is found with a stack is that of the tree. -/
theorem measuredLeafCount_eq_leafCount (rule : Rule) :
    rule.measuredLeafCount = rule.leafCount := by
  rw [measuredLeafCount, countLeaves_eq_add_sum, List.map_singleton, List.sum_singleton,
    Nat.zero_add]

/-! ## How long a walk takes -/

/-- One step of the walk for the depth, from the level reached so far and the stacked
subtrees.  With nothing on the stack the walk stands still. -/
def depthStep : Nat × List (Rule × Nat) → Nat × List (Rule × Nat)
  | (reached, []) => (reached, [])
  | (reached, (leaf _, level) :: stack) => (max reached level, stack)
  | (reached, (join _ left right, level) :: stack) =>
      (max reached level, (right, level + 1) :: (left, level + 1) :: stack)

/-- One step of the walk for the number of leaves, from the number counted so far and
the stacked subtrees.  With nothing on the stack the walk stands still. -/
def leafStep : Nat × List Rule → Nat × List Rule
  | (counted, []) => (counted, [])
  | (counted, leaf _ :: stack) => (counted + 1, stack)
  | (counted, join _ left right :: stack) => (counted, right :: left :: stack)

theorem leveledSize_eq_zero_iff {stack : List (Rule × Nat)} :
    leveledSize stack = 0 ↔ stack = [] := by
  cases stack with
  | nil => simp [leveledSize]
  | cons top stack => simp [leveledSize, Nat.ne_of_gt top.1.size_pos]

theorem stackedSize_eq_zero_iff {stack : List Rule} : stackedSize stack = 0 ↔ stack = [] := by
  cases stack with
  | nil => simp [stackedSize]
  | cons top stack => simp [stackedSize, Nat.ne_of_gt top.size_pos]

/-- A step takes one node off the stack. -/
theorem leveledSize_depthStep (state : Nat × List (Rule × Nat)) :
    leveledSize (depthStep state).2 = leveledSize state.2 - 1 := by
  match state with
  | (reached, []) => rfl
  | (reached, (leaf condition, level) :: stack) =>
      simp only [depthStep, leveledSize, size]
      omega
  | (reached, (join connective left right, level) :: stack) =>
      simp only [depthStep, leveledSize, size]
      omega

/-- A step takes one node off the stack. -/
theorem stackedSize_leafStep (state : Nat × List Rule) :
    stackedSize (leafStep state).2 = stackedSize state.2 - 1 := by
  match state with
  | (counted, []) => rfl
  | (counted, leaf condition :: stack) =>
      simp only [leafStep, stackedSize, size]
      omega
  | (counted, join connective left right :: stack) =>
      simp only [leafStep, stackedSize, size]
      omega

theorem deepest_depthStep (state : Nat × List (Rule × Nat)) :
    deepest (depthStep state).1 (depthStep state).2 = deepest state.1 state.2 := by
  match state with
  | (reached, []) => rfl
  | (reached, (leaf condition, level) :: stack) => rw [depthStep, deepest]
  | (reached, (join connective left right, level) :: stack) => rw [depthStep, deepest]

theorem countLeaves_leafStep (state : Nat × List Rule) :
    countLeaves (leafStep state).1 (leafStep state).2 = countLeaves state.1 state.2 := by
  match state with
  | (counted, []) => rfl
  | (counted, leaf condition :: stack) => rw [leafStep, countLeaves]
  | (counted, join connective left right :: stack) => rw [leafStep, countLeaves]

section Walk

variable {Item : Type} {step : Nat × List Item → Nat × List Item} {nodes : List Item → Nat}
  {found : Nat → List Item → Nat}

/-- If every step takes one node off and keeps what will be found, then any number of
steps takes off as many nodes and keeps it too. -/
theorem iterate_step (taken : ∀ state, nodes (step state).2 = nodes state.2 - 1)
    (kept : ∀ state, found (step state).1 (step state).2 = found state.1 state.2)
    (steps : Nat) (state : Nat × List Item) :
    nodes (step^[steps] state).2 = nodes state.2 - steps ∧
      found (step^[steps] state).1 (step^[steps] state).2 = found state.1 state.2 := by
  induction steps with
  | zero => exact ⟨rfl, rfl⟩
  | succ steps ih =>
      rw [Function.iterate_succ_apply', taken, kept, ih.1, ih.2]
      exact ⟨Nat.sub_sub _ _ _, rfl⟩

/-- Such a walk has ended with what there was to find after as many steps as there are
nodes. -/
theorem iterate_ends (taken : ∀ state, nodes (step state).2 = nodes state.2 - 1)
    (kept : ∀ state, found (step state).1 (step state).2 = found state.1 state.2)
    (nodes_eq_zero_iff : ∀ {stack}, nodes stack = 0 ↔ stack = [])
    (found_nil : ∀ reached, found reached [] = reached) {reached steps : Nat}
    {stack : List Item} (enough : nodes stack ≤ steps) :
    step^[steps] (reached, stack) = (found reached stack, []) := by
  obtain ⟨left, same⟩ := iterate_step taken kept steps (reached, stack)
  have ended : (step^[steps] (reached, stack)).2 = [] := by
    apply nodes_eq_zero_iff.mp
    rw [left]
    exact Nat.sub_eq_zero_of_le enough
  rw [ended, found_nil] at same
  exact Prod.ext same ended

end Walk

variable {rule : Rule} {steps : Nat}

theorem iterate_depthStep (enough : rule.size ≤ steps) :
    depthStep^[steps] (0, [(rule, 1)]) = (rule.measuredDepth, []) :=
  iterate_ends leveledSize_depthStep deepest_depthStep leveledSize_eq_zero_iff
    (fun _ => by rw [deepest]) enough

theorem iterate_leafStep (enough : rule.size ≤ steps) :
    leafStep^[steps] (0, [rule]) = (rule.measuredLeafCount, []) :=
  iterate_ends stackedSize_leafStep countLeaves_leafStep stackedSize_eq_zero_iff
    (fun _ => by rw [countLeaves]) enough

end Eligibility.Rule
