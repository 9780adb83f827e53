import Eligibility.Rule.Basic

/-!
# Depth and number of leaves

Both measures are defined by recursion on the tree.  A rule compiled from a
long text is one long left spine, so each measure also has a form that walks
over the tree with a stack of the subtrees still to visit, and calls itself only
at its very end.  The walk ends because every step takes one node off the
stacked trees.
-/

namespace Eligibility.Rule

/-- The number of levels; a leaf has one. -/
def depth : Rule → Nat
  | leaf _ => 1
  | join _ left right => max left.depth right.depth + 1

/-- The number of leaves. -/
def leafCount : Rule → Nat
  | leaf _ => 1
  | join _ left right => left.leafCount + right.leafCount

/-- The number of nodes. -/
def size : Rule → Nat
  | leaf _ => 1
  | join _ left right => left.size + right.size + 1

/-- Every rule has a node. -/
theorem size_pos (rule : Rule) : 0 < rule.size := by
  cases rule <;> simp [size]

/-- The number of nodes of subtrees that are stacked with their levels. -/
def leveledSize : List (Rule × Nat) → Nat
  | [] => 0
  | (rule, _) :: stack => rule.size + leveledSize stack

/-- The number of nodes of stacked subtrees. -/
def stackedSize : List Rule → Nat
  | [] => 0
  | rule :: stack => rule.size + stackedSize stack

theorem leveledSize_leaf (condition : String) (level : Nat) (stack : List (Rule × Nat)) :
    leveledSize stack < leveledSize ((leaf condition, level) :: stack) :=
  Nat.lt_add_of_pos_left (size_pos _)

theorem leveledSize_join (connective : String) (left right : Rule) (level : Nat)
    (stack : List (Rule × Nat)) :
    leveledSize ((right, level + 1) :: (left, level + 1) :: stack) <
      leveledSize ((join connective left right, level) :: stack) := by
  simp only [leveledSize, size]
  omega

theorem stackedSize_leaf (condition : String) (stack : List Rule) :
    stackedSize stack < stackedSize (leaf condition :: stack) :=
  Nat.lt_add_of_pos_left (size_pos _)

theorem stackedSize_join (connective : String) (left right : Rule) (stack : List Rule) :
    stackedSize (right :: left :: stack) < stackedSize (join connective left right :: stack) := by
  simp only [stackedSize, size]
  omega

/-- The deepest level reached so far or below the stacked subtrees, each of
which is stacked with its own level. -/
def deepest (reached : Nat) : List (Rule × Nat) → Nat
  | [] => reached
  | (leaf _, level) :: stack => deepest (max reached level) stack
  | (join _ left right, level) :: stack =>
      deepest (max reached level) ((right, level + 1) :: (left, level + 1) :: stack)
termination_by stack => leveledSize stack
decreasing_by
  · exact leveledSize_leaf _ _ _
  · exact leveledSize_join _ _ _ _ _

/-- The number of leaves counted so far and in the stacked subtrees. -/
def countLeaves (counted : Nat) : List Rule → Nat
  | [] => counted
  | leaf _ :: stack => countLeaves (counted + 1) stack
  | join _ left right :: stack => countLeaves counted (right :: left :: stack)
termination_by stack => stackedSize stack
decreasing_by
  · exact stackedSize_leaf _ _
  · exact stackedSize_join _ _ _ _

/-- The number of levels, found with a stack. -/
def measuredDepth (rule : Rule) : Nat :=
  deepest 0 [(rule, 1)]

/-- The number of leaves, found with a stack. -/
def measuredLeafCount (rule : Rule) : Nat :=
  countLeaves 0 [rule]

end Eligibility.Rule
