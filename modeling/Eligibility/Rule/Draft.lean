import Eligibility.Rule.Compile

/-!
# Drafts of rules

A draft says how a rule is to be built: from a text that is to be compiled, from
a condition that is taken as it is, or by joining two drafts.  The left draft is
built before the right one, so its error comes first.
-/

namespace Eligibility

/-- A way to build a rule. -/
inductive Draft
  | source (text : String)
  | leaf (condition : String)
  | join (connective : String) (left right : Draft)
deriving Inhabited, Repr

namespace Draft

/-- Builds the rule of a draft. -/
def build : Draft → Except RuleError Rule
  | source text => Rule.compile text
  | leaf condition => .ok (.leaf condition)
  | join connective left right => do
      let leftRule ← left.build
      let rightRule ← right.build
      .ok (.join connective leftRule rightRule)

end Draft

end Eligibility
