import Eligibility.Dynamic.ToJson
import Eligibility.Session

/-!
# Sessions of a dynamically typed host

The host calls the operations on rules with values of its own.  A rule is meant
by a name under which a session keeps it, or handed over as a value.  First all
names are looked up, then the arguments are checked in their order, and only
then is anything computed.
-/

namespace Eligibility.Dynamic

/-- An argument for which a rule is expected. -/
inductive Argument
  | named (name : String)
  | given (value : Value)
deriving Repr

/-- Why a call fails. -/
inductive Failure
  /-- No rule is kept under a name. -/
  | noRule (name : String)
  /-- An argument is of a wrong type. -/
  | wrongType
  /-- An argument is a text with an unpaired surrogate. -/
  | notUnicode
  | conversion (fault : ConversionFault)
  | rule (error : RuleError)
deriving DecidableEq, Repr

/-- A call of the host. -/
inductive Call
  /-- Keep the rule of a text. -/
  | create (name : String) (text : Value)
  /-- Keep the rule of a description, which may be given as its text. -/
  | createFromJson (name : String) (description : Value)
  /-- Keep two rules joined. -/
  | combine (name : String) (left right : Argument) (connective : Value)
  /-- Keep a list of rules combined. -/
  | combineAll (name : String) (rules : List Argument) (connective : Value)
  /-- Keep one of the rules that a rule joins. -/
  | keepBranch (name : String) (branch : Session.Branch) (parent : Argument)
  /-- Answer a rule. -/
  | recall (rule : Argument)
  /-- Compare two values, of which only rules can be equal. -/
  | same (first second : Argument)
  /-- Evaluate a rule on the data of a dictionary. -/
  | evaluate (rule : Argument) (data : Value)
deriving Repr

/-- The answer to a call that succeeds. -/
inductive Answer
  | rule (rule : Rule)
  /-- The rule that was asked for a branch has none. -/
  | noBranch
  | same (equal : Bool)
  | verdict (verdict : Bool)
deriving Repr

namespace Value

/-- The text that is passed for a text. -/
def asText (value : Value) : Except Failure String :=
  match value.base with
  | .text characters => .ok characters
  | .brokenText _ => .error .notUnicode
  | _ => .error .wrongType

/-- The rule that is passed for a rule. -/
def asRule : Value → Except Failure Rule
  | .rule known => .ok known
  | _ => .error .wrongType

/-- The rules that are passed for a list of rules. -/
def asRules : List Value → Except Failure (List Rule)
  | [] => .ok []
  | value :: values => do
      let first ← value.asRule
      let others ← asRules values
      .ok (first :: others)

/-- Whether a value is passed for a dictionary. -/
def isDict (value : Value) : Bool :=
  match value.base with
  | .dict _ => true
  | _ => false

/-- The rule that a value describes: a text is read as JSON, anything else is
converted. -/
def describedRule (description : Value) : Except Failure Rule :=
  match description.text? with
  | some source => (Rule.ofDescriptionText source).mapError .rule
  | none => do
      let json ← description.toJson.mapError .conversion
      (Rule.ofDescription json).mapError .rule

/-- The verdict of a rule on the data of a dictionary. -/
def evaluateOn (rule : Rule) (data : Value) : Except Failure Bool := do
  let json ← data.toJson.mapError .conversion
  let record ← (Record.ofJson json).mapError .rule
  (rule.evaluate record).mapError .rule

end Value

/-- The value that an argument means. -/
def Argument.value (rules : Table Rule) : Argument → Except Failure Value
  | named name =>
      match rules.get? name with
      | some rule => .ok (.rule rule)
      | none => .error (.noRule name)
  | given value => .ok value

/-- The values that arguments mean. -/
def Argument.values (rules : Table Rule) : List Argument → Except Failure (List Value)
  | [] => .ok []
  | argument :: arguments => do
      let first ← argument.value rules
      let others ← Argument.values rules arguments
      .ok (first :: others)

/-- Keeps a rule and answers it. -/
def keep (rules : Table Rule) (name : String) (rule : Rule) : Answer × Table Rule :=
  (.rule rule, rules.put name rule)

/-- Answers a call, with the rules that are kept after it. -/
def answer (rules : Table Rule) : Call → Except Failure (Answer × Table Rule)
  | .create name text => do
      let source ← text.asText
      let built ← (Rule.compile source).mapError .rule
      .ok (keep rules name built)
  | .createFromJson name description => do
      let built ← description.describedRule
      .ok (keep rules name built)
  | .combine name left right connective => do
      let leftValue ← left.value rules
      let rightValue ← right.value rules
      let leftRule ← leftValue.asRule
      let rightRule ← rightValue.asRule
      let joining ← connective.asText
      .ok (keep rules name (.join joining leftRule rightRule))
  | .combineAll name arguments connective => do
      let values ← Argument.values rules arguments
      let combined ← Value.asRules values
      let joining ← connective.asText
      let built ← (Rule.combineAll joining combined).mapError .rule
      .ok (keep rules name built)
  | .keepBranch name branch parent => do
      let value ← parent.value rules
      let whole ← value.asRule
      match branch.of? whole with
      | some part => .ok (keep rules name part)
      | none => .ok (.noBranch, rules)
  | .recall argument => do
      let value ← argument.value rules
      let rule ← value.asRule
      .ok (.rule rule, rules)
  | .same first second => do
      let firstValue ← first.value rules
      let secondValue ← second.value rules
      match firstValue, secondValue with
      | .rule firstRule, .rule secondRule => .ok (.same (firstRule == secondRule), rules)
      | _, _ => .ok (.same false, rules)
  | .evaluate argument data => do
      let value ← argument.value rules
      let rule ← value.asRule
      if data.isDict then
        let verdict ← data.evaluateOn rule
        .ok (.verdict verdict, rules)
      else .error .wrongType

/-- Answers calls one after another. -/
def answers (rules : Table Rule) : List Call → List (Except Failure Answer)
  | [] => []
  | call :: calls =>
      match answer rules call with
      | .ok (result, after) => .ok result :: answers after calls
      | .error failure => .error failure :: answers rules calls

end Eligibility.Dynamic
