import Eligibility.Rule.Description
import Eligibility.Rule.Draft
import Eligibility.Rule.Evaluate
import Eligibility.Rule.Wire.FromText
import Eligibility.Rule.Wire.Write

/-!
# Sessions

A session keeps rules and records by name and answers one request after another.
A rule is never changed, but its name may be given to another rule; a record may
be changed in place.  A record that is not kept counts as an empty one.  A
request that fails leaves the session as it was.
-/

namespace Eligibility

/-- The rules and records that are kept by name. -/
structure Session where
  rules : Table Rule
  records : Table Record

namespace Session

/-- What a new record is made of. -/
inductive Source
  | empty
  | json (value : Json.Value)
  | pairs (pairs : List (String × Json.Value))
deriving Repr

/-- One of the two joined rules. -/
inductive Branch
  | left
  | right
deriving DecidableEq, Repr

/-- A request to a session. -/
inductive Request
  /-- Keep the rule of a draft. -/
  | keep (name : String) (draft : Draft)
  /-- Keep the rule of a description. -/
  | describe (name : String) (description : Json.Value)
  /-- Keep two rules joined. -/
  | combine (name left right connective : String)
  /-- Keep a list of rules combined. -/
  | combineAll (name : String) (names : List String) (connective : String)
  /-- Keep one of the rules that a rule joins. -/
  | keepBranch (name : String) (branch : Branch) (parent : String)
  /-- Write a rule and read it back. -/
  | reread (name : String)
  /-- Forget a rule. -/
  | drop (name : String)
  /-- Answer a rule. -/
  | recall (name : String)
  /-- Compare two rules. -/
  | same (first second : String)
  /-- Keep a new record. -/
  | newRecord (name : String) (source : Source)
  /-- Put a value into a record. -/
  | insert (record field : String) (value : Json.Value)
  /-- Keep a copy of a record into which a value is put. -/
  | copyWith (name record field : String) (value : Json.Value)
  /-- Look a field up. -/
  | get (record field : String)
  /-- Evaluate a rule on a record. -/
  | evaluate (rule record : String)
deriving Repr

/-- The answer to a request that succeeds. -/
inductive Answer
  | rule (rule : Rule)
  /-- The rule that was asked for a branch has none. -/
  | noBranch
  | same (equal : Bool)
  | dropped (kept : Bool)
  | record (record : Record)
  | inserted (old : Option Json.Value) (record : Record)
  | found (value : Option Json.Value)
  | verdict (verdict : Bool)

/-- Why a request fails. -/
inductive Failure
  /-- No rule is kept under a name. -/
  | noRule (name : String)
  | rule (error : RuleError)
  | wire (error : WireError)
deriving DecidableEq, Repr

/-- The session that keeps nothing. -/
def empty : Session :=
  ⟨.empty, .empty⟩

/-- The rule under a name. -/
def rule (session : Session) (name : String) : Except Failure Rule :=
  match session.rules.get? name with
  | some rule => .ok rule
  | none => .error (.noRule name)

/-- The rules under some names, looked up in their order. -/
def rulesNamed (session : Session) : List String → Except Failure (List Rule)
  | [] => .ok []
  | name :: names => do
      let first ← session.rule name
      let others ← session.rulesNamed names
      .ok (first :: others)

/-- The record under a name, which is empty unless one is kept. -/
def record (session : Session) (name : String) : Record :=
  (session.records.get? name).getD .empty

/-- Keeps a rule and answers it. -/
def putRule (session : Session) (name : String) (rule : Rule) : Answer × Session :=
  (.rule rule, { session with rules := session.rules.put name rule })

/-- Keeps a record. -/
def putRecord (session : Session) (name : String) (record : Record) : Session :=
  { session with records := session.records.put name record }

/-- One of the two rules that a rule joins. -/
def Branch.of? : Branch → Rule → Option Rule
  | left, rule => rule.left?
  | right, rule => rule.right?

/-- The record of a source. -/
def Source.record : Source → Except RuleError Record
  | empty => .ok .empty
  | json value => Record.ofJson value
  | pairs given => .ok (.ofPairs given)

/-- Answers a request, with the session after it. -/
def answer (session : Session) : Request → Except Failure (Answer × Session)
  | .keep name draft => do
      let built ← draft.build.mapError .rule
      .ok (session.putRule name built)
  | .describe name description => do
      let built ← (Rule.ofDescription description).mapError .rule
      .ok (session.putRule name built)
  | .combine name left right connective => do
      let leftRule ← session.rule left
      let rightRule ← session.rule right
      .ok (session.putRule name (.join connective leftRule rightRule))
  | .combineAll name names connective => do
      let rules ← session.rulesNamed names
      let combined ← (Rule.combineAll connective rules).mapError .rule
      .ok (session.putRule name combined)
  | .keepBranch name branch parent => do
      let whole ← session.rule parent
      match branch.of? whole with
      | some part => .ok (session.putRule name part)
      | none => .ok (.noBranch, session)
  | .reread name => do
      let written ← session.rule name
      let read ← (Rule.ofWire written.wire).mapError .wire
      .ok (.same (read == written), session)
  | .drop name =>
      .ok (.dropped (session.rules.get? name).isSome,
        { session with rules := session.rules.erase name })
  | .recall name => do
      let kept ← session.rule name
      .ok (.rule kept, session)
  | .same first second => do
      let firstRule ← session.rule first
      let secondRule ← session.rule second
      .ok (.same (firstRule == secondRule), session)
  | .newRecord name source => do
      let made ← source.record.mapError .rule
      .ok (.record made, session.putRecord name made)
  | .insert name field value =>
      let before := session.record name
      let changed := before.put field value
      .ok (.inserted (before.get? field) changed, session.putRecord name changed)
  | .copyWith name record field value =>
      let changed := (session.record record).put field value
      .ok (.record changed, session.putRecord name changed)
  | .get record field =>
      .ok (.found ((session.record record).get? field), session)
  | .evaluate rule record => do
      let kept ← session.rule rule
      let verdict ← (kept.evaluate (session.record record)).mapError .rule
      .ok (.verdict verdict, session)

/-- Answers requests one after another. -/
def answers (session : Session) : List Request → List (Except Failure Answer)
  | [] => []
  | request :: requests =>
      match session.answer request with
      | .ok (answer, after) => .ok answer :: after.answers requests
      | .error failure => .error failure :: session.answers requests

end Session

end Eligibility
