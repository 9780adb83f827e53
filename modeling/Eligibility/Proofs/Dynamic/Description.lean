import Eligibility.Proofs.Dynamic.Mirror
import Eligibility.Proofs.Json.Grammar

/-!
# Descriptions as values and as texts

A description may be handed over as a value or as JSON text.  A value that mirrors what
the text says is converted without a problem, and the result differs from what the text
says in nothing that a description is read by.  So both forms give the same rule, or
the same error, which is one about the rule.
-/

namespace Eligibility.Dynamic

open Json.Value

theorem Mirrors.text?_eq_none {value : Value} {json : Json.Value} :
    Mirrors value json → json.text? = none → value.text? = none
  | .null, _ | .bool _, _ | .int _, _ | .float _, _ | .list _, _ | .tuple _, _ | .dict _ _, _
  | .ownFloat _, _ | .ownDouble _, _ => rfl
  | .derived base, notText => base.text?_eq_none notText

theorem Mirrors.describedRule_eq {value : Value} {json : Json.Value}
    (mirrors : Mirrors value json) (notText : json.text? = none) :
    value.describedRule = (Rule.ofDescription json).mapError .rule := by
  rcases mirrors.exists_toJson_eq with ⟨converted, converts, resembles⟩
  rw [Value.describedRule, mirrors.text?_eq_none notText, converts,
    ← Rule.ofDescription_eq_of_resembles resembles]
  rfl

theorem Value.describedRule_of_text {source : Value} {text : String} {json : Json.Value}
    (spelled : source.text? = some text) (read : Json.read? Json.nestingLimit text = some json) :
    source.describedRule = (Rule.ofDescription json).mapError .rule := by
  rw [describedRule, spelled]
  simp only [Rule.ofDescriptionText, read]

/-- A description that is no string gives the same as a text and as a value that mirrors
it.  Either both calls keep and answer the same rule, or both raise a `ValueError` with
the same wording. -/
theorem answer_createFromJson_of_mirrors {rules : Table Rule} {name text : String}
    {source value : Value} {json : Json.Value} (spelled : source.text? = some text)
    (read : Json.read? Json.nestingLimit text = some json) (notText : json.text? = none)
    (mirrors : Mirrors value json) :
    (∃ rule,
      answer rules (.createFromJson name source) = .ok (.rule rule, rules.put name rule) ∧
      answer rules (.createFromJson name value) = .ok (.rule rule, rules.put name rule)) ∨
    ∃ failure message,
      answer rules (.createFromJson name source) = .error failure ∧
      answer rules (.createFromJson name value) = .error failure ∧
      failure.raised? = some ⟨.valueError, some message⟩ := by
  rw [answer, answer, Value.describedRule_of_text spelled read, mirrors.describedRule_eq notText]
  cases Rule.ofDescription json with
  | ok rule => exact .inl ⟨rule, rfl, rfl⟩
  | error error => exact .inr ⟨.rule error, error.message, rfl, rfl, rfl⟩

/-- Large numbers, lists, tuples and further entries do not matter on either side, and the
last of two members with one name counts in the text. -/
theorem answer_createFromJson_of_mirrors_of_repeated_name :
    let accepted :=
      "\x7b\"note\": [0.5, 9223372036854775809], \"rules\": [\x7b\"operator\": \"OR\"," ++
        " \"left\": \x7b\"operand\": \"a = 1\"\x7d," ++
        " \"right\": \x7b\"operand\": \"b > 2\", \"note\": true\x7d\x7d]\x7d"
    let given : Value := .dict [
      (.text "note", .tuple [.float (.finite ⟨false, 0x3FE0000000000000, by decide⟩),
        .int 9223372036854775809]),
      (.text "rules", .list [.dict [(.text "operator", .text "OR"),
        (.text "left", .dict [(.text "operand", .text "a = 1")]),
        (.text "right", .dict [(.text "operand", .text "b > 2"), (.text "note", .bool true)])]])]
    let kept : Answer × Table Rule :=
      (.rule (.join "OR" (.leaf "a = 1") (.leaf "b > 2")),
        Table.put .empty "r" (.join "OR" (.leaf "a = 1") (.leaf "b > 2")))
    let refused := "\x7b\"rules\": [], \"rules\": \x7b\x7d\x7d"
    (answer .empty (.createFromJson "r" (.text accepted)) = .ok kept ∧
      answer .empty (.createFromJson "r" given) = .ok kept) ∧
    ∃ failure, answer .empty (.createFromJson "r" (.text refused)) = .error failure ∧
      answer .empty (.createFromJson "r" (.dict [(.derived (.text "rules"), .dict [])])) =
        .error failure ∧
      failure.raised? = some ⟨.valueError,
        some "Invalid rule structure: left must be a valid JSON object"⟩ := by
  intro accepted given kept refused
  constructor
  · let half : Double := ⟨false, 0x3FE0000000000000, by decide⟩
    let large : WideInteger := ⟨9223372036854775809, by decide, by decide⟩
    let digits := "9223372036854775809".toList
    let json : Json.Value := .object [
      ("note", .array [.number (.double half), .number (.integer large)]),
      ("rules", .array [.object [("operator", .string "OR"),
        ("left", .object [("operand", .string "a = 1")]),
        ("right", .object [("operand", .string "b > 2"), ("note", .bool true)])]])]
    have read : Json.read? Json.nestingLimit accepted = some json := by
      refine Json.read?_eq_some_iff.mpr ⟨.object [
        (some "note", .array [.number ⟨false, ['0'], ['5'], none⟩,
          .number ⟨false, digits, [], none⟩] true),
        (some "rules", .array [.object [(some "operator", .string (some "OR")),
          (some "left", .object [(some "operand", .string (some "a = 1"))] true),
          (some "right", .object [(some "operand", .string (some "b > 2")),
            (some "note", .bool true)] true)] true] true)] true, by decide +kernel, ?_⟩
      have halfRead : Json.Number.ofNumeral? ⟨false, ['0'], ['5'], none⟩ =
          some (.double half) := by
        decide +kernel
      have largeRead : Json.Number.ofNumeral? ⟨false, digits, [], none⟩ =
          some (.integer large) := by
        decide +kernel
      simp only [Json.nestingLimit, Json.Raw.value?, Json.Raw.itemValues?, Json.Raw.memberValues?,
        halfRead, largeRead]
      rfl
    have note : Mirrors (.tuple [.float (.finite half), .int large.value])
        (.array [.number (.double half), .number (.integer large)]) :=
      .tuple (.cons (.float half) (.cons (.int large) .nil))
    have left : Mirrors (.dict [(.text "operand", .text "a = 1")])
        (.object [("operand", .string "a = 1")]) :=
      .dict (.cons rfl (.text _) .nil) fun _ => rfl
    have right : Mirrors (.dict [(.text "operand", .text "b > 2"), (.text "note", .bool true)])
        (.object [("operand", .string "b > 2"), ("note", .bool true)]) :=
      .dict (.cons rfl (.text _) (.cons rfl (.bool true) .nil)) fun _ => rfl
    have rules : Mirrors (.dict [(.text "operator", .text "OR"),
        (.text "left", .dict [(.text "operand", .text "a = 1")]),
        (.text "right", .dict [(.text "operand", .text "b > 2"), (.text "note", .bool true)])])
        (.object [("operator", .string "OR"), ("left", .object [("operand", .string "a = 1")]),
          ("right", .object [("operand", .string "b > 2"), ("note", .bool true)])]) :=
      .dict (.cons rfl (.text _) (.cons rfl left (.cons rfl right .nil))) fun _ => rfl
    have mirrors : Mirrors given json :=
      .dict (.cons rfl note (.cons rfl (.list (.cons rules .nil)) .nil)) fun _ => rfl
    have fromText : answer .empty (.createFromJson "r" (.text accepted)) = .ok kept := by
      rw [answer, Value.describedRule_of_text rfl read]
      rfl
    have spelled : Value.text? (.text accepted) = some accepted := rfl
    rcases answer_createFromJson_of_mirrors spelled read rfl mirrors with
      ⟨rule, same, fromValue⟩ | ⟨failure, message, failed, -⟩
    · rw [fromText] at same
      exact ⟨fromText, fromValue.trans same.symm⟩
    · rw [fromText] at failed
      cases failed
  · have read : Json.read? Json.nestingLimit refused =
        some (.object [("rules", .array []), ("rules", .object [])]) :=
      Json.read?_eq_some_iff.mpr
        ⟨.object [(some "rules", .array [] true), (some "rules", .object [] true)] true,
          by decide +kernel, rfl⟩
    have mirrors : Mirrors (.dict [(.derived (.text "rules"), .dict [])])
        (.object [("rules", .array []), ("rules", .object [])]) := by
      refine .dict (.cons rfl (.dict .nil fun _ => rfl) .nil) fun name => ?_
      simp only [Json.lookup]
      split <;> rfl
    have fromText : answer .empty (.createFromJson "r" (.text refused)) =
        .error (.rule (.invalidStructure (.sideKind .left))) := by
      rw [answer, Value.describedRule_of_text rfl read]
      rfl
    have spelled : Value.text? (.text refused) = some refused := rfl
    rcases answer_createFromJson_of_mirrors spelled read rfl mirrors with
      ⟨rule, kept, -⟩ | ⟨failure, message, failed, same, -⟩
    · rw [fromText] at kept
      cases kept
    · rw [fromText] at failed
      cases failed
      exact ⟨_, fromText, same, rfl⟩

end Eligibility.Dynamic
