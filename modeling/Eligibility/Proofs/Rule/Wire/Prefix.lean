import Eligibility.Proofs.Rule.Wire.RoundTrip

/-!
# Wire texts tell rules apart

The wire texts form a prefix code.  This does not depend on what a reader accepts,
which is limited in depth: a document is assembled from a text of any depth, and
nothing that follows the text of a rule changes the document at its start.  So the
rule can be told from any text that begins with its wire form, and texts of rules may
even stand one after another with nothing between them.
-/

namespace Eligibility

namespace Json.Document.State

theorem foldl_step_finished (document : Document) (tokens : List Token) :
    tokens.foldl step (.finished document) = .finished document := by
  induction tokens with
  | nil => rfl
  | cons token tokens ih => exact ih

/-- Nothing changes the value that a text begins with. -/
theorem root_after_complete (root : Raw) (rest : List Char) :
    ((complete root).after rest).document.root = root := by
  rw [after]
  cases tokens rest with
  | nil => rfl
  | cons token others =>
      rw [List.foldl_cons]
      change (others.foldl step (.finished { root, trailing := true })).document.root = root
      rw [foldl_step_finished]
      rfl

end Json.Document.State

theorem Kind.name_inj {kind other : Kind} : kind.name = other.name ↔ kind = other := by
  cases kind <;> cases other <;> decide

namespace Rule

open Json (Raw)
open Json.Document (State)

/-! ## From the document back to the rule -/

theorem nodeToRaw_inj {kind other : Kind} {value text : String} {left left' right right' : Raw} :
    nodeToRaw kind value left right = nodeToRaw other text left' right' ↔
      kind = other ∧ value = text ∧ left = left' ∧ right = right' := by
  simp [nodeToRaw, Kind.name_inj]

/-- Different rules write different documents. -/
theorem toRaw_inj {rule other : Rule} : rule.toRaw = other.toRaw ↔ rule = other := by
  induction rule generalizing other with
  | leaf condition =>
      cases other with
      | leaf text => simp [toRaw, nodeToRaw_inj]
      | join connective left right => simp [toRaw, nodeToRaw_inj]
  | join connective left right leftInj rightInj =>
      cases other with
      | leaf text => simp [toRaw, nodeToRaw_inj]
      | join text left' right' => simp [toRaw, nodeToRaw_inj, leftInj, rightInj]

/-! ## Texts that begin with a wire form -/

theorem root_ofText_write_append (rule : Rule) (rest : List Char) :
    (Json.Document.ofText (rule.write ++ rest)).root = rule.toRaw := by
  rw [State.ofText_eq, after_write_append]
  exact State.root_after_complete rule.toRaw rest

/-- The rule at the start of a text and the rest of the text are determined. -/
theorem write_append_inj {rule other : Rule} {rest later : List Char} :
    rule.write ++ rest = other.write ++ later ↔ rule = other ∧ rest = later := by
  constructor
  · intro same
    have roots := root_ofText_write_append rule rest
    rw [same, root_ofText_write_append, toRaw_inj] at roots
    subst roots
    exact ⟨rfl, List.append_cancel_left same⟩
  · rintro ⟨rfl, rfl⟩
    rfl

theorem write_ne_nil (rule : Rule) : rule.write ≠ [] := by
  cases rule with
  | leaf condition =>
      rw [write, writeHead_append]
      exact List.cons_ne_nil _ _
  | join connective left right =>
      simp only [write, List.append_assoc]
      rw [writeHead_append]
      exact List.cons_ne_nil _ _

/-- Wire forms one after another are those of the same rules in the same order. -/
theorem flatMap_write_inj {rules others : List Rule} :
    rules.flatMap write = others.flatMap write ↔ rules = others := by
  constructor
  · intro same
    induction rules generalizing others with
    | nil =>
        cases others with
        | nil => rfl
        | cons other others =>
            have empty := List.append_eq_nil_iff.mp same.symm
            exact absurd empty.1 other.write_ne_nil
    | cons rule rules ih =>
        cases others with
        | nil =>
            have empty := List.append_eq_nil_iff.mp same
            exact absurd empty.1 rule.write_ne_nil
        | cons other others =>
            obtain ⟨rfl, later⟩ := write_append_inj.mp same
            rw [ih later]
  · rintro rfl
    rfl

/-- Different rules have different wire forms. -/
theorem wire_inj {rule other : Rule} : rule.wire = other.wire ↔ rule = other := by
  constructor
  · intro same
    have texts := congrArg String.toList same
    rw [toList_wire, toList_wire, ← List.append_nil rule.write, ← List.append_nil other.write]
      at texts
    exact (write_append_inj.mp texts).1
  · exact congrArg wire

/-- A wire form begins only with itself. -/
theorem wire_isPrefix_iff {rule other : Rule} :
    rule.wire.toList <+: other.wire.toList ↔ rule = other := by
  rw [toList_wire, toList_wire]
  constructor
  · rintro ⟨rest, same⟩
    rw [← List.append_nil other.write] at same
    exact (write_append_inj.mp same).1
  · rintro rfl
    exact List.prefix_rfl

/-- The wire form of a rule, however deep it is, tells the rule.  No other rule has the
same wire form, no wire form begins with a different one, and wire forms one after
another can be taken apart in one way only. -/
theorem wire_forms_identify_rules (rule other : Rule) (rules others : List Rule) :
    (rule.wire = other.wire ↔ rule = other) ∧
    (rule.wire.toList <+: other.wire.toList ↔ rule.wire = other.wire) ∧
    (rules.flatMap (fun rule => rule.wire.toList) =
      others.flatMap (fun rule => rule.wire.toList) ↔ rules = others) := by
  refine ⟨wire_inj, wire_isPrefix_iff.trans wire_inj.symm, ?_⟩
  simp only [toList_wire]
  exact flatMap_write_inj

end Rule

end Eligibility
