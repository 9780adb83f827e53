import Eligibility.Proofs.Json.Document
import Eligibility.Proofs.Rule.Measure
import Eligibility.Proofs.Rule.Wire.Node
import Eligibility.Rule.Wire.Write

/-!
# Writing rules and reading them back

The text of a rule has one object for every node, so its objects are nested as
deep as the tree.  It writes a document of its own, whatever characters the
conditions and connectives are made of, and that document is read back as the
rule unless it is nested too deep.  A value has no such limit.  No text at all
is read as a rule deeper than the limit.
-/

namespace Eligibility.Rule

open Json (Raw)
open Json.Document (State Frame)

/-! ## The document of a written rule -/

/-- The document of a node between those of its children. -/
def nodeToRaw (kind : Kind) (value : String) (left right : Raw) : Raw :=
  .object
    [(some NodeField.nodeType.name, .string (some kind.name)),
      (some NodeField.value.name, .string (some value)),
      (some NodeField.left.name, left), (some NodeField.right.name, right)] true

/-- The document that the text of a rule writes. -/
def toRaw : Rule → Raw
  | leaf condition => nodeToRaw .operand condition .null .null
  | join connective left right => nodeToRaw .operator connective left.toRaw right.toRaw

/-- The object of a node up to its left child. -/
def headFrame (kind : Kind) (value : String) : Frame :=
  .object
    [(some NodeField.value.name, .string (some value)),
      (some NodeField.nodeType.name, .string (some kind.name))] (some NodeField.left.name)

/-- The members of a node up to its right child, last first. -/
def membersToLeft (kind : Kind) (value : String) (left : Raw) : List (Option String × Raw) :=
  [(some NodeField.left.name, left), (some NodeField.value.name, .string (some value)),
    (some NodeField.nodeType.name, .string (some kind.name))]

/-- The text of a node up to its children, cut into its pieces. -/
theorem writeHead_append (kind : Kind) (value : String) (rest : List Char) :
    writeHead kind value ++ rest =
      '{' :: (Json.Quoted.write NodeField.nodeType.name.toList ++ ':' ::
        (Json.Quoted.write kind.name.toList ++ ',' ::
          (Json.Quoted.write NodeField.value.name.toList ++ ':' ::
            (Json.Quoted.write value.toList ++ ',' ::
              (Json.Quoted.write NodeField.left.name.toList ++ ':' :: rest))))) := by
  unfold writeHead
  generalize Json.Quoted.write kind.name.toList = kindText
  generalize Json.Quoted.write value.toList = valueText
  rw [List.append_assoc, List.append_assoc, List.append_assoc, List.append_assoc]
  rfl

theorem after_writeHead (kind : Kind) (value : String) (frames : List Frame)
    (rest : List Char) :
    (State.value frames).after (writeHead kind value ++ rest) =
      (State.value (headFrame kind value :: frames)).after rest := by
  rw [writeHead_append, State.after_mark .openBrace rfl]
  change (State.firstKey frames).after _ = _
  rw [State.after_firstKey, State.after_write]
  change (State.afterMember [(_, .string _)] frames).after _ = _
  rw [State.after_nextKey, State.after_write]
  change (State.afterMember [(_, .string _), (_, .string _)] frames).after _ = _
  rw [State.after_nextKey]
  simp only [String.ofList_toList]
  rfl

/-- The key of the right child leads to that child. -/
theorem after_rightKey (kind : Kind) (value : String) (left : Raw) (frames : List Frame)
    (rest : List Char) :
    (Json.Document.supply left (headFrame kind value :: frames)).after
        (",\"right\":".toList ++ rest) =
      (State.value (.object (membersToLeft kind value left) (some NodeField.right.name) ::
        frames)).after rest := by
  have pieces : ",\"right\":".toList ++ rest =
      ',' :: (Json.Quoted.write NodeField.right.name.toList ++ ':' :: rest) :=
    rfl
  change (State.afterMember (membersToLeft kind value left) frames).after _ = _
  rw [pieces, State.after_nextKey, String.ofList_toList]

theorem after_closeBrace (kind : Kind) (value : String) (left right : Raw)
    (frames : List Frame) (rest : List Char) :
    (Json.Document.supply right
        (.object (membersToLeft kind value left) (some NodeField.right.name) :: frames)).after
        ('}' :: rest) =
      (Json.Document.supply (nodeToRaw kind value left right) frames).after rest := by
  rw [State.after_mark .closeBrace rfl]
  rfl

/-- The text of a rule supplies its document, wherever a value is expected and
whatever follows. -/
theorem after_write_append (rule : Rule) (frames : List Frame) (rest : List Char) :
    (State.value frames).after (rule.write ++ rest) =
      (Json.Document.supply rule.toRaw frames).after rest := by
  induction rule generalizing frames rest with
  | leaf condition =>
      have pieces : "null,\"right\":null\x7d".toList ++ rest =
          "null".toList ++ (",\"right\":".toList ++ ("null".toList ++ '}' :: rest)) :=
        rfl
      rw [write, List.append_assoc, after_writeHead, pieces, State.after_null]
      change (Json.Document.supply .null (headFrame .operand condition :: frames)).after _ = _
      rw [after_rightKey, State.after_null]
      exact after_closeBrace .operand condition .null .null frames rest
  | join connective left right leftRead rightRead =>
      simp only [write, List.append_assoc, List.singleton_append]
      rw [after_writeHead, leftRead, after_rightKey, rightRead, after_closeBrace]
      rfl

theorem ofText_write (rule : Rule) :
    Json.Document.ofText rule.write = { root := rule.toRaw, trailing := false } := by
  have read := after_write_append rule [] []
  rw [List.append_nil, State.after_nil] at read
  rw [State.ofText_eq, read]
  rfl

/-! ## Reading the document -/

/-- A node is read from the documents of its children, the left one first. -/
theorem childOfRaw_nodeToRaw (levels : Nat) (kind : Kind) (value : String) (left right : Raw) :
    childOfRaw (levels + 1) (nodeToRaw kind value left right) =
      (childOfRaw levels left).bind fun leftChild =>
        (childOfRaw levels right).bind fun rightChild =>
          closeNode true (ofNode kind value leftChild rightChild) := by
  have kindRead : kindOfRaw levels (.string (some kind.name)) = .ok kind := by
    rw [kindOfRaw, kindOfName, Kind.ofName?_name]
  simp only [nodeToRaw, childOfRaw, fieldsOfMembers, NodeField.ofName?_name, NodeFields.none,
    takeField, kindRead, textOfRaw, Except.map]
  cases childOfRaw levels left with
  | error error => rfl
  | ok leftChild => cases childOfRaw levels right <;> rfl

/-- The document of a rule is read as the rule if it is not nested too deep. -/
theorem childOfRaw_toRaw (rule : Rule) (levels : Nat) :
    childOfRaw levels rule.toRaw =
      if rule.depth ≤ levels then .ok (some rule) else .error .notJson := by
  induction rule generalizing levels with
  | leaf condition =>
      cases levels with
      | zero => rfl
      | succ levels =>
          have absent : childOfRaw levels .null = .ok none := by
            rw [childOfRaw.eq_def]
          rw [toRaw, childOfRaw_nodeToRaw, absent, depth, if_pos (Nat.le_add_left 1 levels)]
          rfl
  | join connective left right leftRead rightRead =>
      cases levels with
      | zero => rfl
      | succ levels =>
          rw [toRaw, childOfRaw_nodeToRaw, leftRead, rightRead, depth]
          by_cases leftFits : left.depth ≤ levels
          · by_cases rightFits : right.depth ≤ levels
            · rw [if_pos leftFits, if_pos rightFits,
                if_pos (Nat.succ_le_succ (Nat.max_le.mpr ⟨leftFits, rightFits⟩))]
              rfl
            · have tooDeep : ¬ max left.depth right.depth + 1 ≤ levels + 1 := by omega
              rw [if_pos leftFits, if_neg rightFits, if_neg tooDeep]
              rfl
          · have tooDeep : ¬ max left.depth right.depth + 1 ≤ levels + 1 := by omega
            rw [if_neg leftFits, if_neg tooDeep]
            rfl

/-- A node is read from the values of its children, the left one first. -/
theorem childOfJson_nodeToJson (kind : Kind) (value : String) (left right : Json.Value) :
    childOfJson (nodeToJson kind value left right) =
      (childOfJson left).bind fun leftChild =>
        (childOfJson right).bind fun rightChild =>
          (ofNode kind value leftChild rightChild).map some := by
  have kindRead : kindOfJson (.string kind.name) = .ok kind := by
    rw [kindOfJson, Kind.ofName?_name]
  simp [nodeToJson, childOfJson, childNamed, NodeField.name, Json.lookup, readOptional, textOfJson,
    kindRead]
  cases childOfJson left with
  | error error => rfl
  | ok leftChild =>
      cases childOfJson right with
      | error error => rfl
      | ok rightChild => rfl

theorem childOfJson_toJson (rule : Rule) : childOfJson rule.toJson = .ok (some rule) := by
  induction rule with
  | leaf condition =>
      rw [toJson, childOfJson_nodeToJson, childOfJson]
      rfl
  | join connective left right leftRead rightRead =>
      rw [toJson, childOfJson_nodeToJson, leftRead, rightRead]
      rfl

/-! ## The depth of what is read -/

/-- The children that have been read are no deeper than some levels. -/
structure ChildrenWithin (levels : Nat) (fields : NodeFields) : Prop where
  left : ∀ rule, fields.left = some (some rule) → rule.depth ≤ levels
  right : ∀ rule, fields.right = some (some rule) → rule.depth ≤ levels

theorem childrenWithin_none (levels : Nat) : ChildrenWithin levels NodeFields.none :=
  ⟨nofun, nofun⟩

/-- A field that is set keeps the children within the levels of what is read. -/
theorem ChildrenWithin.of_sets {levels : Nat} {known next : NodeFields} {field : NodeField}
    {raw : Raw} (within : ChildrenWithin levels known)
    (shallow : ∀ rule, childOfRaw levels raw = .ok (some rule) → rule.depth ≤ levels)
    (set : SetsFromRaw levels raw known field next) : ChildrenWithin levels next := by
  cases set with
  | nodeType read => exact ⟨within.left, within.right⟩
  | value read => exact ⟨within.left, within.right⟩
  | left read =>
      refine ⟨?_, within.right⟩
      rintro rule ⟨⟩
      exact shallow rule read
  | right read =>
      refine ⟨within.left, ?_⟩
      rintro rule ⟨⟩
      exact shallow rule read

/-- A node has one level more than its children. -/
theorem ChildrenWithin.depth_le {levels : Nat} {fields : NodeFields} {rule : Rule}
    (within : ChildrenWithin levels fields) (formed : fields.namedRule = .ok rule) :
    rule.depth ≤ levels + 1 := by
  rcases NodeFields.namedRule_eq_ok_iff.mp formed with ⟨kind, value, -, -, node⟩
  rcases ofNode_eq_ok_iff.mp node with
    ⟨-, -, -, rfl⟩ | ⟨-, leftRule, rightRule, left_eq, right_eq, rfl⟩
  · exact Nat.le_add_left 1 levels
  · have leftDepth := within.left leftRule (by simpa [Option.getD_eq_iff] using left_eq)
    have rightDepth := within.right rightRule (by simpa [Option.getD_eq_iff] using right_eq)
    rw [depth]
    omega

section

variable {levels : Nat} {known result : NodeFields}
  (shallow : ∀ raw rule, childOfRaw levels raw = .ok (some rule) → rule.depth ≤ levels)
include shallow

theorem childrenWithin_of_fieldsOfMembers {members : List (Option String × Raw)}
    (within : ChildrenWithin levels known)
    (read : fieldsOfMembers levels known members = .ok result) :
    ChildrenWithin levels result := by
  induction members generalizing known with
  | nil =>
      rw [fieldsOfMembers] at read
      cases read
      exact within
  | cons member members ih =>
      rcases member with ⟨key, raw⟩
      rcases fieldsOfMembers_cons_eq_ok_iff.mp read with
        ⟨name, rfl, ⟨field, next, -, -, set, rest⟩ | ⟨-, -, rest⟩⟩
      · exact ih (within.of_sets (shallow raw) set) rest
      · exact ih within rest

theorem childrenWithin_of_fieldsOfRawItems {items : List Raw} {order : List NodeField}
    (within : ChildrenWithin levels known)
    (read : fieldsOfRawItems levels order known items = .ok result) :
    ChildrenWithin levels result := by
  induction items generalizing order known with
  | nil =>
      rw [fieldsOfRawItems.eq_def] at read
      cases read
      exact within
  | cons item items ih =>
      rcases fieldsOfRawItems_cons_eq_ok_iff.mp read with
        ⟨field, later, next, rfl, set, rest⟩
      exact ih (within.of_sets (shallow item) set) rest

end

/-- A rule that is read has no more levels than may be nested. -/
theorem depth_le_of_childOfRaw {levels : Nat} {raw : Raw} {rule : Rule}
    (read : childOfRaw levels raw = .ok (some rule)) : rule.depth ≤ levels := by
  induction levels generalizing raw rule with
  | zero => exact absurd read (childOfRaw_zero_ne_some raw rule)
  | succ levels ih =>
      have shallow : ∀ raw rule, childOfRaw levels raw = .ok (some rule) →
          rule.depth ≤ levels := fun raw rule => ih
      have start := childrenWithin_none levels
      rcases childOfRaw_succ_eq_some_iff.mp read with
        ⟨members, fields, -, fieldsRead, formed⟩ | ⟨items, fields, -, fieldsRead, formed⟩
      · exact (childrenWithin_of_fieldsOfMembers shallow start fieldsRead).depth_le formed
      · exact (childrenWithin_of_fieldsOfRawItems shallow start fieldsRead).depth_le formed

/-- The text of a rule is read back as the rule if it is not too deep. -/
theorem ofWire_wire (rule : Rule) :
    ofWire rule.wire = if rule.depth ≤ Json.nestingLimit then .ok rule else .error .notJson := by
  rw [ofWire, toList_wire, ofText_write, ofDocument, childOfRaw_toRaw]
  by_cases shallow : rule.depth ≤ Json.nestingLimit
  · rw [if_pos shallow, if_pos shallow]
    rfl
  · rw [if_neg shallow, if_neg shallow]
    rfl

/-- A rule is read back from its value at any depth, and from its text exactly
if it has at most 127 levels; the text of a deeper rule is reported as no JSON.
Every rule that is read from any text has at most 127 levels, so its own text is
read back as well. -/
theorem wire_roundTrip (rule : Rule) :
    ofJson rule.toJson = .ok rule ∧
    ofWire rule.wire = (if rule.measuredDepth ≤ 127 then .ok rule else .error .notJson) ∧
    ∀ text, ofWire text = .ok rule → rule.measuredDepth ≤ 127 ∧ ofWire rule.wire = .ok rule := by
  have written := ofWire_wire rule
  rw [measuredDepth_eq_depth]
  refine ⟨?_, written, ?_⟩
  · rw [ofJson, childOfJson_toJson]
  · intro text read
    have shallow : rule.depth ≤ 127 := depth_le_of_childOfRaw (ofWire_eq_ok_iff.mp read).1
    exact ⟨shallow, by rw [written]; exact if_pos shallow⟩

/-- A text of items, with a control character, a quote and a backslash. -/
theorem wire_roundTrip_of_items :
    ofWire "[\"operator\", \"AND\", [\"operand\", \"\\u0001\\\"\"], [\"operand\", \"\\\\\"]]" =
        .ok (join "AND" (leaf "\x01\"") (leaf "\\")) ∧
      (join "AND" (leaf "\x01\"") (leaf "\\")).measuredDepth ≤ 127 ∧
      ofWire (join "AND" (leaf "\x01\"") (leaf "\\")).wire =
        .ok (join "AND" (leaf "\x01\"") (leaf "\\")) := by
  have read : ofWire
      "[\"operator\", \"AND\", [\"operand\", \"\\u0001\\\"\"], [\"operand\", \"\\\\\"]]" =
        .ok (join "AND" (leaf "\x01\"") (leaf "\\")) :=
    toOption_eq_some_iff.mp (by decide +kernel)
  exact ⟨read, (wire_roundTrip _).2.2 _ read⟩

end Eligibility.Rule
