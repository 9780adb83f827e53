import Eligibility.Proofs.Json.Reader
import Eligibility.Proofs.Rule.Wire.Node

/-!
# Reading a text and reading its value

A text is read as a stream of members and items, while a value is read by looking
up the fields of a node.  If no object of the value repeats a name, the order of
the members does not matter, and both ways read the same rules.  They differ only
in what they report about a text that is no rule.
-/

namespace Eligibility

namespace NodeFields

/-- Two collections of fields agree on one field. -/
def AgreeOn (fields others : NodeFields) : NodeField → Prop
  | .nodeType => fields.kind = others.kind
  | .value => fields.value = others.value
  | .left => fields.left = others.left
  | .right => fields.right = others.right

/-- A field has been set to something that a reader takes for its value. -/
def Shows (isKind : Kind → Prop) (isText : String → Prop) (isChild : Option Rule → Prop)
    (fields : NodeFields) : NodeField → Prop
  | .nodeType => ∃ kind, isKind kind ∧ some kind = fields.kind
  | .value => ∃ text, isText text ∧ some text = fields.value
  | .left => ∃ child, isChild child ∧ some child = fields.left
  | .right => ∃ child, isChild child ∧ some child = fields.right

theorem agreeOn_refl (fields : NodeFields) (field : NodeField) : AgreeOn fields fields field := by
  cases field <;> rfl

theorem ext_of_agreeOn {fields others : NodeFields} (agree : ∀ field, AgreeOn fields others field) :
    fields = others := by
  rcases fields with ⟨kind, value, left, right⟩
  rcases others with ⟨otherKind, otherValue, otherLeft, otherRight⟩
  have kinds : kind = otherKind := agree .nodeType
  have values : value = otherValue := agree .value
  have lefts : left = otherLeft := agree .left
  have rights : right = otherRight := agree .right
  rw [kinds, values, lefts, rights]

section

variable {isKind : Kind → Prop} {isText : String → Prop} {isChild : Option Rule → Prop}
  {known next result : NodeFields} {field other : NodeField}

theorem Sets.agreeOn_of_ne (set : Sets isKind isText isChild known field next)
    (different : other ≠ field) : AgreeOn known next other := by
  cases set <;> cases other <;> first | rfl | contradiction

theorem Sets.shows (set : Sets isKind isText isChild known field next)
    (same : AgreeOn next result field) : Shows isKind isText isChild result field := by
  cases set with
  | nodeType fits | value fits | left fits | right fits => exact ⟨_, fits, same⟩

theorem exists_sets_of_shows (known : NodeFields)
    (shown : Shows isKind isText isChild result field) :
    ∃ next, Sets isKind isText isChild known field next ∧ AgreeOn next result field := by
  cases field with
  | nodeType | value | left | right =>
      rcases shown with ⟨_, fits, shown_eq⟩
      exact ⟨_, sets_iff.mpr ⟨_, fits, rfl⟩, shown_eq⟩

theorem lacks_congr (same : AgreeOn known next field) : known.Lacks field ↔ next.Lacks field := by
  cases field with
  | nodeType | value | left | right =>
      rw [Lacks, Lacks, show _ = _ from same]

theorem agreeOn_congr (same : AgreeOn known next field) :
    AgreeOn known result field ↔ AgreeOn next result field := by
  cases field with
  | nodeType | value | left | right =>
      rw [AgreeOn, AgreeOn, show _ = _ from same]

end

end NodeFields

namespace Rule

open Json (Raw Value lookup lookup_cons_of_ne lookup_cons_self lookup_eq_none_of_not_mem)
open NodeFields (Sets Shows AgreeOn)

/-! ## Reading a value -/

/-- A value is read as one field of a node. -/
abbrev SetsFromJson (value : Value) : NodeFields → NodeField → NodeFields → Prop :=
  Sets (fun kind => kindOfJson value = .ok kind) (fun text => textOfJson value = .ok text)
    (fun child => childOfJson value = .ok child)

/-- What a field shows has been read from a value. -/
abbrev ShowsFromJson (value : Value) : NodeFields → NodeField → Prop :=
  Shows (fun kind => kindOfJson value = .ok kind) (fun text => textOfJson value = .ok text)
    (fun child => childOfJson value = .ok child)

/-- The child under a name is read from what the name stands for. -/
theorem childNamed_eq_readOptional (name : String) (members : List (String × Value)) :
    childNamed name members = readOptional childOfJson (lookup name members) := by
  induction members with
  | nil => rw [childNamed, lookup, readOptional]
  | cons member members ih =>
      rcases member with ⟨other, value⟩
      rw [childNamed, lookup, ih]
      cases lookup name members with
      | none => by_cases same : other = name <;> simp [same, readOptional]
      | some later => simp

/-- One more item sets the first field that is still to come. -/
theorem fieldsOfItems_cons_eq_ok_iff {order : List NodeField} {known result : NodeFields}
    {item : Value} {items : List Value} :
    fieldsOfItems order known (item :: items) = .ok result ↔
      ∃ field later next, order = field :: later ∧ SetsFromJson item known field next ∧
        fieldsOfItems later next items = .ok result := by
  cases order with
  | nil => simp [fieldsOfItems]
  | cons field later =>
      simp only [List.cons.injEq, and_assoc, exists_and_left, exists_eq_left']
      cases field with
      | nodeType | value | left | right =>
          rw [fieldsOfItems]
          simp [bind, bind_eq_ok_iff, NodeFields.sets_iff]

/-- A field is what a value under its name is read as, and it is not set where the
name stands for nothing. -/
def ReadFrom (found : Option Value) (fields : NodeFields) (field : NodeField) : Prop :=
  match found with
  | none => fields.Lacks field
  | some value => ShowsFromJson value fields field

/-- Each field has its own reader. -/
theorem readFrom_iff {found : Option Value} {fields : NodeFields} {field : NodeField} :
    ReadFrom found fields field ↔ match field with
      | .nodeType => readOptional kindOfJson found = .ok fields.kind
      | .value => readOptional textOfJson found = .ok fields.value
      | .left => readOptional childOfJson found = .ok fields.left
      | .right => readOptional childOfJson found = .ok fields.right := by
  cases field with
  | nodeType | value | left | right =>
      cases found with
      | none => simp [ReadFrom, NodeFields.Lacks, readOptional, eq_comm]
      | some value => simp only [ReadFrom, Shows, readOptional, map_eq_ok_iff]

/-- The fields of a node that members give: every one that is named is read, and
no other is set. -/
def FieldsNamed (members : List (String × Value)) (fields : NodeFields) : Prop :=
  ∀ field : NodeField, ReadFrom (lookup field.name members) fields field

/-- An object is read as the rule of the fields that its members give. -/
theorem childOfJson_object_eq_ok_iff {members : List (String × Value)} {child : Option Rule} :
    childOfJson (.object members) = .ok child ↔
      ∃ fields rule, FieldsNamed members fields ∧ fields.namedRule = .ok rule ∧
        some rule = child := by
  simp only [childOfJson, bind, bind_eq_ok_iff, childNamed_eq_readOptional, Except.ok.injEq]
  constructor
  · rintro ⟨left, leftRead, kind, kindRead, right, rightRead, value, valueRead, rule, formed, same⟩
    refine ⟨⟨kind, value, left, right⟩, rule, ?_, formed, same⟩
    intro field
    cases field with
    | nodeType => exact readFrom_iff.mpr kindRead
    | value => exact readFrom_iff.mpr valueRead
    | left => exact readFrom_iff.mpr leftRead
    | right => exact readFrom_iff.mpr rightRead
  · rintro ⟨⟨kind, value, left, right⟩, rule, named, formed, same⟩
    exact ⟨left, readFrom_iff.mp (named .left), kind, readFrom_iff.mp (named .nodeType), right,
      readFrom_iff.mp (named .right), value, readFrom_iff.mp (named .value), rule, formed, same⟩

theorem childOfJson_array_eq_ok_iff {items : List Value} {child : Option Rule} :
    childOfJson (.array items) = .ok child ↔
      ∃ fields rule, fieldsOfItems NodeField.order NodeFields.none items = .ok fields ∧
        fields.namedRule = .ok rule ∧ some rule = child := by
  simp [childOfJson, bind, bind_eq_ok_iff, NodeFields.listedRule_eq_ok_iff]

/-! ## Kinds and texts -/

theorem kindOfName_eq_ok_iff {name : String} {kind : Kind} :
    kindOfName name = .ok kind ↔ kindOfJson (.string name) = .ok kind := by
  rw [kindOfName, kindOfJson]
  cases Kind.ofName? name <;> simp

theorem kindOfJson_singleton_eq_ok_iff {name : String} {value : Value} {kind : Kind} :
    kindOfJson (.object [(name, value)]) = .ok kind ↔
      Kind.ofName? name = some kind ∧ value = .null := by
  cases named : Kind.ofName? name with
  | none => simp [kindOfJson, named]
  | some actual => cases value <;> simp [kindOfJson, named, lookup]

/-- In a text, too, one closed member with the name of a kind stands for null. -/
theorem kindOfRaw_object_eq_ok_iff {levels : Nat} {name : String} {item : Raw}
    {members : List (Option String × Raw)} {closed : Bool} {kind : Kind} :
    kindOfRaw (levels + 1) (.object ((some name, item) :: members) closed) = .ok kind ↔
      Kind.ofName? name = some kind ∧ item = .null ∧ members = [] ∧ closed = true := by
  rw [kindOfRaw, kindOfName]
  cases Kind.ofName? name with
  | none => simp [bind, Except.bind]
  | some actual =>
      cases item <;> cases members <;> cases closed <;> simp [bind, Except.bind]

/-- Several members with distinct names name no kind. -/
theorem kindOfJson_ne_ok_of_nodup {first second : String × Value}
    {members : List (String × Value)} (kind : Kind)
    (names : ((first :: second :: members).map Prod.fst).Nodup) :
    kindOfJson (.object (first :: second :: members)) ≠ .ok kind := by
  rcases first with ⟨name, value⟩
  have different : second.1 ≠ name := by
    rintro rfl
    simp at names
  simp [kindOfJson, different]

/-- A text names a kind exactly if its value does. -/
theorem kindOfRaw_eq_ok_iff {levels : Nat} {raw : Raw} {value : Value} {kind : Kind}
    (written : raw.value? levels = some value) (distinct : value.distinctNames = true) :
    kindOfRaw levels raw = .ok kind ↔ kindOfJson value = .ok kind := by
  cases Raw.writes_of_value? written with
  | null | bool | number known | array itemsRead =>
      rw [kindOfRaw.eq_def]
      simp [kindOfJson]
  | string =>
      rw [kindOfRaw.eq_def]
      exact kindOfName_eq_ok_iff
  | @object levels members entries read =>
      rw [Value.distinctNames, Bool.and_eq_true, decide_eq_true_iff] at distinct
      cases members with
      | nil =>
          cases read
          simp [kindOfRaw, kindOfJson]
      | cons member members =>
          rcases member with ⟨key, item⟩
          rcases Raw.memberValues?_cons_eq_some_iff.mp read with
            ⟨name, first, later, rfl, itemRead, laterRead, rfl⟩
          rw [kindOfRaw_object_eq_ok_iff, Raw.eq_null_iff_of_value? itemRead]
          cases members with
          | nil =>
              cases laterRead
              rw [kindOfJson_singleton_eq_ok_iff]
              simp
          | cons second members =>
              rcases Raw.memberValues?_cons_eq_some_iff.mp laterRead with
                ⟨secondName, secondValue, rest, -, -, -, rfl⟩
              simp [kindOfJson_ne_ok_of_nodup kind distinct.1]

theorem textOfRaw_eq_ok_iff {levels : Nat} {raw : Raw} {value : Value} {text : String}
    (written : raw.value? levels = some value) :
    textOfRaw raw = .ok text ↔ textOfJson value = .ok text := by
  cases Raw.writes_of_value? written <;> simp [textOfRaw, textOfJson]

/-! ## Members in text order and by name -/

/-- A field is what a value under its name is read as, which must be the first to
be read for it, and it stays as it was where the name stands for nothing. -/
def ReadOver (found : Option Value) (known result : NodeFields) (field : NodeField) : Prop :=
  match found with
  | none => AgreeOn known result field
  | some value => known.Lacks field ∧ ShowsFromJson value result field

theorem readOver_congr {found : Option Value} {known next result : NodeFields}
    {field : NodeField} (same : AgreeOn known next field) :
    ReadOver found known result field ↔ ReadOver found next result field := by
  cases found with
  | none => exact NodeFields.agreeOn_congr same
  | some value => exact and_congr_left' (NodeFields.lacks_congr same)

theorem readOver_none_iff {found : Option Value} {fields : NodeFields} {field : NodeField} :
    ReadOver found NodeFields.none fields field ↔ ReadFrom found fields field := by
  cases found with
  | none => cases field <;> exact eq_comm
  | some value => cases field <;> exact and_iff_right rfl

/-- The first of some members with distinct names sets its field, and the others
are read over that. -/
theorem forall_readOver_cons_iff {field : NodeField} {value : Value}
    {members : List (String × Value)} (absent : field.name ∉ members.map Prod.fst)
    {known result : NodeFields} :
    (∀ other : NodeField,
        ReadOver (lookup other.name ((field.name, value) :: members)) known result other) ↔
      ∃ next, known.Lacks field ∧ SetsFromJson value known field next ∧
        ∀ other : NodeField, ReadOver (lookup other.name members) next result other := by
  have behind : ∀ {other : NodeField}, other ≠ field →
      lookup other.name ((field.name, value) :: members) = lookup other.name members :=
    fun different => lookup_cons_of_ne fun same => different (NodeField.name_injective same.symm)
  constructor
  · intro read
    have first := read field
    rw [lookup_cons_self absent] at first
    rcases first with ⟨lacks, shown⟩
    rcases NodeFields.exists_sets_of_shows known shown with ⟨next, set, same⟩
    refine ⟨next, lacks, set, ?_⟩
    intro other
    by_cases different : other = field
    · subst different
      rw [lookup_eq_none_of_not_mem absent]
      exact same
    · rw [← behind different, ← readOver_congr (set.agreeOn_of_ne different)]
      exact read other
  · rintro ⟨next, lacks, set, read⟩ other
    by_cases different : other = field
    · subst different
      have same := read other
      rw [lookup_eq_none_of_not_mem absent] at same
      rw [lookup_cons_self absent]
      exact ⟨lacks, set.shows same⟩
    · rw [behind different, readOver_congr (set.agreeOn_of_ne different)]
      exact read other

section

variable {levels : Nat}
  (agree : ∀ raw value, raw.value? levels = some value → value.distinctNames = true →
    ∀ child, childOfRaw levels raw = .ok child ↔ childOfJson value = .ok child)

include agree

theorem setsFromRaw_iff_setsFromJson {raw : Raw} {value : Value}
    (written : raw.value? levels = some value) (distinct : value.distinctNames = true)
    {known next : NodeFields} {field : NodeField} :
    SetsFromRaw levels raw known field next ↔ SetsFromJson value known field next :=
  NodeFields.sets_congr (fun _ => kindOfRaw_eq_ok_iff written distinct)
    (fun _ => textOfRaw_eq_ok_iff written) (agree raw value written distinct)

/-- Items are read alike, one by one. -/
theorem fieldsOfRawItems_eq_ok_iff {items : List Raw} {values : List Value}
    (written : Raw.itemValues? levels items = some values)
    (distinct : Value.itemsDistinctNames values = true) {order : List NodeField}
    {known result : NodeFields} :
    fieldsOfRawItems levels order known items = .ok result ↔
      fieldsOfItems order known values = .ok result := by
  induction items generalizing values order known with
  | nil =>
      cases written
      rw [fieldsOfRawItems.eq_def, fieldsOfItems.eq_def]
      simp
  | cons item items ih =>
      rcases Raw.itemValues?_cons_eq_some_iff.mp written with
        ⟨value, later, itemWritten, restWritten, rfl⟩
      rw [Value.itemsDistinctNames, Bool.and_eq_true] at distinct
      rw [fieldsOfRawItems_cons_eq_ok_iff, fieldsOfItems_cons_eq_ok_iff]
      simp only [setsFromRaw_iff_setsFromJson agree itemWritten distinct.1,
        ih restWritten distinct.2]

/-- Members with distinct names are read alike in text order and by name. -/
theorem fieldsOfMembers_eq_ok_iff {members : List (Option String × Raw)}
    {entries : List (String × Value)} (written : Raw.memberValues? levels members = some entries)
    (names : (entries.map Prod.fst).Nodup)
    (distinct : Value.membersDistinctNames entries = true) {known result : NodeFields} :
    fieldsOfMembers levels known members = .ok result ↔
      ∀ field : NodeField, ReadOver (lookup field.name entries) known result field := by
  induction members generalizing entries known with
  | nil =>
      cases written
      rw [fieldsOfMembers, Except.ok.injEq]
      constructor
      · rintro rfl field
        exact NodeFields.agreeOn_refl known field
      · intro same
        exact NodeFields.ext_of_agreeOn same
  | cons member members ih =>
      rcases member with ⟨key, raw⟩
      rcases Raw.memberValues?_cons_eq_some_iff.mp written with
        ⟨name, value, later, rfl, rawWritten, restWritten, rfl⟩
      rw [Value.membersDistinctNames, Bool.and_eq_true] at distinct
      rw [List.map_cons, List.nodup_cons] at names
      have rest := fun next => @ih later restWritten names.2 distinct.2 next
      rw [fieldsOfMembers_cons_eq_ok_iff]
      simp only [setsFromRaw_iff_setsFromJson agree rawWritten distinct.1, rest]
      cases named : NodeField.ofName? name with
      | none =>
          have unnamed : ∀ field : NodeField, name ≠ field.name := by
            rintro field rfl
            rw [NodeField.ofName?_name] at named
            contradiction
          simp only [lookup_cons_of_ne (unnamed _)]
          simp [named, Raw.isWhole_of_value? rawWritten]
      | some field =>
          cases NodeField.ofName?_eq_some_iff.mp named
          rw [forall_readOver_cons_iff names.1]
          simp

/-- An object with distinct names is read as the same children in both ways. -/
theorem childOfRaw_object_eq_ok_iff {members : List (Option String × Raw)}
    {entries : List (String × Value)} (written : Raw.memberValues? levels members = some entries)
    (distinct : (Value.object entries).distinctNames = true) {child : Option Rule} :
    childOfRaw (levels + 1) (.object members true) = .ok child ↔
      childOfJson (.object entries) = .ok child := by
  rw [Value.distinctNames, Bool.and_eq_true, decide_eq_true_iff] at distinct
  rw [childOfJson_object_eq_ok_iff]
  cases child with
  | none => simp [childOfRaw_eq_none_iff]
  | some rule =>
      have start : ∀ fields, fieldsOfMembers levels NodeFields.none members = .ok fields ↔
          FieldsNamed entries fields := by
        intro fields
        rw [fieldsOfMembers_eq_ok_iff agree written distinct.1 distinct.2]
        exact forall_congr' fun field => readOver_none_iff
      simp [childOfRaw_succ_eq_some_iff, start]

/-- An array is read as the same children in both ways. -/
theorem childOfRaw_array_eq_ok_iff {items : List Raw} {values : List Value}
    (written : Raw.itemValues? levels items = some values)
    (distinct : (Value.array values).distinctNames = true) {child : Option Rule} :
    childOfRaw (levels + 1) (.array items true) = .ok child ↔
      childOfJson (.array values) = .ok child := by
  rw [childOfJson_array_eq_ok_iff]
  cases child with
  | none => simp [childOfRaw_eq_none_iff]
  | some rule =>
      simp [childOfRaw_succ_eq_some_iff, fieldsOfRawItems_eq_ok_iff agree written distinct]

end

/-- What is written is read as the same children as its value, at every depth. -/
theorem childOfRaw_eq_ok_iff {levels : Nat} {raw : Raw} {value : Value}
    (written : raw.value? levels = some value) (distinct : value.distinctNames = true)
    (child : Option Rule) :
    childOfRaw levels raw = .ok child ↔ childOfJson value = .ok child := by
  induction levels using Nat.strongRecOn generalizing raw value child with
  | ind levels ih =>
      cases Raw.writes_of_value? written with
      | null | bool | number known | string =>
          rw [childOfRaw.eq_def, childOfJson.eq_def]
          simp
      | @array levels items values read =>
          exact childOfRaw_array_eq_ok_iff (fun raw value => ih levels levels.lt_succ_self) read
            distinct
      | @object levels members entries read =>
          exact childOfRaw_object_eq_ok_iff (fun raw value => ih levels levels.lt_succ_self) read
            distinct

/-- A text and its value are read as the same rules, if no object of the value
repeats a name.  So one of them is refused exactly if the other one is. -/
theorem ofWire_agrees_with_ofJson {text : String} {value : Value}
    (written : Json.read? Json.nestingLimit text = some value)
    (distinct : value.distinctNames = true) :
    (∀ rule, ofWire text = .ok rule ↔ ofJson value = .ok rule) ∧
    ((∃ error, ofWire text = .error error) ↔ ∃ fault, ofJson value = .error fault) := by
  have alike : ∀ rule, ofWire text = .ok rule ↔ ofJson value = .ok rule := by
    intro rule
    rw [ofWire_eq_ok_iff, ofJson_eq_ok_iff_childOfJson]
    rw [Json.read?] at written
    split at written
    · contradiction
    · rename_i complete
      rw [childOfRaw_eq_ok_iff written distinct]
      exact and_iff_left (eq_false_of_ne_true complete)
  refine ⟨alike, ?_⟩
  cases fromText : ofWire text with
  | ok rule => simp [(alike rule).mp fromText]
  | error error =>
      cases fromValue : ofJson value with
      | ok rule => simp [(alike rule).mpr fromValue] at fromText
      | error fault => simp

/-- Both forms of nodes and of kinds, absent children, keys out of order and a
member that is passed over. -/
theorem ofWire_agrees_with_ofJson_of_mixed_forms :
    ∃ value,
      Json.read? Json.nestingLimit
          "[\x7b\"operator\":null\x7d, \"OR\", \x7b\"right\":null, \"note\":[\x7b\"left\":1\x7d],
            \"value\":\"a = 1\", \"nodeType\":\"operand\"\x7d, [\"operand\", \"b > 2\", null]]" =
        some value ∧
      value.distinctNames = true ∧
      ofJson value = .ok (join "OR" (leaf "a = 1") (leaf "b > 2")) ∧
      ofWire
          "[\x7b\"operator\":null\x7d, \"OR\", \x7b\"right\":null, \"note\":[\x7b\"left\":1\x7d],
            \"value\":\"a = 1\", \"nodeType\":\"operand\"\x7d, [\"operand\", \"b > 2\", null]]" =
        .ok (join "OR" (leaf "a = 1") (leaf "b > 2")) := by
  let text :=
    "[\x7b\"operator\":null\x7d, \"OR\", \x7b\"right\":null, \"note\":[\x7b\"left\":1\x7d],
            \"value\":\"a = 1\", \"nodeType\":\"operand\"\x7d, [\"operand\", \"b > 2\", null]]"
  have written : ∃ value, Json.read? Json.nestingLimit text = some value :=
    Option.isSome_iff_exists.mp (by decide +kernel)
  have evaluated : (Json.read? Json.nestingLimit text).map
      (fun value => (value.distinctNames, (ofJson value).toOption)) =
        some (true, some (join "OR" (leaf "a = 1") (leaf "b > 2"))) := by
    decide +kernel
  rcases written with ⟨value, written⟩
  rw [written, Option.map_some, Option.some.injEq, Prod.mk.injEq] at evaluated
  have decoded := toOption_eq_some_iff.mp evaluated.2
  exact ⟨value, written, evaluated.1, decoded,
    ((ofWire_agrees_with_ofJson written evaluated.1).1 _).mpr decoded⟩

end Rule

end Eligibility
