import Eligibility.Proofs.Json.Reader

/-!
# The grammar of documents

A value is spelled by its tokens: brackets and braces around its parts, commas between
them, and a colon behind every key.  A document is assembled from tokens one by one, and
what has been assembled at any time spells the tokens read so far.  So a text is read as
a value exactly if its tokens spell a document that has this value.
-/

namespace Eligibility.Json

/-- Parts with a comma between every two of them. -/
def separated : List (List Token) → List Token
  | [] => []
  | part :: parts => part ++ parts.flatMap fun part => .comma :: part

/-- Parts with a comma behind every one of them. -/
def terminated (parts : List (List Token)) : List Token :=
  parts.flatMap fun part => part ++ [.comma]

theorem terminated_concat (parts : List (List Token)) (part : List Token) :
    terminated (parts ++ [part]) = terminated parts ++ (part ++ [.comma]) := by
  simp [terminated]

/-- Before the last one of several parts every part has a comma behind it. -/
theorem separated_concat (parts : List (List Token)) (part : List Token) :
    separated (parts ++ [part]) = terminated parts ++ part := by
  induction parts with
  | nil => simp [separated, terminated]
  | cons first parts ih =>
      cases parts with
      | nil => simp [separated, terminated]
      | cons next parts =>
          rw [List.cons_append, separated] at ih
          simp only [separated, terminated, List.cons_append, List.flatMap_cons, List.append_assoc]
            at ih ⊢
          rw [ih]
          rfl

namespace Raw

mutual

/-- The tokens that spell a value with nothing missing. -/
def spelling : Raw → List Token
  | .null => [.null]
  | .bool value => [.bool value]
  | .number numeral => [.number numeral]
  | .string text => [.string text]
  | .array items _ => .openBracket :: (separated (itemSpellings items) ++ [.closeBracket])
  | .object members _ => .openBrace :: (separated (memberSpellings members) ++ [.closeBrace])
  | .missing => []

/-- The tokens of each of some items. -/
def itemSpellings : List Raw → List (List Token)
  | [] => []
  | item :: items => spelling item :: itemSpellings items

/-- The tokens of each of some members: key, colon and value. -/
def memberSpellings : List (Option String × Raw) → List (List Token)
  | [] => []
  | (key, item) :: members => (.string key :: .colon :: spelling item) :: memberSpellings members

end

theorem itemSpellings_append (items others : List Raw) :
    itemSpellings (items ++ others) = itemSpellings items ++ itemSpellings others := by
  induction items with
  | nil => rfl
  | cons item items ih => rw [List.cons_append, itemSpellings, itemSpellings, ih, List.cons_append]

theorem memberSpellings_append (members others : List (Option String × Raw)) :
    memberSpellings (members ++ others) = memberSpellings members ++ memberSpellings others := by
  induction members with
  | nil => rfl
  | cons member members ih =>
      rw [List.cons_append, memberSpellings, memberSpellings, ih, List.cons_append]

end Raw

namespace Document

/-! ## What has been assembled spells what has been read -/

/-- The tokens that open frames, up to the value that is expected in the innermost
one. -/
def Frame.opening : List Frame → List Token
  | [] => []
  | .array items :: frames =>
      opening frames ++ .openBracket :: terminated (Raw.itemSpellings items.reverse)
  | .object members key :: frames =>
      opening frames ++ .openBrace ::
        (terminated (Raw.memberSpellings members.reverse) ++ [.string key, .colon])

/-- What a state says about the tokens that have led to it.  Once a text has stopped being
JSON nothing is said but that there is no whole value without tokens behind it. -/
def State.Spells (tokens : List Token) : State → Prop
  | .value frames => tokens = Frame.opening frames
  | .firstItem frames => tokens = Frame.opening frames ++ [.openBracket]
  | .afterItem items frames => ∃ item before, items = item :: before ∧
      tokens = Frame.opening (.array before :: frames) ++ item.spelling
  | .firstKey frames => tokens = Frame.opening frames ++ [.openBrace]
  | .nextKey members frames => tokens = Frame.opening frames ++ .openBrace ::
      terminated (Raw.memberSpellings members.reverse)
  | .afterKey members key frames => tokens ++ [.colon] = Frame.opening (.object members key :: frames)
  | .afterMember members frames => ∃ key item before, members = (key, item) :: before ∧
      tokens = Frame.opening (.object before key :: frames) ++ item.spelling
  | .complete root => tokens = root.spelling
  | .finished document => document.trailing = true ∨ document.root.isWhole = false

theorem isWhole_abandon {inner : Raw} (broken : inner.isWhole = false) (frames : List Frame) :
    (abandon inner frames).isWhole = false := by
  induction frames generalizing inner with
  | nil => exact broken
  | cons frame frames ih => cases frame <;> exact ih rfl

theorem spells_broken {inner : Raw} (unfinished : inner.isWhole = false) (tokens : List Token)
    (frames : List Frame) : (broken inner frames).Spells tokens :=
  .inr (isWhole_abandon unfinished frames)

theorem spells_supply {tokens : List Token} {value : Raw} {frames : List Frame}
    (read : tokens = Frame.opening frames ++ value.spelling) :
    (supply value frames).Spells tokens := by
  match frames with
  | [] => exact read
  | .array items :: frames => exact ⟨value, items, rfl, read⟩
  | .object members key :: frames => exact ⟨key, value, members, rfl, read⟩

theorem spells_beginValue (frames : List Frame) (token : Token) :
    (beginValue frames token).Spells (Frame.opening frames ++ [token]) := by
  cases token with
  | null | bool | number | string => exact spells_supply rfl
  | openBracket | openBrace => exact rfl
  | closeBrace | closeBracket | colon | comma | bad => exact spells_broken rfl _ frames

/-- A key is spelled behind the members before it. -/
theorem spells_readKey {tokens : List Token} {members : List (Option String × Raw)}
    {frames : List Frame} (read : tokens = Frame.opening frames ++ .openBrace ::
      terminated (Raw.memberSpellings members.reverse)) (token : Token) :
    (readKey members frames token).Spells (tokens ++ [token]) := by
  cases token with
  | string text =>
      change tokens ++ [.string text] ++ [.colon] = _
      rw [read, Frame.opening]
      simp
  | null | bool | number | openBracket | openBrace | closeBrace | closeBracket | colon | comma
  | bad => exact spells_broken rfl _ frames

theorem opening_array_append (item : Raw) (items : List Raw) (frames : List Frame) :
    Frame.opening (.array items :: frames) ++ item.spelling =
      Frame.opening frames ++ .openBracket ::
        separated (Raw.itemSpellings (item :: items).reverse) := by
  rw [List.reverse_cons, Raw.itemSpellings_append, Raw.itemSpellings, Raw.itemSpellings,
    separated_concat, Frame.opening, List.append_assoc, List.cons_append]

theorem opening_object_append (key : Option String) (item : Raw)
    (members : List (Option String × Raw)) (frames : List Frame) :
    Frame.opening (.object members key :: frames) ++ item.spelling =
      Frame.opening frames ++ .openBrace ::
        separated (Raw.memberSpellings ((key, item) :: members).reverse) := by
  rw [List.reverse_cons, Raw.memberSpellings_append, Raw.memberSpellings, Raw.memberSpellings,
    separated_concat, Frame.opening]
  simp

theorem opening_array_cons (item : Raw) (items : List Raw) (frames : List Frame) :
    Frame.opening (.array (item :: items) :: frames) =
      Frame.opening (.array items :: frames) ++ item.spelling ++ [.comma] := by
  rw [Frame.opening, List.reverse_cons, Raw.itemSpellings_append, Raw.itemSpellings,
    Raw.itemSpellings, terminated_concat, Frame.opening]
  simp

theorem terminated_memberSpellings_cons (key : Option String) (item : Raw)
    (members : List (Option String × Raw)) (frames : List Frame) :
    Frame.opening frames ++ .openBrace ::
        terminated (Raw.memberSpellings ((key, item) :: members).reverse) =
      Frame.opening (.object members key :: frames) ++ item.spelling ++ [.comma] := by
  rw [List.reverse_cons, Raw.memberSpellings_append, Raw.memberSpellings, Raw.memberSpellings,
    terminated_concat, Frame.opening]
  simp

/-- One more token is spelled by the state after it. -/
theorem spells_step {tokens : List Token} {state : State} (read : state.Spells tokens)
    (token : Token) : (step state token).Spells (tokens ++ [token]) := by
  cases state with
  | value frames =>
      rw [State.Spells] at read
      rw [read]
      exact spells_beginValue frames token
  | firstItem frames =>
      rw [State.Spells] at read
      by_cases empty : token = .closeBracket
      · rw [read, empty]
        exact spells_supply (List.append_assoc _ _ _)
      · have opened : tokens = Frame.opening (.array [] :: frames) := read
        have stepped : step (.firstItem frames) token = beginValue (.array [] :: frames) token := by
          cases token <;> first | rfl | contradiction
        rw [stepped, opened]
        exact spells_beginValue _ token
  | afterItem items frames =>
      obtain ⟨item, before, rfl, rfl⟩ := read
      cases token with
      | comma => exact (opening_array_cons item before frames).symm
      | closeBracket =>
          apply spells_supply
          rw [opening_array_append, List.append_assoc]
          rfl
      | null | bool | number | string | openBracket | openBrace | closeBrace | colon | bad =>
          exact spells_broken rfl _ frames
  | firstKey frames =>
      rw [State.Spells] at read
      by_cases empty : token = .closeBrace
      · rw [read, empty]
        exact spells_supply (List.append_assoc _ _ _)
      · have stepped : step (.firstKey frames) token = readKey [] frames token := by
          cases token <;> first | rfl | contradiction
        rw [stepped]
        exact spells_readKey read token
  | nextKey members frames => exact spells_readKey read token
  | afterKey members key frames =>
      cases token with
      | colon => exact read
      | null | bool | number | string | openBracket | openBrace | closeBracket | closeBrace
      | comma | bad => exact spells_broken rfl _ (.object members key :: frames)
  | afterMember members frames =>
      obtain ⟨key, item, before, rfl, rfl⟩ := read
      cases token with
      | comma => exact (terminated_memberSpellings_cons key item before frames).symm
      | closeBrace =>
          apply spells_supply
          rw [opening_object_append, List.append_assoc]
          rfl
      | null | bool | number | string | openBracket | openBrace | closeBracket | colon | bad =>
          exact spells_broken rfl _ frames
  | complete root => exact .inl rfl
  | finished document => exact read

theorem spells_foldl {state : State} {read : List Token} (known : state.Spells read)
    (tokens : List Token) : (tokens.foldl step state).Spells (read ++ tokens) := by
  induction tokens generalizing state read with
  | nil => rwa [List.append_nil]
  | cons token tokens ih =>
      rw [List.foldl_cons, List.append_cons]
      exact ih (spells_step known token)

/-- A whole document without tokens behind it spells the tokens of its text. -/
theorem spelling_of_ofTokens {tokens : List Token} (whole : (ofTokens tokens).root.isWhole = true)
    (ended : (ofTokens tokens).trailing = false) : tokens = (ofTokens tokens).root.spelling := by
  have start : State.Spells [] (.value []) := rfl
  have read : (tokens.foldl step (.value [])).Spells tokens := spells_foldl start tokens
  rw [ofTokens] at whole ended ⊢
  generalize tokens.foldl step (.value []) = state at read whole ended ⊢
  have unfinished {inner : Raw} (broken : inner.isWhole = false) (frames : List Frame)
      (whole : (abandon inner frames).isWhole = true) : tokens = (abandon inner frames).spelling := by
    rw [isWhole_abandon broken frames] at whole
    contradiction
  cases state with
  | complete root => exact read
  | finished document =>
      rcases read with trailing | broken
      · exact absurd (ended.symm.trans trailing) Bool.false_ne_true
      · exact absurd (broken.symm.trans whole) Bool.false_ne_true
  | value frames => exact unfinished rfl frames whole
  | firstItem frames => exact unfinished rfl frames whole
  | afterItem items frames => exact unfinished rfl frames whole
  | firstKey frames => exact unfinished rfl frames whole
  | nextKey members frames => exact unfinished rfl frames whole
  | afterKey members key frames => exact unfinished rfl (.object members key :: frames) whole
  | afterMember members frames => exact unfinished rfl frames whole

/-! ## What is spelled is assembled -/

theorem foldl_step_firstItem {levels : Nat} {raw : Raw} {value : Value}
    (read : raw.value? levels = some value) (frames : List Frame) :
    raw.spelling.foldl step (.firstItem frames) =
      raw.spelling.foldl step (.value (.array [] :: frames)) := by
  cases Raw.writes_of_value? read <;> rfl

section

variable {levels : Nat} (assembled : ∀ raw value frames, Raw.value? levels raw = some value →
  raw.spelling.foldl step (.value frames) = supply raw frames)
include assembled

/-- Further items are assembled one after another. -/
theorem foldl_step_laterItems {items : List Raw} {values : List Value}
    (read : Raw.itemValues? levels items = some values) (before : List Raw)
    (frames : List Frame) :
    ((Raw.itemSpellings items).flatMap fun part => .comma :: part).foldl step
        (.afterItem before frames) = .afterItem (items.reverse ++ before) frames := by
  induction items generalizing values before with
  | nil => rfl
  | cons item items ih =>
      obtain ⟨value, later, itemRead, rest, -⟩ := Raw.itemValues?_cons_eq_some_iff.mp read
      have known := assembled item value (.array before :: frames) itemRead
      rw [Raw.itemSpellings, List.flatMap_cons, List.cons_append, List.foldl_cons,
        List.foldl_append]
      change List.foldl step (List.foldl step (.value (.array before :: frames)) _) _ = _
      rw [known]
      change List.foldl step (.afterItem (item :: before) frames) _ = _
      rw [ih rest, List.reverse_cons, List.append_assoc, List.singleton_append]

/-- Further members are assembled one after another. -/
theorem foldl_step_laterMembers {members : List (Option String × Raw)}
    {values : List (String × Value)} (read : Raw.memberValues? levels members = some values)
    (before : List (Option String × Raw)) (frames : List Frame) :
    ((Raw.memberSpellings members).flatMap fun part => .comma :: part).foldl step
        (.afterMember before frames) = .afterMember (members.reverse ++ before) frames := by
  induction members generalizing values before with
  | nil => rfl
  | cons member members ih =>
      obtain ⟨key, item⟩ := member
      obtain ⟨name, value, later, rfl, itemRead, rest, -⟩ :=
        Raw.memberValues?_cons_eq_some_iff.mp read
      have known := assembled item value (.object before (some name) :: frames) itemRead
      rw [Raw.memberSpellings, List.flatMap_cons, List.cons_append, List.foldl_cons,
        List.foldl_append]
      change List.foldl step
        (List.foldl step (.value (.object before (some name) :: frames)) _) _ = _
      rw [known]
      change List.foldl step (.afterMember ((some name, item) :: before) frames) _ = _
      rw [ih rest, List.reverse_cons, List.append_assoc, List.singleton_append]

/-- The tokens of an array are assembled to it. -/
theorem foldl_step_array {items : List Raw} {values : List Value}
    (read : Raw.itemValues? levels items = some values) (frames : List Frame) :
    (Raw.array items true).spelling.foldl step (.value frames) =
      supply (.array items true) frames := by
  cases items with
  | nil => rfl
  | cons item items =>
      obtain ⟨value, later, itemRead, rest, -⟩ := Raw.itemValues?_cons_eq_some_iff.mp read
      rw [Raw.spelling, Raw.itemSpellings, separated, List.foldl_cons, List.foldl_append,
        List.foldl_append]
      change List.foldl step
        (List.foldl step (List.foldl step (.firstItem frames) item.spelling) _) _ = _
      rw [foldl_step_firstItem itemRead, assembled item value _ itemRead]
      change List.foldl step (List.foldl step (.afterItem [item] frames) _) _ = _
      rw [foldl_step_laterItems assembled rest]
      change supply (.array (items.reverse ++ [item]).reverse true) frames = _
      rw [← List.reverse_cons, List.reverse_reverse]

/-- The tokens of an object are assembled to it. -/
theorem foldl_step_object {members : List (Option String × Raw)}
    {values : List (String × Value)} (read : Raw.memberValues? levels members = some values)
    (frames : List Frame) :
    (Raw.object members true).spelling.foldl step (.value frames) =
      supply (.object members true) frames := by
  cases members with
  | nil => rfl
  | cons member members =>
      obtain ⟨key, item⟩ := member
      obtain ⟨name, value, later, rfl, itemRead, rest, -⟩ :=
        Raw.memberValues?_cons_eq_some_iff.mp read
      rw [Raw.spelling, Raw.memberSpellings, separated, List.foldl_cons, List.foldl_append,
        List.foldl_append]
      change List.foldl step (List.foldl step (List.foldl step
        (.value (.object [] (some name) :: frames)) item.spelling) _) _ = _
      rw [assembled item value _ itemRead]
      change List.foldl step (List.foldl step (.afterMember [(some name, item)] frames) _) _ = _
      rw [foldl_step_laterMembers assembled rest]
      change supply (.object (members.reverse ++ [(some name, item)]).reverse true) frames = _
      rw [← List.reverse_cons, List.reverse_reverse]

end

/-- The tokens of a value are assembled to it, wherever a value is expected. -/
theorem foldl_step_spelling {levels : Nat} {raw : Raw} {value : Value}
    (read : raw.value? levels = some value) (frames : List Frame) :
    raw.spelling.foldl step (.value frames) = supply raw frames := by
  induction levels using Nat.strongRecOn generalizing raw value frames with
  | ind levels ih =>
      cases Raw.writes_of_value? read with
      | null | bool | number known | string => rfl
      | @array levels items values itemsRead =>
          exact foldl_step_array
            (fun raw value frames read => ih levels levels.lt_succ_self read frames) itemsRead frames
      | @object levels members values membersRead =>
          exact foldl_step_object
            (fun raw value frames read => ih levels levels.lt_succ_self read frames) membersRead
            frames

end Document

/-! ## Texts and values -/

/-- A text is read as a value exactly if its tokens spell a document that has this
value. -/
theorem read?_eq_some_iff {levels : Nat} {text : String} {value : Value} :
    read? levels text = some value ↔
      ∃ raw : Raw, tokens text.toList = raw.spelling ∧ raw.value? levels = some value := by
  have document : Document.ofText text.toList = Document.ofTokens (tokens text.toList) := rfl
  rw [read?, document]
  constructor
  · intro read
    split at read
    · contradiction
    · rename_i ended
      have spelled := Document.spelling_of_ofTokens (Raw.isWhole_of_value? read)
        (Bool.eq_false_iff.mpr ended)
      exact ⟨_, spelled, read⟩
  · rintro ⟨raw, spelled, known⟩
    have assembled : Document.ofTokens (tokens text.toList) = ⟨raw, false⟩ := by
      rw [Document.ofTokens, spelled, Document.foldl_step_spelling known]
      rfl
    rw [assembled]
    exact known

end Eligibility.Json
