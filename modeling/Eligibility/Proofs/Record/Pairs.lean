import Eligibility.Proofs.Json.Grammar
import Eligibility.Proofs.Rule.Alike
import Eligibility.Record.FromText
import Eligibility.Session
import Mathlib.Data.List.Dedup

/-!
# Records made of pairs

A record can be collected from pairs of names and values, filled with them one by one,
read from the text of an object that has them as members, or taken from the value of
that text.  It is the same record each time: every name has the last value that the
pairs list for it.  So the order of the pairs does not matter, as long as the values of
each name stay in their order.
-/

namespace Eligibility

universe u

/-- The values that pairs list for a name, in their order. -/
def valuesListed {α : Type u} (name : String) (pairs : List (String × α)) : List α :=
  pairs.filterMap fun pair => if pair.1 = name then some pair.2 else none

/-- Pairs in another order that keeps the order of the values of each name. -/
def Reordered {α : Type u} (pairs others : List (String × α)) : Prop :=
  ∀ name, valuesListed name pairs = valuesListed name others

@[simp]
theorem valuesListed_nil {α : Type u} (name : String) :
    valuesListed name ([] : List (String × α)) = [] :=
  rfl

theorem valuesListed_cons_self {α : Type u} (name : String) (value : α)
    (pairs : List (String × α)) :
    valuesListed name ((name, value) :: pairs) = value :: valuesListed name pairs :=
  List.filterMap_cons_some (if_pos rfl)

theorem valuesListed_cons_of_ne {α : Type u} {name other : String} (different : other ≠ name)
    (value : α) (pairs : List (String × α)) :
    valuesListed name ((other, value) :: pairs) = valuesListed name pairs :=
  List.filterMap_cons_none (if_neg different)

/-- Exactly the names of pairs have values. -/
theorem valuesListed_ne_nil_iff {α : Type u} {name : String} {pairs : List (String × α)} :
    valuesListed name pairs ≠ [] ↔ name ∈ pairs.map Prod.fst := by
  induction pairs with
  | nil => simp
  | cons pair pairs ih =>
      obtain ⟨other, value⟩ := pair
      rw [List.map_cons, List.mem_cons, ← ih]
      by_cases same : other = name
      · rw [same, valuesListed_cons_self]
        simp
      · rw [valuesListed_cons_of_ne same]
        simp [Ne.symm same]

/-- A name stands for the last value that is listed for it. -/
theorem Json.lookup_eq_getLast? (name : String) (pairs : List (String × Json.Value)) :
    lookup name pairs = (valuesListed name pairs).getLast? := by
  induction pairs with
  | nil => rfl
  | cons pair pairs ih =>
      obtain ⟨other, value⟩ := pair
      by_cases same : other = name
      · subst same
        rw [lookup, ih, valuesListed_cons_self, List.getLast?_cons]
        cases (valuesListed other pairs).getLast? with
        | none => exact if_pos rfl
        | some later => rfl
      · rw [lookup_cons_of_ne same, valuesListed_cons_of_ne same, ih]

/-! ## What a table of pairs holds -/

namespace Table

variable {α : Type u} {pairs others : List (String × α)}

theorem ofPairs_concat (pairs : List (String × α)) (pair : String × α) :
    ofPairs (pairs ++ [pair]) = (ofPairs pairs).put pair.1 pair.2 := by
  rw [ofPairs, List.foldl_append]
  rfl

/-- The names that are put into a table are added to its own ones. -/
theorem mem_names_foldl_put {table : Table α} {name : String} :
    name ∈ (pairs.foldl (fun table pair => table.put pair.1 pair.2) table).entries.map Prod.fst ↔
      name ∈ table.entries.map Prod.fst ∨ name ∈ pairs.map Prod.fst := by
  induction pairs generalizing table with
  | nil => simp
  | cons pair pairs ih =>
      have put : name ∈ (table.put pair.1 pair.2).entries.map Prod.fst ↔
          name = pair.1 ∨ name ∈ table.entries.map Prod.fst :=
        Entries.mem_names_put
      rw [List.foldl_cons, ih, put, List.map_cons, List.mem_cons, or_assoc, or_left_comm]

theorem mem_names_ofPairs {name : String} :
    name ∈ (ofPairs pairs).entries.map Prod.fst ↔ name ∈ pairs.map Prod.fst := by
  rw [ofPairs, mem_names_foldl_put]
  simp [empty]

theorem size_eq_length {table : Table α} {names : List String} (distinct : names.Nodup)
    (same : ∀ name, name ∈ table.entries.map Prod.fst ↔ name ∈ names) :
    table.size = names.length := by
  have sameNames : (table.entries.map Prod.fst).Perm names :=
    (List.perm_ext_iff_of_nodup table.distinct distinct).mpr same
  rw [size, ← sameNames.length_eq, List.length_map]

theorem size_ofPairs (pairs : List (String × α)) :
    (ofPairs pairs).size = (pairs.map Prod.fst).dedup.length := by
  apply size_eq_length (List.nodup_dedup _)
  intro name
  rw [mem_names_ofPairs, List.mem_dedup]

theorem isEmpty_ofPairs_iff : (ofPairs pairs).isEmpty = true ↔ pairs = [] := by
  constructor
  · intro emptied
    cases pairs with
    | nil => rfl
    | cons pair pairs =>
        have member : pair.1 ∈ (ofPairs (pair :: pairs)).entries.map Prod.fst :=
          mem_names_ofPairs.mpr List.mem_cons_self
        rw [List.isEmpty_iff.mp emptied] at member
        cases member
  · rintro rfl
    rfl

theorem size_ofPairs_eq_of_reordered (reordered : Reordered pairs others) :
    (ofPairs pairs).size = (ofPairs others).size := by
  rw [size_ofPairs others]
  apply size_eq_length (List.nodup_dedup _)
  intro name
  rw [mem_names_ofPairs, List.mem_dedup, ← valuesListed_ne_nil_iff, ← valuesListed_ne_nil_iff,
    reordered name]

end Table

/-! ## Filling a record in a session -/

namespace Session

/-- The session after requests. -/
def after (session : Session) : List Request → Session
  | [] => session
  | request :: requests =>
      match session.answer request with
      | .ok (_, next) => next.after requests
      | .error _ => session.after requests

theorem length_answers (session : Session) (requests : List Request) :
    (session.answers requests).length = requests.length := by
  induction requests generalizing session with
  | nil => rfl
  | cons request requests ih =>
      rw [answers]
      split
      · rw [List.length_cons, ih, List.length_cons]
      · rw [List.length_cons, ih, List.length_cons]

/-- Further requests are answered by the session after the first ones. -/
theorem answers_append (session : Session) (requests others : List Request) :
    session.answers (requests ++ others) =
      session.answers requests ++ (session.after requests).answers others := by
  induction requests generalizing session with
  | nil => rfl
  | cons request requests ih =>
      rw [List.cons_append, answers, answers, after]
      cases session.answer request with
      | ok answered =>
          obtain ⟨answer, next⟩ := answered
          exact congrArg (List.cons (.ok answer)) (ih next)
      | error failure => exact congrArg (List.cons (.error failure)) (ih session)

/-- Requests that put pairs into a record, whatever the session answers. -/
def PutsInto (name : String) (request : String × Json.Value → Request) : Prop :=
  ∀ (session : Session) (pair : String × Json.Value), ∃ answer,
    session.answer (request pair) =
      .ok (answer, session.putRecord name ((session.record name).put pair.1 pair.2))

theorem putsInto_insert (name : String) :
    PutsInto name fun pair => .insert name pair.1 pair.2 :=
  fun _ _ => ⟨_, rfl⟩

theorem putsInto_copyWith (name : String) :
    PutsInto name fun pair => .copyWith name name pair.1 pair.2 :=
  fun _ _ => ⟨_, rfl⟩

variable {session : Session} {name : String} {request : String × Json.Value → Request}

@[simp]
theorem record_putRecord (session : Session) (name : String) (record : Record) :
    (session.putRecord name record).record name = record := by
  rw [Session.record, putRecord, Table.get?_put, if_pos rfl, Option.getD_some]

/-- The requests leave the record with the pairs put into it. -/
theorem record_after (puts : PutsInto name request) (pairs : List (String × Json.Value)) :
    (session.after (pairs.map request)).record name =
      pairs.foldl (fun record pair => record.put pair.1 pair.2) (session.record name) := by
  induction pairs generalizing session with
  | nil => rfl
  | cons pair pairs ih =>
      obtain ⟨answer, answered⟩ := puts session pair
      rw [List.map_cons, after, answered]
      dsimp only
      rw [ih, record_putRecord, List.foldl_cons]

theorem record_after_of_empty (puts : PutsInto name request)
    (fresh : session.record name = .empty) (pairs : List (String × Json.Value)) :
    (session.after (pairs.map request)).record name = Table.ofPairs pairs := by
  rw [record_after puts, fresh]
  rfl

/-- A value that is put into a record is answered with the one that it replaces, which is
the last one listed for its name before. -/
theorem getElem?_answers_insert (fresh : session.record name = .empty)
    (before later : List (String × Json.Value)) (field : String) (value : Json.Value) :
    (session.answers ((before ++ (field, value) :: later).map fun pair =>
        .insert name pair.1 pair.2))[before.length]? =
      some (.ok (.inserted (valuesListed field before).getLast?
        (Table.ofPairs (before ++ [(field, value)])))) := by
  have filled := record_after_of_empty (putsInto_insert name) fresh before
  have length_eq : (session.answers (before.map fun pair =>
      .insert name pair.1 pair.2)).length = before.length := by
    rw [length_answers, List.length_map]
  rw [List.map_append, answers_append, List.getElem?_append_right (Nat.le_of_eq length_eq),
    length_eq, Nat.sub_self, List.map_cons, answers, answer, filled, Record.get?_ofPairs,
    Json.lookup_eq_getLast?, ← Table.ofPairs_concat before (field, value)]
  rfl

end Session

/-! ## Reading a record from a text -/

/-- A text is an object with some members, in their order: its tokens spell a document
with that value. -/
def Json.HasMembers (text : String) (pairs : List (String × Json.Value)) : Prop :=
  ∃ raw : Raw, tokens text.toList = raw.spelling ∧
    raw.value? nestingLimit = some (.object pairs)

namespace Record

/-- A text is a record exactly if it is read as an object, and then it is the record of
the members. -/
theorem ofText_eq_ok_iff {text : String} {record : Record} :
    ofText text = .ok record ↔ ∃ pairs,
      Json.read? Json.nestingLimit text = some (.object pairs) ∧ record = Table.ofPairs pairs := by
  rw [ofText, Json.read?]
  generalize Json.Document.ofText text.toList = document
  constructor
  · intro read
    split at read
    · rename_i members closed root_eq
      split at read
      · rename_i entries known ended
        cases read
        exact ⟨entries, by rw [ended, root_eq]; exact known, rfl⟩
      · cases read
    · split at read <;> cases read
  · rintro ⟨pairs, read, rfl⟩
    split at read
    · cases read
    · rename_i ended
      obtain ⟨root, trailing⟩ := document
      cases Json.Raw.writes_of_value? read with
      | object membersRead =>
        dsimp only at read ended ⊢
        rw [read, Bool.eq_false_iff.mpr ended]

/-! ## All ways to make a record -/

/-- No rule tells records of reordered pairs apart. -/
theorem get?_ofPairs_eq_of_reordered {pairs others : List (String × Json.Value)}
    (reordered : Reordered pairs others) (name : String) :
    (Table.ofPairs pairs : Record).get? name = (Table.ofPairs others : Record).get? name := by
  rw [get?_ofPairs, get?_ofPairs, Json.lookup_eq_getLast?, Json.lookup_eq_getLast?,
    reordered name]

/-- What a record of pairs holds: for every name the last value that is listed for it. -/
structure HoldsPairs (pairs : List (String × Json.Value)) (record : Record) : Prop where
  get?_eq : ∀ name, record.get? name = (valuesListed name pairs).getLast?
  size_eq : record.size = (pairs.map Prod.fst).dedup.length
  isEmpty_iff : record.isEmpty = true ↔ pairs = []

theorem holdsPairs_ofPairs (pairs : List (String × Json.Value)) :
    HoldsPairs pairs (Table.ofPairs pairs) where
  get?_eq name := by rw [get?_ofPairs, Json.lookup_eq_getLast?]
  size_eq := Table.size_ofPairs pairs
  isEmpty_iff := Table.isEmpty_ofPairs_iff

/-- There is one record of pairs, however it is made: collected, filled by putting one
pair after another into an empty record, or read from an object with these members, be
it a text or a value.  Putting a pair answers the value that it replaces.  In another
order that keeps the order of the values of each name the pairs make a record that no
look-up and no rule tells apart. -/
theorem pairs_make_one_record (pairs : List (String × Json.Value)) :
    ∃ record : Record, HoldsPairs pairs record ∧ Table.ofPairs pairs = record ∧
      (∀ (session : Session) (name : String), session.record name = .empty →
        (session.after (pairs.map fun pair => .insert name pair.1 pair.2)).record name = record ∧
        (session.after (pairs.map fun pair => .copyWith name name pair.1 pair.2)).record name =
          record ∧
        ∀ before field value later, pairs = before ++ (field, value) :: later →
          (session.answers (pairs.map fun pair => .insert name pair.1 pair.2))[before.length]? =
            some (.ok (.inserted (valuesListed field before).getLast?
              (Table.ofPairs (before ++ [(field, value)]))))) ∧
      (∀ text, (Json.HasMembers text pairs ↔
          Json.read? Json.nestingLimit text = some (.object pairs)) ∧
        (Json.HasMembers text pairs → ofText text = .ok record)) ∧
      ofJson (.object pairs) = .ok record ∧
      ∀ others, Reordered pairs others →
        (∀ name, (Table.ofPairs others).get? name = record.get? name) ∧
        (Table.ofPairs others).size = record.size ∧
        ∀ rule : Rule, rule.evaluate (Table.ofPairs others) = rule.evaluate record := by
  refine ⟨Table.ofPairs pairs, holdsPairs_ofPairs pairs, rfl, ?_, ?_, rfl, ?_⟩
  · intro session name fresh
    refine ⟨Session.record_after_of_empty (Session.putsInto_insert name) fresh pairs,
      Session.record_after_of_empty (Session.putsInto_copyWith name) fresh pairs, ?_⟩
    rintro before field value later rfl
    exact Session.getElem?_answers_insert fresh before later field value
  · intro text
    have readable : Json.HasMembers text pairs ↔
        Json.read? Json.nestingLimit text = some (.object pairs) :=
      Json.read?_eq_some_iff.symm
    exact ⟨readable, fun members => ofText_eq_ok_iff.mpr ⟨pairs, readable.mp members, rfl⟩⟩
  · intro others reordered
    have same := get?_ofPairs_eq_of_reordered reordered
    refine ⟨fun name => (same name).symm, (Table.size_ofPairs_eq_of_reordered reordered).symm, ?_⟩
    intro rule
    apply Rule.evaluate_eq_of_alike
    intro field _
    rw [same field]
    exact .refl _

/-- The second value of a repeated name replaces the first one, and a pair of another
name may stand anywhere. -/
theorem pairs_make_one_record_of_repeated_name :
    let first : Json.Value := .number (.integer ⟨35, by decide, by decide⟩)
    let second : Json.Value := .number (.integer ⟨36, by decide, by decide⟩)
    let pairs := [("age", first), ("name", .string "Ann"), ("age", second)]
    let text := "\x7b\"age\": 35, \"name\" :\"Ann\",\"age\":36\x7d"
    Json.HasMembers text pairs ∧ ofText text = .ok (Table.ofPairs pairs) ∧
      (Session.empty.answers (pairs.map fun pair => .insert "Ann" pair.1 pair.2))[2]? =
        some (.ok (.inserted (some first) (Table.ofPairs pairs))) ∧
      ∀ rule : Rule, rule.evaluate (Table.ofPairs pairs) =
        rule.evaluate (Table.ofPairs [("age", first), ("age", second), ("name", .string "Ann")]) := by
  intro first second pairs text
  have members : Json.HasMembers text pairs := by
    refine ⟨.object [(some "age", .number ⟨false, ['3', '5'], [], none⟩),
      (some "name", .string (some "Ann")), (some "age", .number ⟨false, ['3', '6'], [], none⟩)] true,
      by decide +kernel, rfl⟩
  have reordered :
      Reordered pairs [("age", first), ("age", second), ("name", .string "Ann")] := by
    intro name
    by_cases age : "age" = name
    · subst age
      rfl
    · rw [valuesListed_cons_of_ne age, valuesListed_cons_of_ne age, valuesListed_cons_of_ne age]
      by_cases other : "name" = name
      · subst other
        rfl
      · rw [valuesListed_cons_of_ne other, valuesListed_cons_of_ne other,
          valuesListed_cons_of_ne age]
  obtain ⟨record, -, rfl, filled, read, -, same⟩ := pairs_make_one_record pairs
  refine ⟨members, (read text).2 members, ?_, fun rule => ((same _ reordered).2.2 rule).symm⟩
  exact (filled .empty "Ann" rfl).2.2 [("age", first), ("name", .string "Ann")] "age" second [] rfl

end Record

end Eligibility
