/-!
# Tables

A table keeps one value for each of finitely many names.  Putting a value under
a name that is already there replaces the old value and leaves the order of the
names as it was.
-/

namespace Eligibility

universe u

namespace Entries

variable {α : Type u}

/-- The value under a name. -/
def get? (name : String) : List (String × α) → Option α
  | [] => none
  | (other, value) :: entries => if other = name then some value else get? name entries

/-- Entries with a value put under a name. -/
def put (name : String) (value : α) : List (String × α) → List (String × α)
  | [] => [(name, value)]
  | (other, old) :: entries =>
      if other = name then (name, value) :: entries
      else (other, old) :: put name value entries

/-- A value that has been put under a name is found there, and the values of
all other names are found as before. -/
theorem get?_put (name other : String) (value : α) (entries : List (String × α)) :
    get? other (put name value entries) =
      if other = name then some value else get? other entries := by
  induction entries with
  | nil =>
      simp only [put, get?]
      by_cases found : other = name
      · rw [if_pos found, if_pos found.symm]
      · rw [if_neg found, if_neg (Ne.symm found)]
  | cons entry entries ih =>
      obtain ⟨first, old⟩ := entry
      by_cases same : first = name
      · subst same
        simp only [put, get?, if_true]
        by_cases found : first = other
        · rw [if_pos found, if_pos found.symm]
        · rw [if_neg found, if_neg (Ne.symm found), if_neg found]
      · simp only [put, if_neg same, get?, ih]
        by_cases found : first = other
        · rw [if_pos found, if_pos found, if_neg fun equal => same (found.trans equal)]
        · rw [if_neg found, if_neg found]

/-- The names of entries to which a name is put. -/
theorem mem_names_put {name other : String} {value : α} {entries : List (String × α)} :
    other ∈ (put name value entries).map Prod.fst ↔
      other = name ∨ other ∈ entries.map Prod.fst := by
  induction entries with
  | nil => simp [put]
  | cons entry entries ih =>
      obtain ⟨first, old⟩ := entry
      unfold put
      split <;> grind

/-- Names stay distinct when a value is put under one of them or a new one. -/
theorem nodup_names_put {name : String} {value : α} {entries : List (String × α)}
    (distinct : (entries.map Prod.fst).Nodup) :
    ((put name value entries).map Prod.fst).Nodup := by
  induction entries with
  | nil => simp [put]
  | cons entry entries ih =>
      obtain ⟨first, old⟩ := entry
      simp only [List.map_cons, List.nodup_cons] at distinct
      unfold put
      split
      · subst_vars
        simpa using distinct
      · rename_i different
        simp only [List.map_cons, List.nodup_cons, mem_names_put]
        exact ⟨fun member => member.elim different distinct.1, ih distinct.2⟩

end Entries

/-- A finite map from names to values that keeps the order of its names. -/
structure Table (α : Type u) where
  /-- The names with their values, in the order in which the names came. -/
  entries : List (String × α)
  distinct : (entries.map Prod.fst).Nodup

namespace Table

variable {α : Type u}

/-- The table without names. -/
def empty : Table α :=
  ⟨[], by simp⟩

/-- The value under a name. -/
def get? (table : Table α) (name : String) : Option α :=
  Entries.get? name table.entries

/-- A table with a value put under a name. -/
def put (table : Table α) (name : String) (value : α) : Table α :=
  ⟨Entries.put name value table.entries, Entries.nodup_names_put table.distinct⟩

/-- A table without a name. -/
def erase (table : Table α) (name : String) : Table α :=
  ⟨table.entries.filter fun entry => entry.1 != name,
    table.distinct.sublist (List.filter_sublist.map _)⟩

/-- The number of names. -/
def size (table : Table α) : Nat :=
  table.entries.length

/-- Whether a table has no name. -/
def isEmpty (table : Table α) : Bool :=
  table.entries.isEmpty

/-- The table of given pairs; of equal names the last one counts. -/
def ofPairs (pairs : List (String × α)) : Table α :=
  pairs.foldl (fun table pair => table.put pair.1 pair.2) empty

@[simp]
theorem get?_empty (name : String) : (empty : Table α).get? name = none :=
  rfl

/-- A value that has been put under a name is found there, and the values of
all other names are found as before. -/
theorem get?_put (table : Table α) (name other : String) (value : α) :
    (table.put name value).get? other =
      if other = name then some value else table.get? other :=
  Entries.get?_put name other value table.entries

end Table

end Eligibility
