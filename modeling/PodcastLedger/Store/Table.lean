/-!
# Tables

A table of the store: rows under ids that grow in the order of insertion. That ids ascend and that
the next id is new is part of the type, so an id names one row at most (`Table.get?_eq_some_iff`).
The entries after each operation are given by `entries_insert`, `entries_modify` and
`entries_remove`.
-/

namespace PodcastLedger

/-- A row under its id. -/
structure Entry (Row : Type) where
  id : Int
  row : Row
  deriving DecidableEq

/-- Rows in the order of insertion, and the id of the next one. -/
structure Table (Row : Type) where
  entries : List (Entry Row)
  next : Int
  ascending : entries.Pairwise fun first second => first.id < second.id
  below_next : ∀ entry ∈ entries, entry.id < next

namespace Table

variable {Row : Type}

/-- Tables with the same rows and the same next id are the same. -/
theorem ext {first second : Table Row} (hentries : first.entries = second.entries)
    (hnext : first.next = second.next) : first = second := by
  cases first
  cases second
  cases hentries
  cases hnext
  rfl

/-- Tables are compared by their entries and their next ids. -/
instance [DecidableEq Row] : DecidableEq (Table Row) := fun first second =>
  if hsame : first.entries = second.entries ∧ first.next = second.next then
    isTrue (ext hsame.1 hsame.2)
  else isFalse fun heq => hsame (heq ▸ ⟨rfl, rfl⟩)

/-- The table without rows. -/
def empty : Table Row :=
  ⟨[], 1, .nil, nofun⟩

/-- The first row, in the order of insertion, that satisfies a condition. -/
def find? (table : Table Row) (condition : Row → Bool) : Option (Entry Row) :=
  table.entries.find? fun entry => condition entry.row

/-- The row under an id. -/
def get? (table : Table Row) (id : Int) : Option (Entry Row) :=
  table.entries.find? fun entry => entry.id == id

/-- There is a row under the id. -/
def Has (table : Table Row) (id : Int) : Prop :=
  ∃ entry ∈ table.entries, entry.id = id

/-- An id is looked for among the entries. -/
instance (table : Table Row) (id : Int) : Decidable (table.Has id) :=
  inferInstanceAs (Decidable (∃ entry ∈ table.entries, entry.id = id))

/-- Adds a row under the next id. -/
def insert (table : Table Row) (row : Row) : Table Row where
  entries := table.entries ++ [⟨table.next, row⟩]
  next := table.next + 1
  ascending := by
    refine List.pairwise_append.mpr ⟨table.ascending, List.pairwise_singleton .., ?_⟩
    intro entry hmem new hnew
    obtain rfl := List.mem_singleton.mp hnew
    exact table.below_next entry hmem
  below_next := by
    intro entry hmem
    rcases List.mem_append.mp hmem with hold | hnew
    · have hlt := table.below_next entry hold
      omega
    · obtain rfl := List.mem_singleton.mp hnew
      exact Int.lt_succ _

/-- Changes the rows that satisfy a condition. -/
def modify (table : Table Row) (condition : Entry Row → Bool) (change : Row → Row) :
    Table Row where
  entries := table.entries.map fun entry =>
    if condition entry then ⟨entry.id, change entry.row⟩ else entry
  next := table.next
  ascending := by
    refine List.pairwise_map.mpr (table.ascending.imp fun {first second} hlt => ?_)
    split <;> split <;> exact hlt
  below_next := by
    intro entry hmem
    obtain ⟨old, hold, rfl⟩ := List.mem_map.mp hmem
    have hlt := table.below_next old hold
    split <;> exact hlt

/-- Removes the rows that satisfy a condition. -/
def remove (table : Table Row) (condition : Entry Row → Bool) : Table Row where
  entries := table.entries.filter fun entry => !condition entry
  next := table.next
  ascending := table.ascending.filter _
  below_next := fun entry hmem => table.below_next entry (List.mem_filter.mp hmem).1

/-- The table without rows has no entries. -/
@[simp] theorem entries_empty : (empty : Table Row).entries = [] := rfl

/-- A row that is added comes last. -/
@[simp] theorem entries_insert (table : Table Row) (row : Row) :
    (table.insert row).entries = table.entries ++ [⟨table.next, row⟩] := rfl

/-- A change of rows leaves the others, and all ids. -/
@[simp] theorem entries_modify (table : Table Row) (condition : Entry Row → Bool)
    (change : Row → Row) :
    (table.modify condition change).entries = table.entries.map fun entry =>
      if condition entry then ⟨entry.id, change entry.row⟩ else entry := rfl

/-- A removal of rows leaves the others in their order. -/
@[simp] theorem entries_remove (table : Table Row) (condition : Entry Row → Bool) :
    (table.remove condition).entries = table.entries.filter fun entry => !condition entry := rfl

/-- Two entries of a table under one id are the same. -/
theorem eq_of_id_eq (table : Table Row) {first second : Entry Row}
    (hfirst : first ∈ table.entries) (hsecond : second ∈ table.entries)
    (hid : first.id = second.id) : first = second := by
  have hunique : ∀ {entries : List (Entry Row)},
      entries.Pairwise (fun a b => a.id < b.id) →
      first ∈ entries → second ∈ entries → first = second := by
    intro entries hascending hfirst hsecond
    induction hascending with
    | nil => cases hfirst
    | cons hlt _ ih =>
      rcases List.mem_cons.mp hfirst with hhead | htail <;>
        rcases List.mem_cons.mp hsecond with hhead' | htail'
      · rw [hhead, hhead']
      · have hbelow := hlt second htail'
        rw [← hhead] at hbelow
        omega
      · have hbelow := hlt first htail
        rw [← hhead'] at hbelow
        omega
      · exact ih htail htail'
  exact hunique table.ascending hfirst hsecond

/-- The row under an id is the one entry with that id. -/
theorem get?_eq_some_iff {table : Table Row} {id : Int} {entry : Entry Row} :
    table.get? id = some entry ↔ entry ∈ table.entries ∧ entry.id = id := by
  constructor
  · intro hget
    exact ⟨List.mem_of_find?_eq_some hget, by simpa using List.find?_some hget⟩
  · rintro ⟨hmem, rfl⟩
    cases hget : table.get? entry.id with
    | none => exact absurd (List.find?_eq_none.mp hget entry hmem) (by simp)
    | some other =>
      have hother := List.mem_of_find?_eq_some hget
      have hid : other.id = entry.id := by simpa using List.find?_some hget
      rw [table.eq_of_id_eq hother hmem hid]

end Table

end PodcastLedger
