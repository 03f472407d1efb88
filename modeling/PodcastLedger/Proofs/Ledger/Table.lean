import Mathlib.Data.List.Sort
import PodcastLedger.Store.Table

/-!
# Rows of tables

What insertion, change and removal do to the presence of ids and to the uniqueness of keys.
`Table.UniqueBy` says that no two rows have the same key; it survives an insertion of a new key, a
change that keeps keys, and every removal. `Table.All` says that all rows have a property. What has
unique keys ascends strictly when it is sorted by them (`Table.ascending_merge_sort`), and there is
only one way to do so (`Table.eq_of_ascending`).
-/

namespace PodcastLedger.Table

variable {Row Key : Type} {table : Table Row}

/-- What is found satisfies the condition and is in the table. -/
theorem mem_of_find {condition : Row → Bool} {entry : Entry Row}
    (hfind : table.find? condition = some entry) :
    entry ∈ table.entries ∧ condition entry.row = true := by
  unfold find? at hfind
  exact ⟨List.mem_of_find?_eq_some hfind, by simpa using List.find?_some hfind⟩

/-- What is not found satisfies the condition nowhere. -/
theorem find_eq_none_iff {condition : Row → Bool} :
    table.find? condition = none ↔ ∀ entry ∈ table.entries, condition entry.row = false := by
  simp [find?, List.find?_eq_none]

/-- What is found comes before everything else that satisfies the condition. -/
theorem le_of_find {condition : Row → Bool} {entry : Entry Row}
    (hfind : table.find? condition = some entry) :
    ∀ other ∈ table.entries, condition other.row = true → entry.id ≤ other.id := by
  obtain ⟨_, before, after, hentries, hbefore⟩ := List.find?_eq_some_iff_append.mp hfind
  intro other hother hcondition
  have hascending := table.ascending
  rw [hentries] at hascending hother
  rcases List.mem_append.mp hother with hearlier | hlater
  · simpa [hcondition] using hbefore other hearlier
  · rcases List.mem_cons.mp hlater with rfl | hlater
    · exact Int.le_refl _
    · have hrest := (List.pairwise_append.mp hascending).2.1
      exact Int.le_of_lt ((List.pairwise_cons.mp hrest).1 other hlater)

/-- What is found is what has the least id of all that satisfies the condition. -/
theorem find_eq_some_iff_least {condition : Row → Bool} {entry : Entry Row} :
    table.find? condition = some entry ↔
      entry ∈ table.entries ∧ condition entry.row = true ∧
        ∀ other ∈ table.entries, condition other.row = true → entry.id ≤ other.id := by
  constructor
  · intro hfind
    exact ⟨(mem_of_find hfind).1, (mem_of_find hfind).2, le_of_find hfind⟩
  · rintro ⟨hmem, hholds, hleast⟩
    cases hfind : table.find? condition with
    | none =>
        rw [find_eq_none_iff.mp hfind entry hmem] at hholds
        cases hholds
    | some found =>
        obtain ⟨hfound, hcondition⟩ := mem_of_find hfind
        have hid := Int.le_antisymm (le_of_find hfind entry hmem hholds)
          (hleast found hfound hcondition)
        rw [table.eq_of_id_eq hfound hmem hid]

/-- The id of an entry is in the table. -/
theorem has_of_mem {entry : Entry Row} (hmem : entry ∈ table.entries) : table.Has entry.id :=
  ⟨entry, hmem, rfl⟩

/-- The next id is above all ids. -/
theorem lt_next_of_has {id : Int} (hhas : table.Has id) : id < table.next := by
  obtain ⟨entry, hmem, rfl⟩ := hhas
  exact table.below_next entry hmem

/-- An entry after an insertion is the new one or an old one. -/
theorem mem_insert {row : Row} {entry : Entry Row} :
    entry ∈ (table.insert row).entries ↔ entry ∈ table.entries ∨ entry = ⟨table.next, row⟩ := by
  simp

/-- An entry after a change is an old one, changed or not. -/
theorem mem_modify {condition : Entry Row → Bool} {change : Row → Row} {entry : Entry Row} :
    entry ∈ (table.modify condition change).entries ↔
      ∃ old ∈ table.entries,
        (if condition old then ⟨old.id, change old.row⟩ else old) = entry := by
  simp

/-- An entry after a removal is one that was not to be removed. -/
theorem mem_remove {condition : Entry Row → Bool} {entry : Entry Row} :
    entry ∈ (table.remove condition).entries ↔
      entry ∈ table.entries ∧ condition entry = false := by
  simp

/-- Insertion keeps ids. -/
theorem Has.insert {id : Int} (hhas : table.Has id) (row : Row) : (table.insert row).Has id := by
  obtain ⟨entry, hmem, rfl⟩ := hhas
  exact has_of_mem (mem_insert.mpr (.inl hmem))

/-- Changes keep ids. -/
theorem Has.modify {id : Int} (hhas : table.Has id) (condition : Entry Row → Bool)
    (change : Row → Row) : (table.modify condition change).Has id := by
  obtain ⟨entry, hmem, rfl⟩ := hhas
  refine ⟨_, mem_modify.mpr ⟨entry, hmem, rfl⟩, ?_⟩
  split <;> rfl

/-- Removing what is not there changes nothing. -/
theorem remove_of_none {condition : Entry Row → Bool}
    (hnone : ∀ entry ∈ table.entries, condition entry = false) : table.remove condition = table := by
  refine ext (List.filter_eq_self.mpr fun entry hmem => ?_) rfl
  simp [hnone entry hmem]

/-- To change rows to what they are changes nothing. -/
theorem modify_of_fixed {condition : Entry Row → Bool} {change : Row → Row}
    (hfixed : ∀ entry ∈ table.entries, condition entry = true → change entry.row = entry.row) :
    table.modify condition change = table := by
  refine ext ?_ rfl
  rw [entries_modify]
  conv => rhs; rw [← List.map_id table.entries]
  refine List.map_congr_left fun entry hmem => ?_
  split
  · next hchanged => rw [hfixed entry hmem hchanged, id_eq]
  · rfl

/-- Changing what is not there changes nothing. -/
theorem modify_of_none {condition : Entry Row → Bool} {change : Row → Row}
    (hnone : ∀ entry ∈ table.entries, condition entry = false) :
    table.modify condition change = table :=
  modify_of_fixed fun entry hmem hchanged => by
    rw [hnone entry hmem] at hchanged
    cases hchanged

/-- Changes that agree on the rows they are made to are the same. -/
theorem modify_congr_change {condition : Entry Row → Bool} {change other : Row → Row}
    (hsame : ∀ entry ∈ table.entries, condition entry = true → change entry.row = other entry.row) :
    table.modify condition change = table.modify condition other := by
  refine ext (List.map_congr_left fun entry hmem => ?_) rfl
  split
  · next hchanged => rw [hsame entry hmem hchanged]
  · rfl

/-- The row under an id is read after it was changed. -/
theorem get_modify_id {entry : Entry Row} (hmem : entry ∈ table.entries) (change : Row → Row) :
    (table.modify (fun other => other.id == entry.id) change).get? entry.id =
      some ⟨entry.id, change entry.row⟩ :=
  get?_eq_some_iff.mpr ⟨mem_modify.mpr ⟨entry, hmem, if_pos (beq_self_eq_true _)⟩, rfl⟩

/-- Conditions that agree on all rows change the same rows. -/
theorem modify_congr {first second : Entry Row → Bool} {change : Row → Row}
    (hsame : ∀ entry ∈ table.entries, first entry = second entry) :
    table.modify first change = table.modify second change := by
  refine ext (List.map_congr_left fun entry hmem => ?_) rfl
  rw [hsame entry hmem]

/-- What is found after an insertion was there or is the new row. -/
theorem find_insert (wanted : Row → Bool) (row : Row) :
    (table.insert row).find? wanted =
      (table.find? wanted).or (if wanted row then some ⟨table.next, row⟩ else none) := by
  unfold find?
  rw [entries_insert, List.find?_append, List.find?_singleton]

/-- What was not found before is the new row, if that is what is looked for. -/
theorem find_insert_new {wanted : Row → Bool} {row : Row} (hnone : table.find? wanted = none)
    (hwanted : wanted row = true) : (table.insert row).find? wanted = some ⟨table.next, row⟩ := by
  rw [find_insert, hnone, Option.none_or, if_pos hwanted]

/-- What is found after a change is what was found before, changed or not, if the change makes no
difference to what is looked for. -/
theorem find_modify {wanted : Row → Bool} {condition : Entry Row → Bool} {change : Row → Row}
    (hwanted : ∀ row, wanted (change row) = wanted row) :
    (table.modify condition change).find? wanted =
      (table.find? wanted).map fun entry =>
        if condition entry then ⟨entry.id, change entry.row⟩ else entry := by
  unfold find?
  rw [entries_modify, List.find?_map]
  refine congrArg (Option.map _) (congrArg (List.find? · _) (funext fun entry => ?_))
  rw [Function.comp_apply]
  split
  · exact hwanted entry.row
  · rfl

/-- What is under an id after a change is what was under it before, changed or not. -/
theorem get_modify (condition : Entry Row → Bool) (change : Row → Row) (id : Int) :
    (table.modify condition change).get? id =
      (table.get? id).map fun entry =>
        if condition entry then ⟨entry.id, change entry.row⟩ else entry := by
  unfold get?
  rw [entries_modify, List.find?_map]
  refine congrArg (Option.map _) (congrArg (List.find? · _) (funext fun entry => ?_))
  rw [Function.comp_apply]
  split <;> rfl

/-- What is found after a removal is what was found before if nothing that is looked for goes. -/
theorem find_remove {wanted : Row → Bool} {condition : Entry Row → Bool}
    (hkept : ∀ entry, wanted entry.row = true → condition entry = false) :
    (table.remove condition).find? wanted = table.find? wanted := by
  unfold find?
  rw [entries_remove, List.find?_filter]
  refine congrArg (List.find? · _) (funext fun entry => ?_)
  cases hwanted : wanted entry.row with
  | false => simp
  | true => simp [hkept entry hwanted]

/-- No two rows of the table have the same key. -/
def UniqueBy (key : Row → Key) (table : Table Row) : Prop :=
  (table.entries.map fun entry => key entry.row).Nodup

variable {key : Row → Key}

/-- Rows with the same key are the same. -/
theorem UniqueBy.eq (hunique : table.UniqueBy key) {first second : Entry Row}
    (hfirst : first ∈ table.entries) (hsecond : second ∈ table.entries)
    (hkey : key first.row = key second.row) : first = second :=
  List.inj_on_of_nodup_map hunique hfirst hsecond hkey

/-- What is found by its key is the row that has it. -/
theorem UniqueBy.find_eq_some_iff (hunique : table.UniqueBy key) {condition : Row → Bool}
    {wanted : Key} (hcondition : ∀ row, condition row = true ↔ key row = wanted)
    {entry : Entry Row} :
    table.find? condition = some entry ↔ entry ∈ table.entries ∧ key entry.row = wanted := by
  rw [find_eq_some_iff_least, hcondition]
  refine ⟨fun ⟨hmem, hkey, _⟩ => ⟨hmem, hkey⟩, fun ⟨hmem, hkey⟩ => ⟨hmem, hkey, ?_⟩⟩
  intro other hother hsame
  have hentry := hunique.eq hmem hother (hkey.trans ((hcondition other.row).mp hsame).symm)
  exact Int.le_of_eq (congrArg Entry.id hentry)

/-- A row with a new key leaves keys unique. -/
theorem UniqueBy.insert (hunique : table.UniqueBy key) {row : Row}
    (hnew : ∀ entry ∈ table.entries, key entry.row ≠ key row) :
    (table.insert row).UniqueBy key := by
  unfold UniqueBy
  rw [entries_insert, List.map_append]
  refine List.nodup_append.mpr ⟨hunique, List.nodup_singleton _, ?_⟩
  intro old hold new hmem
  obtain ⟨entry, hentry, rfl⟩ := List.mem_map.mp hold
  obtain rfl : new = key row := by simpa using hmem
  exact hnew entry hentry

/-- Keys are unique after an insertion exactly if they were and the new row has a new one. -/
theorem unique_by_insert_iff {row : Row} :
    (table.insert row).UniqueBy key ↔
      table.UniqueBy key ∧ ∀ entry ∈ table.entries, key entry.row ≠ key row := by
  refine ⟨fun hunique => ?_, fun ⟨hunique, hnew⟩ => hunique.insert hnew⟩
  unfold UniqueBy at hunique
  rw [entries_insert, List.map_append, List.nodup_append] at hunique
  obtain ⟨hold, _, hdisjoint⟩ := hunique
  refine ⟨hold, fun entry hmem => hdisjoint _ (List.mem_map.mpr ⟨entry, hmem, rfl⟩) _ ?_⟩
  exact List.mem_singleton.mpr rfl

/-- A change that keeps keys leaves them unique. -/
theorem UniqueBy.modify (hunique : table.UniqueBy key) (condition : Entry Row → Bool)
    {change : Row → Row} (hkey : ∀ row, key (change row) = key row) :
    (table.modify condition change).UniqueBy key := by
  unfold UniqueBy
  rw [entries_modify, List.map_map]
  refine (List.map_congr_left fun entry _ => ?_).symm ▸ hunique
  rw [Function.comp_apply]
  split
  · exact hkey entry.row
  · rfl

/-- Removal leaves keys unique. -/
theorem UniqueBy.remove (hunique : table.UniqueBy key) (condition : Entry Row → Bool) :
    (table.remove condition).UniqueBy key :=
  hunique.sublist (List.filter_sublist.map _)

/-- Every row of the table has the property. -/
def All (holds : Row → Prop) (table : Table Row) : Prop :=
  ∀ entry ∈ table.entries, holds entry.row

variable {holds : Row → Prop}

/-- A row with the property may be added. -/
theorem All.insert (hall : table.All holds) {row : Row} (hrow : holds row) :
    (table.insert row).All holds := by
  intro entry hmem
  rcases mem_insert.mp hmem with hold | rfl
  · exact hall entry hold
  · exact hrow

/-- All rows have the property after an insertion exactly if they had it and the new row has it. -/
theorem all_insert_iff {row : Row} : (table.insert row).All holds ↔ table.All holds ∧ holds row := by
  refine ⟨fun hall => ⟨?_, ?_⟩, fun ⟨hall, hrow⟩ => hall.insert hrow⟩
  · exact fun entry hmem => hall entry (mem_insert.mpr (.inl hmem))
  · exact hall ⟨table.next, row⟩ (mem_insert.mpr (.inr rfl))

/-- Rows may be changed to rows with the property. -/
theorem All.modify (hall : table.All holds) (condition : Entry Row → Bool) {change : Row → Row}
    (hchange : ∀ row, holds row → holds (change row)) :
    (table.modify condition change).All holds := by
  intro entry hmem
  obtain ⟨old, hold, rfl⟩ := mem_modify.mp hmem
  split
  · exact hchange old.row (hall old hold)
  · exact hall old hold

/-- Rows may be removed. -/
theorem All.remove (hall : table.All holds) (condition : Entry Row → Bool) :
    (table.remove condition).All holds :=
  fun entry hmem => hall entry (mem_remove.mp hmem).1

/-- A property that follows from another holds as well. -/
theorem All.mono {follows : Row → Prop} (hall : table.All holds)
    (himp : ∀ row, holds row → follows row) : table.All follows :=
  fun entry hmem => himp entry.row (hall entry hmem)

/-- Sorted by a text that differs for all of them, rows ascend by it strictly. -/
theorem ascending_merge_sort (key : Row → String) {rows : List Row}
    (hkeys : rows.Pairwise fun first second => key first ≠ key second) :
    (rows.mergeSort fun first second => decide (key first ≤ key second)).Pairwise
      fun first second => key first < key second := by
  have hsorted : (rows.mergeSort fun first second => decide (key first ≤ key second)).Pairwise
      fun first second => decide (key first ≤ key second) = true := by
    refine List.pairwise_mergeSort (fun a b c hab hbc => ?_) (fun a b => ?_) _
    · exact decide_eq_true (String.le_trans (of_decide_eq_true hab) (of_decide_eq_true hbc))
    · simpa using String.le_total (key a) (key b)
  have hdistinct := ((List.mergeSort_perm rows fun first second =>
    decide (key first ≤ key second)).pairwise_iff Ne.symm).mpr hkeys
  refine (hsorted.and hdistinct).imp fun {first second} h => String.not_le.mp fun hle => h.2 ?_
  exact String.le_antisymm (of_decide_eq_true h.1) hle

/-- The same rows ascend strictly by a text in one way. -/
theorem eq_of_ascending (key : Row → String) {rows others : List Row}
    (hrows : rows.Pairwise fun first second => key first < key second)
    (hothers : others.Pairwise fun first second => key first < key second)
    (hmem : ∀ row, row ∈ rows ↔ row ∈ others) : rows = others := by
  have : Std.Irrefl fun first second : Row => key first < key second :=
    ⟨fun _ => String.lt_irrefl _⟩
  have : Std.Antisymm fun first second : Row => key first < key second :=
    ⟨fun _ _ hlt hgt => absurd hgt (String.lt_asymm hlt)⟩
  exact hrows.eq_of_mem_iff hothers hmem

end PodcastLedger.Table
