import Mathlib.Data.List.Basic
import Mathlib.Order.Hom.Basic
import PodcastLedger.Proofs.Ledger.Table

/-!
# Tables that mirror a part of another

A table mirrors a part of another one if it has the same rows in the same order under other ids. The
ids of the mirror are taken to those of the source by an order embedding, so ids that differ stay
different and none change places. `Table.Mirrors.filter_eq` carries every selection over from the
mirror to the source, and all ways to read a table follow from it; insertions, changes and removals
on both sides preserve the relation.
-/

namespace PodcastLedger

variable {Row : Type}

/-- An entry under another id and with another row. -/
def Entry.rename (ids : Int ↪o Int) (change : Row → Row) (entry : Entry Row) : Entry Row :=
  ⟨ids entry.id, change entry.row⟩

/-- A renamed entry has the id for its own. -/
@[simp] theorem Entry.id_rename (ids : Int ↪o Int) (change : Row → Row) (entry : Entry Row) :
    (entry.rename ids change).id = ids entry.id := rfl

/-- A renamed entry has the changed row. -/
@[simp] theorem Entry.row_rename (ids : Int ↪o Int) (change : Row → Row) (entry : Entry Row) :
    (entry.rename ids change).row = change entry.row := rfl

namespace Table

/-- The copy has the rows of the source that are `mine`, changed and under other ids. Ids that the
copy has not given away yet follow on each other in the source as well. -/
structure Mirrors (ids : Int ↪o Int) (mine : Entry Row → Bool) (change : Row → Row)
    (source copy : Table Row) : Prop where
  entries : source.entries.filter mine = copy.entries.map (Entry.rename ids change)
  next : source.next = ids copy.next
  steady : ∀ id, copy.next ≤ id → ids (id + 1) = ids id + 1

variable {ids : Int ↪o Int} {mine : Entry Row → Bool} {change : Row → Row} {source copy : Table Row}

/-- A row of the copy is in the source. -/
theorem Mirrors.mem (hmirrors : Mirrors ids mine change source copy) {entry : Entry Row}
    (hmem : entry ∈ copy.entries) :
    entry.rename ids change ∈ source.entries ∧ mine (entry.rename ids change) = true := by
  have hsource : entry.rename ids change ∈ source.entries.filter mine := by
    rw [hmirrors.entries]
    exact List.mem_map_of_mem hmem
  exact List.mem_filter.mp hsource

/-! ## Reading -/

/-- What is selected from the source is what is selected from the copy, if only rows that are `mine`
are selected and the conditions agree on them. -/
theorem Mirrors.filter_eq (hmirrors : Mirrors ids mine change source copy)
    {condition condition' : Entry Row → Bool}
    (hmine : ∀ entry ∈ source.entries, condition entry = true → mine entry = true)
    (hsame : ∀ entry ∈ copy.entries, condition (entry.rename ids change) = condition' entry) :
    source.entries.filter condition =
      (copy.entries.filter condition').map (Entry.rename ids change) := by
  calc source.entries.filter condition
      = (source.entries.filter mine).filter condition := by
        rw [List.filter_filter]
        refine List.filter_congr fun entry hmem => ?_
        have himp := hmine entry hmem
        cases hcondition : condition entry with
        | false => rfl
        | true => rw [himp hcondition, Bool.and_true]
    _ = (copy.entries.map (Entry.rename ids change)).filter condition := by
        rw [hmirrors.entries]
    _ = (copy.entries.filter condition').map (Entry.rename ids change) := by
        rw [List.filter_map]
        exact congrArg _ (List.filter_congr hsame)

/-- What is found in the source is what is found in the copy. -/
theorem Mirrors.find_eq (hmirrors : Mirrors ids mine change source copy)
    {condition condition' : Row → Bool}
    (hmine : ∀ entry ∈ source.entries, condition entry.row = true → mine entry = true)
    (hsame : ∀ entry ∈ copy.entries, condition (change entry.row) = condition' entry.row) :
    source.find? condition = (copy.find? condition').map (Entry.rename ids change) := by
  have hfilter : source.entries.filter (fun entry => condition entry.row) =
      (copy.entries.filter fun entry => condition' entry.row).map (Entry.rename ids change) :=
    hmirrors.filter_eq hmine hsame
  unfold find?
  rw [← List.head?_filter, ← List.head?_filter, hfilter, List.head?_map]

/-- What is under an id of the copy is under the id of the source, if that is `mine`. -/
theorem Mirrors.get_eq (hmirrors : Mirrors ids mine change source copy) {id : Int}
    (hmine : ∀ entry ∈ source.entries, entry.id = ids id → mine entry = true) :
    source.get? (ids id) = (copy.get? id).map (Entry.rename ids change) := by
  unfold get?
  rw [← List.head?_filter, ← List.head?_filter, ← List.head?_map]
  refine congrArg _ (hmirrors.filter_eq (fun entry hmem hid => hmine entry hmem (by simpa using hid))
    fun entry _ => ?_)
  rw [Entry.id_rename, Bool.beq_eq_decide_eq, Bool.beq_eq_decide_eq]
  simp

/-- As many rows are counted in the source as in the copy. -/
theorem Mirrors.count_eq (hmirrors : Mirrors ids mine change source copy)
    {condition condition' : Entry Row → Bool}
    (hmine : ∀ entry ∈ source.entries, condition entry = true → mine entry = true)
    (hsame : ∀ entry ∈ copy.entries, condition (entry.rename ids change) = condition' entry) :
    source.entries.countP condition = copy.entries.countP condition' := by
  rw [List.countP_eq_length_filter, List.countP_eq_length_filter,
    hmirrors.filter_eq hmine hsame, List.length_map]

/-! ## Writing -/

/-- A row that is `mine` is inserted on both sides. -/
theorem Mirrors.insert (hmirrors : Mirrors ids mine change source copy) (row : Row)
    (hmine : mine ⟨source.next, change row⟩ = true) :
    Mirrors ids mine change (source.insert (change row)) (copy.insert row) where
  entries := by
    rw [entries_insert, entries_insert, List.filter_append, List.map_append, hmirrors.entries,
      List.filter_cons_of_pos hmine, List.filter_nil, hmirrors.next]
    rfl
  next := by
    show source.next + 1 = ids (copy.next + 1)
    rw [hmirrors.steady _ (Int.le_refl _), hmirrors.next]
  steady id hle := by
    have hle : copy.next + 1 ≤ id := hle
    exact hmirrors.steady id (by omega)

/-- Rows are changed on both sides. -/
theorem Mirrors.modify (hmirrors : Mirrors ids mine change source copy)
    {condition condition' : Entry Row → Bool} {alter alter' : Row → Row}
    (hmine : ∀ entry ∈ source.entries, condition entry = true →
      mine ⟨entry.id, alter entry.row⟩ = mine entry)
    (hsame : ∀ entry ∈ copy.entries, condition (entry.rename ids change) = condition' entry)
    (halter : ∀ row, alter (change row) = change (alter' row)) :
    Mirrors ids mine change (source.modify condition alter) (copy.modify condition' alter') where
  entries := by
    rw [entries_modify, entries_modify, List.filter_map, List.map_map]
    have hkept : ∀ entry ∈ source.entries,
        (mine ∘ fun entry => if condition entry then ⟨entry.id, alter entry.row⟩ else entry) entry =
          mine entry := by
      intro entry hmem
      rw [Function.comp_apply]
      split
      · next hcondition => exact hmine entry hmem hcondition
      · rfl
    rw [List.filter_congr hkept, hmirrors.entries, List.map_map]
    refine List.map_congr_left fun entry hmem => ?_
    rw [Function.comp_apply, Function.comp_apply, hsame entry hmem]
    split
    · rw [Entry.rename, Entry.rename, halter]
    · rfl
  next := hmirrors.next
  steady := hmirrors.steady

/-- Rows are removed on both sides. -/
theorem Mirrors.remove (hmirrors : Mirrors ids mine change source copy)
    {condition condition' : Entry Row → Bool}
    (hsame : ∀ entry ∈ copy.entries, condition (entry.rename ids change) = condition' entry) :
    Mirrors ids mine change (source.remove condition) (copy.remove condition') where
  entries := by
    rw [entries_remove, entries_remove, List.filter_comm, hmirrors.entries, List.filter_map]
    refine congrArg _ (List.filter_congr fun entry hmem => ?_)
    rw [Function.comp_apply, hsame entry hmem]
  next := hmirrors.next
  steady := hmirrors.steady

/-- Only which rows of the source are `mine` matters. -/
theorem Mirrors.congr_mine (hmirrors : Mirrors ids mine change source copy)
    {mine' : Entry Row → Bool} (hsame : ∀ entry ∈ source.entries, mine' entry = mine entry) :
    Mirrors ids mine' change source copy where
  entries := by rw [List.filter_congr hsame, hmirrors.entries]
  next := hmirrors.next
  steady := hmirrors.steady

/-! ## Other ids -/

/-- Ids moved by a distance. -/
def offset (distance : Int) : Int ↪o Int where
  toFun id := id + distance
  inj' first second hsame := by
    dsimp only at hsame
    omega
  map_rel_iff' := by
    intro first second
    show first + distance ≤ second + distance ↔ first ≤ second
    omega

/-- A table without rows mirrors one that has no rows that are `mine`. -/
theorem Mirrors.of_empty (hcopy : copy.entries = [])
    (hnone : ∀ entry ∈ source.entries, mine entry = false) (change : Row → Row) :
    Mirrors (offset (source.next - copy.next)) mine change source copy where
  entries := by
    rw [hcopy, List.map_nil, List.filter_eq_nil_iff]
    intro entry hmem
    rw [hnone entry hmem]
    exact Bool.false_ne_true
  next := by
    show source.next = copy.next + (source.next - copy.next)
    omega
  steady id _ := by
    show id + 1 + (source.next - copy.next) = id + (source.next - copy.next) + 1
    omega

/-- The table has the same rows that are `mine` as before, and gave no ids away twice. -/
structure SameOn (mine mine' : Entry Row → Bool) (table next : Table Row) : Prop where
  entries : next.entries.filter mine' = table.entries.filter mine
  next : table.next ≤ next.next

/-- An id below the bound is translated as before, and ids from the bound on count up from the
start. -/
def shiftId (ids : Int ↪o Int) (bound start id : Int) : Int :=
  if id < bound then ids id else start + (id - bound)

/-- The order of ids is kept if the start is not below the bound. -/
theorem shift_id_le_iff {ids : Int ↪o Int} {bound start : Int} (hstart : ids bound ≤ start)
    {first second : Int} :
    shiftId ids bound start first ≤ shiftId ids bound start second ↔ first ≤ second := by
  have hbelow : ∀ id, id < bound → ids id < start := by
    intro id hlt
    have hids := ids.lt_iff_lt.mpr hlt
    omega
  unfold shiftId
  by_cases hfirst : first < bound
  · rw [if_pos hfirst]
    have hlow := hbelow first hfirst
    by_cases hsecond : second < bound
    · rw [if_pos hsecond]
      exact ids.le_iff_le
    · rw [if_neg hsecond]
      omega
  · rw [if_neg hfirst]
    by_cases hsecond : second < bound
    · rw [if_pos hsecond]
      have hlow := hbelow second hsecond
      omega
    · rw [if_neg hsecond]
      omega

/-- Ids up to a bound stay as they are, and from the bound on they follow on each other. -/
def shift (ids : Int ↪o Int) {bound start : Int} (hstart : ids bound ≤ start) : Int ↪o Int where
  toFun := shiftId ids bound start
  inj' _ _ hsame := Int.le_antisymm ((shift_id_le_iff hstart).mp (Int.le_of_eq hsame))
    ((shift_id_le_iff hstart).mp (Int.le_of_eq hsame.symm))
  map_rel_iff' := shift_id_le_iff hstart

/-- Below the bound nothing is shifted. -/
theorem shift_of_lt {bound start : Int} (hstart : ids bound ≤ start) {id : Int} (hlt : id < bound) :
    shift ids hstart id = ids id :=
  if_pos hlt

/-- From the bound on ids count up from the start. -/
theorem shift_of_le {bound start : Int} (hstart : ids bound ≤ start) {id : Int}
    (hle : bound ≤ id) : shift ids hstart id = start + (id - bound) :=
  if_neg (Int.not_lt.mpr hle)

/-- The id that the copy gives away next is not beyond that of the source. -/
theorem Mirrors.start_le (hmirrors : Mirrors ids mine change source copy) {next : Table Row}
    {mine' : Entry Row → Bool} (hsame : SameOn mine mine' source next) :
    ids copy.next ≤ next.next := by
  rw [← hmirrors.next]
  exact hsame.next

/-- A copy is one still if the source gets rows that are not `mine`, under ids from the next one of
the source on. -/
theorem Mirrors.of_same (hmirrors : Mirrors ids mine change source copy) {next : Table Row}
    {mine' : Entry Row → Bool} (hsame : SameOn mine mine' source next) {change' : Row → Row}
    (hchange : ∀ entry ∈ copy.entries, change' entry.row = change entry.row) :
    Mirrors (shift ids (hmirrors.start_le hsame)) mine' change' next copy where
  entries := by
    rw [hsame.entries, hmirrors.entries]
    refine List.map_congr_left fun entry hmem => ?_
    rw [Entry.rename, Entry.rename, hchange entry hmem, shift_of_lt _ (copy.below_next entry hmem)]
  next := by
    rw [shift_of_le _ (Int.le_refl _)]
    omega
  steady id hle := by
    rw [shift_of_le _ hle, shift_of_le _ (by omega)]
    omega

end Table

end PodcastLedger
