import PodcastLedger.Proofs.Ledger.Table

/-!
# Gained rows

What finding or adding rows by their keys does to a table, one row at a time or many: the rows that
were there stay where they are, and behind them comes one fresh row for each wanted key that no row
had. `Table.Gains` says so, and `Table.Gains.trans` puts two such changes together.
-/

namespace PodcastLedger.Table

variable {Row Key : Type} {key : Row → Key} {fresh : Key → Row} {wanted other : Key → Prop}
  {before middle after : List (Entry Row)} {sought : Key}

/-- One of the rows has the key. -/
def HasKey (key : Row → Key) (entries : List (Entry Row)) (sought : Key) : Prop :=
  ∃ entry ∈ entries, key entry.row = sought

/-- The rows afterwards are those before and, behind them, a fresh row for each wanted key that no
row had, each once. -/
def Gains (key : Row → Key) (fresh : Key → Row) (wanted : Key → Prop)
    (before after : List (Entry Row)) : Prop :=
  ∃ created, after = before ++ created ∧ (created.map fun entry => key entry.row).Nodup ∧
    (∀ entry ∈ created, entry.row = fresh (key entry.row)) ∧
    ∀ sought, HasKey key created sought ↔ wanted sought ∧ ¬ HasKey key before sought

/-- A key is in one of two lists of rows. -/
theorem has_key_append :
    HasKey key (before ++ after) sought ↔ HasKey key before sought ∨ HasKey key after sought := by
  simp only [HasKey, List.mem_append, or_and_right, exists_or]

/-- A change of rows that keeps keys keeps which keys there are. -/
theorem has_key_map {change : Entry Row → Entry Row}
    (hkey : ∀ entry, key (change entry).row = key entry.row) :
    HasKey key (before.map change) sought ↔ HasKey key before sought := by
  simp [HasKey, hkey]

/-- Without wanted keys nothing is gained. -/
theorem Gains.refl (entries : List (Entry Row)) :
    Gains key fresh (fun _ => False) entries entries := by
  refine ⟨[], (List.append_nil _).symm, List.nodup_nil, List.forall_mem_nil _, ?_⟩
  simp [HasKey]

/-- The same keys are wanted if they are wanted in another way. -/
theorem Gains.congr (hgains : Gains key fresh wanted before after)
    (hsame : ∀ sought, wanted sought ↔ other sought) : Gains key fresh other before after := by
  obtain ⟨created, hafter, hnodup, hfresh, hcreated⟩ := hgains
  exact ⟨created, hafter, hnodup, hfresh, fun sought => by rw [hcreated, hsame]⟩

/-- The rows that were there stay. -/
theorem Gains.mem (hgains : Gains key fresh wanted before after) {entry : Entry Row}
    (hmem : entry ∈ before) : entry ∈ after := by
  obtain ⟨created, rfl, _⟩ := hgains
  exact List.mem_append_left created hmem

/-- The keys afterwards are those before and the wanted ones. -/
theorem Gains.has_key_iff (hgains : Gains key fresh wanted before after) :
    HasKey key after sought ↔ HasKey key before sought ∨ wanted sought := by
  obtain ⟨created, rfl, _, _, hcreated⟩ := hgains
  rw [has_key_append, hcreated]
  tauto

/-- What is gained before other rows with the same keys is gained before them. -/
theorem Gains.of_same_keys (hgains : Gains key fresh wanted before (before ++ after))
    (hsame : ∀ sought, HasKey key before sought ↔ HasKey key middle sought) :
    Gains key fresh wanted middle (middle ++ after) := by
  obtain ⟨created, hafter, hnodup, hfresh, hcreated⟩ := hgains
  obtain rfl := List.append_cancel_left hafter
  exact ⟨after, rfl, hnodup, hfresh, fun sought => by rw [hcreated, hsame]⟩

/-- What is gained in two steps is gained in one: a key that was gained first is not gained again. -/
theorem Gains.trans (hfirst : Gains key fresh wanted before middle)
    (hrest : Gains key fresh other middle after) :
    Gains key fresh (fun sought => wanted sought ∨ other sought) before after := by
  have hmiddle : ∀ sought, HasKey key middle sought ↔ HasKey key before sought ∨ wanted sought :=
    fun _ => hfirst.has_key_iff
  obtain ⟨first, rfl, hfirstNodup, hfirstFresh, hfirstKeys⟩ := hfirst
  obtain ⟨rest, rfl, hrestNodup, hrestFresh, hrestKeys⟩ := hrest
  refine ⟨first ++ rest, List.append_assoc .., ?_, ?_, fun sought => ?_⟩
  · rw [List.map_append, List.nodup_append]
    refine ⟨hfirstNodup, hrestNodup, ?_⟩
    rintro sought hinFirst _ hinRest rfl
    have hgained : HasKey key first sought := by simpa [HasKey] using hinFirst
    have hagain : HasKey key rest sought := by simpa [HasKey] using hinRest
    exact ((hrestKeys sought).mp hagain).2 (has_key_append.mpr (.inr hgained))
  · intro entry hmem
    rcases List.mem_append.mp hmem with hmem | hmem
    · exact hfirstFresh entry hmem
    · exact hrestFresh entry hmem
  · rw [has_key_append, hrestKeys, hmiddle, hfirstKeys]
    tauto

/-- A key that some row has is gained without a change. -/
theorem gains_of_has_key (hknown : HasKey key before sought) :
    Gains key fresh (· = sought) before before := by
  refine ⟨[], (List.append_nil _).symm, List.nodup_nil, List.forall_mem_nil _, fun other => ?_⟩
  refine iff_of_false (by simp [HasKey]) ?_
  rintro ⟨rfl, hnew⟩
  exact hnew hknown

/-- A key that no row has is gained by a fresh row. -/
theorem gains_append_fresh (hnew : ¬ HasKey key before sought)
    (hfresh : key (fresh sought) = sought) (id : Int) :
    Gains key fresh (· = sought) before (before ++ [⟨id, fresh sought⟩]) := by
  refine ⟨[⟨id, fresh sought⟩], rfl, List.nodup_singleton _, ?_, fun other => ?_⟩
  · intro entry hmem
    obtain rfl := List.mem_singleton.mp hmem
    rw [hfresh]
  · simp only [HasKey, List.mem_singleton, exists_eq_left, hfresh]
    constructor
    · rintro rfl
      exact ⟨rfl, hnew⟩
    · rintro ⟨rfl, _⟩
      rfl

/-- A row is found by a key exactly if some row has it. -/
theorem has_key_of_find {table : Table Row} {condition : Row → Bool}
    (hcondition : ∀ row, condition row = true ↔ key row = sought) :
    HasKey key table.entries sought ↔ (table.find? condition).isSome = true := by
  simp only [find?, List.find?_isSome, hcondition, HasKey]

end PodcastLedger.Table
