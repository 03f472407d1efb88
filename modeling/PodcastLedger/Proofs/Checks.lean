import PodcastLedger.Account.Name
import PodcastLedger.Proofs.Outcome

/-!
# Checks in order

Input is checked item by item, and the first item that breaks a rule ends it with the failure that
is reported. `FirstBroken` tells this rule by what single items break. An outcome `FailsExactly` for
the rules that are broken; `FailsExactly.cons` puts the check of one item in front of the checks of
others, and `FailsExactly.mapM` is a whole list of items that are checked alike. Names are checked
in the same way wherever one is given (`validate_name_exact`).
-/

namespace PodcastLedger

variable {Item Result Next : Type} {breaks : Item → Violation → Prop} {item : Item}
  {rest items : List Item} {violation : Violation}

/-- The rule is broken by one of the items, and those before it break none. -/
def FirstBroken (breaks : Item → Violation → Prop) (items : List Item) (violation : Violation) :
    Prop :=
  ∃ before item after, items = before ++ item :: after ∧
    (∀ other ∈ before, ∀ broken, ¬breaks other broken) ∧ breaks item violation

/-- Without items no rule is broken. -/
theorem not_first_broken_nil : ¬FirstBroken breaks [] violation := by
  rintro ⟨before, item, after, hitems, _⟩
  exact List.append_ne_nil_of_right_ne_nil before (List.cons_ne_nil item after) hitems.symm

/-- The first broken rule is one that the first item breaks, or else that of the others. -/
theorem first_broken_cons_iff :
    FirstBroken breaks (item :: rest) violation ↔
      breaks item violation ∨
        (∀ broken, ¬breaks item broken) ∧ FirstBroken breaks rest violation := by
  constructor
  · rintro ⟨before, found, after, hitems, hbefore, hbreaks⟩
    cases before with
    | nil =>
        cases hitems
        exact .inl hbreaks
    | cons first before =>
        cases hitems
        obtain ⟨hfirst, hbefore⟩ := List.forall_mem_cons.mp hbefore
        exact .inr ⟨hfirst, before, found, after, rfl, hbefore, hbreaks⟩
  · rintro (hbreaks | ⟨hfirst, before, found, after, rfl, hbefore, hbreaks⟩)
    · exact ⟨[], item, rest, rfl, nofun, hbreaks⟩
    · exact ⟨item :: before, found, after, rfl, List.forall_mem_cons.mpr ⟨hfirst, hbefore⟩, hbreaks⟩

/-- There is a first broken rule exactly if some item breaks one. -/
theorem exists_first_broken_iff :
    (∃ violation, FirstBroken breaks items violation) ↔
      ∃ item ∈ items, ∃ violation, breaks item violation := by
  induction items with
  | nil => exact ⟨fun ⟨_, hbroken⟩ => (not_first_broken_nil hbroken).elim, nofun⟩
  | cons item rest ih =>
      simp only [first_broken_cons_iff, List.mem_cons, exists_eq_or_imp]
      constructor
      · rintro ⟨violation, hbreaks | ⟨_, hrest⟩⟩
        · exact .inl ⟨violation, hbreaks⟩
        · exact .inr (ih.mp ⟨violation, hrest⟩)
      · intro hsome
        -- Of the items that break a rule the first one decides, whether it is this one or not.
        by_cases hitem : ∃ violation, breaks item violation
        · obtain ⟨violation, hbreaks⟩ := hitem
          exact ⟨violation, .inl hbreaks⟩
        · obtain ⟨violation, hrest⟩ := ih.mpr (hsome.resolve_left hitem)
          exact ⟨violation, .inr ⟨not_exists.mp hitem, hrest⟩⟩

/-- The outcome is a failure exactly for each rule that is broken. -/
def FailsExactly (broken : Violation → Prop) (outcome : Except Failure Result) : Prop :=
  ∀ failure, outcome = .error failure ↔ ∃ violation, broken violation ∧ failure = .invalid violation

variable {broken : Violation → Prop} {outcome : Except Failure Result}

/-- A result goes with no broken rule. -/
theorem fails_exactly_ok {result : Result} (hnone : ∀ violation, ¬broken violation) :
    FailsExactly broken (.ok result) :=
  fun _ => ⟨nofun, fun ⟨violation, hbroken, _⟩ => (hnone violation hbroken).elim⟩

/-- A failure goes with the rule that is broken. -/
theorem fails_exactly_error (hbroken : ∀ other, broken other ↔ other = violation) :
    FailsExactly broken (.error (.invalid violation) : Except Failure Result) := by
  intro failure
  constructor
  · rintro ⟨⟩
    exact ⟨violation, (hbroken violation).mpr rfl, rfl⟩
  · rintro ⟨other, hother, rfl⟩
    rw [(hbroken other).mp hother]

namespace FailsExactly

/-- A check that has a result has found no broken rule. -/
theorem not_broken (hexact : FailsExactly broken outcome) {result : Result}
    (hok : outcome = .ok result) (violation : Violation) : ¬broken violation := by
  intro hbroken
  have hfails := (hexact _).mpr ⟨violation, hbroken, rfl⟩
  rw [hok] at hfails
  cases hfails

/-- A check that finds no broken rule has a result. -/
theorem ok_of_not_broken (hexact : FailsExactly broken outcome)
    (hnone : ∀ violation, ¬broken violation) : ∃ result, outcome = .ok result := by
  cases houtcome : outcome with
  | error failure =>
      obtain ⟨violation, hbroken, _⟩ := (hexact failure).mp houtcome
      exact (hnone violation hbroken).elim
  | ok result => exact ⟨result, rfl⟩

/-- A check that fails has found the one rule that is broken. -/
theorem broken_iff (hexact : FailsExactly broken outcome)
    (herror : outcome = .error (.invalid violation)) (other : Violation) :
    broken other ↔ other = violation := by
  constructor
  · intro hother
    have hsame := herror.symm.trans ((hexact _).mpr ⟨other, hother, rfl⟩)
    cases hsame
    rfl
  · rintro rfl
    obtain ⟨_, hbroken, hsame⟩ := (hexact _).mp herror
    cases hsame
    exact hbroken

/-- The check of an item comes before the checks of the others. -/
theorem cons {next : Result → Except Failure Next} (hfirst : FailsExactly (breaks item) outcome)
    (hrest : ∀ result, outcome = .ok result →
      FailsExactly (FirstBroken breaks rest) (next result)) :
    FailsExactly (FirstBroken breaks (item :: rest)) (outcome >>= next) := by
  simp only [FailsExactly, first_broken_cons_iff]
  cases houtcome : outcome with
  | error reason =>
      obtain ⟨violation, hbreaks, rfl⟩ := (hfirst reason).mp houtcome
      -- The item breaks a rule, so what the others break is not reported.
      have hnot : ¬∀ broken, ¬breaks item broken := fun hnone => hnone violation hbreaks
      refine fails_exactly_error fun other => ?_
      rw [or_iff_left (fun hrest => hnot hrest.1)]
      exact hfirst.broken_iff houtcome other
  | ok result =>
      have hnone := hfirst.not_broken houtcome
      intro failure
      refine (hrest result houtcome failure).trans (exists_congr fun violation => ?_)
      simp [hnone]

/-- A condition that breaks a rule is checked before the other items. -/
theorem cons_if {condition : Prop} [Decidable condition]
    (hitem : ∀ other, breaks item other ↔ condition ∧ other = violation)
    (hrest : ¬condition → FailsExactly (FirstBroken breaks rest) outcome) :
    FailsExactly (FirstBroken breaks (item :: rest))
      (if condition then .error (.invalid violation) else outcome) := by
  simp only [FailsExactly, first_broken_cons_iff, hitem]
  split
  · next hcondition => exact fails_exactly_error fun other => by simp [hcondition]
  · next hnot => simpa [FailsExactly, hnot] using hrest hnot

/-- What is done with the result of checks does not fail. -/
theorem map (hexact : FailsExactly broken outcome) (change : Result → Next) :
    FailsExactly broken (outcome >>= fun result => .ok (change result)) := by
  cases houtcome : outcome with
  | error reason =>
      obtain ⟨violation, _, rfl⟩ := (hexact reason).mp houtcome
      exact fails_exactly_error (hexact.broken_iff houtcome)
  | ok result => exact fails_exactly_ok (hexact.not_broken houtcome)

/-- Items that are checked alike, one after the other, fail for the first rule that one of them
breaks. -/
theorem mapM {check : Item → Except Failure Result}
    (hcheck : ∀ item ∈ items, FailsExactly (breaks item) (check item)) :
    FailsExactly (FirstBroken breaks items) (items.mapM check) := by
  induction items with
  | nil => exact fails_exactly_ok fun _ => not_first_broken_nil
  | cons item rest ih =>
      obtain ⟨hfirst, hrest⟩ := List.forall_mem_cons.mp hcheck
      rw [List.mapM_cons]
      exact hfirst.cons fun _ _ => (ih hrest).map _

end FailsExactly

/-! ## Names -/

/-- What a text breaks that is no name: it is empty, or has a character that no name has. -/
inductive BreaksName (kind text : String) : Violation → Prop where
  | missing (hempty : text = "") : BreaksName kind text (.missingName kind)
  | malformed {c : Char} (hmem : c ∈ text.toList) (hother : isNameCharacter c = false) :
      BreaksName kind text (.malformedName kind)

/-- The validation of a name fails exactly for what the text breaks. -/
theorem validate_name_exact (kind text : String) :
    FailsExactly (BreaksName kind text) (validateName kind text) := by
  unfold validateName
  split
  · next hempty =>
      refine fails_exactly_error fun other => ⟨fun hbreaks => ?_, ?_⟩
      · cases hbreaks with
        | missing => rfl
        | malformed hmem _ =>
            rw [hempty] at hmem
            cases hmem
      · rintro rfl
        exact .missing hempty
  · next hpresent =>
      split
      · next hname =>
          refine fails_exactly_ok fun violation hbreaks => ?_
          cases hbreaks with
          | missing hempty => exact hpresent hempty
          | malformed hmem hother =>
              rw [hname.2 _ hmem] at hother
              cases hother
      · next hmalformed =>
          have hsome : ∃ c ∈ text.toList, isNameCharacter c = false := by
            simpa [IsName, hpresent] using hmalformed
          obtain ⟨c, hmem, hother⟩ := hsome
          refine fails_exactly_error fun other => ⟨fun hbreaks => ?_, ?_⟩
          · cases hbreaks with
            | missing hempty => exact absurd hempty hpresent
            | malformed => rfl
          · rintro rfl
            exact .malformed hmem hother

/-- A text is a name exactly if it breaks no rule of names. -/
theorem is_name_iff_unbroken (kind text : String) :
    IsName text ↔ ∀ violation, ¬BreaksName kind text violation := by
  have hexact := validate_name_exact kind text
  constructor
  · intro hname
    have hvalid : validateName kind text = .ok () := validateName_eq_ok_iff.mpr hname
    exact hexact.not_broken hvalid
  · intro hnone
    obtain ⟨_, hvalid⟩ := hexact.ok_of_not_broken hnone
    exact validateName_eq_ok_iff.mp hvalid

end PodcastLedger
