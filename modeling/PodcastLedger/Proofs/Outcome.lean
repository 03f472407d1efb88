import PodcastLedger.Failure.Basic

/-!
# Outcomes

An operation runs its steps in order and ends at the first failure. `bind_eq_ok_iff` takes the
success of a sequence apart into the successes of its steps, and `FailsOnly.bind` bounds what it can
fail for. Two outcomes `Agree` if they are the same failure or have related results; `Agree.bind`
compares two sequences step by step.
-/

namespace PodcastLedger

variable {Reason First Second : Type}

/-- A sequence succeeds exactly if its first step and then its second step succeed. -/
theorem bind_eq_ok_iff {outcome : Except Reason First} {next : First → Except Reason Second}
    {result : Second} :
    (outcome >>= next) = .ok result ↔ ∃ value, outcome = .ok value ∧ next value = .ok result := by
  cases outcome with
  | error failure => exact ⟨nofun, nofun⟩
  | ok value => exact ⟨fun h => ⟨value, rfl, h⟩, fun ⟨_, hvalue, h⟩ => by cases hvalue; exact h⟩

/-- A result is mapped exactly if there is one. -/
theorem map_eq_ok_iff {outcome : Except Reason First} {change : First → Second}
    {result : Second} :
    outcome.map change = .ok result ↔ ∃ value, outcome = .ok value ∧ change value = result := by
  cases outcome with
  | error failure => exact ⟨nofun, nofun⟩
  | ok value =>
      constructor
      · intro h
        exact ⟨value, rfl, by simpa [Except.map] using h⟩
      · rintro ⟨_, hvalue, rfl⟩
        cases hvalue
        rfl

/-- What a sequence comes to is mapped where its second step comes to it. -/
theorem map_bind_eq {Third : Type} (outcome : Except Reason First)
    (next : First → Except Reason Second) (change : Second → Third) :
    (outcome >>= next).map change = outcome >>= fun value => (next value).map change := by
  cases outcome <;> rfl

/-- What follows on a mapped outcome follows on the outcome. -/
theorem map_bind {Third : Type} (outcome : Except Reason First) (change : First → Second)
    (next : Second → Except Reason Third) :
    outcome.map change >>= next = outcome >>= fun value => next (change value) := by
  cases outcome <;> rfl

/-- Two sequences with the same first step are the same if they are so after its success. -/
theorem bind_congr_of_ok {outcome : Except Reason First} {next next' : First → Except Reason Second}
    (hnext : ∀ value, outcome = .ok value → next value = next' value) :
    (outcome >>= next) = (outcome >>= next') := by
  cases outcome with
  | error failure => rfl
  | ok value => exact hnext value rfl

/-- The outcome is a result, or one of the failures that are allowed. -/
def FailsOnly (allowed : Reason → Prop) (outcome : Except Reason First) : Prop :=
  ∀ failure, outcome = .error failure → allowed failure

variable {allowed : Reason → Prop}

/-- A result is no failure. -/
theorem fails_only_ok (result : First) : FailsOnly allowed (.ok result) :=
  nofun

/-- An outcome that is known to be a result does not fail. -/
theorem fails_only_of_ok {outcome : Except Reason First} {result : First}
    (hok : outcome = .ok result) : FailsOnly allowed outcome := by
  rw [hok]
  exact fails_only_ok result

/-- A failure that is allowed. -/
theorem fails_only_error {failure : Reason} (hallowed : allowed failure) :
    FailsOnly allowed (.error failure : Except Reason First) := by
  rintro _ ⟨⟩
  exact hallowed

/-- A sequence fails for no more than its steps do, the second one after a result of the first. -/
theorem FailsOnly.bind {outcome : Except Reason First} {next : First → Except Reason Second}
    (hfirst : FailsOnly allowed outcome)
    (hnext : ∀ value, outcome = .ok value → FailsOnly allowed (next value)) :
    FailsOnly allowed (outcome >>= next) := by
  cases outcome with
  | error failure =>
      rintro _ ⟨⟩
      exact hfirst failure rfl
  | ok value => exact hnext value rfl

/-- What is mapped fails for the same. -/
theorem FailsOnly.map {outcome : Except Reason First} (houtcome : FailsOnly allowed outcome)
    (change : First → Second) : FailsOnly allowed (outcome.map change) := by
  cases outcome with
  | error failure =>
      rintro _ ⟨⟩
      exact houtcome failure rfl
  | ok value => exact fails_only_ok _

/-- A step for each of a list fails for no more than the single steps do. -/
theorem FailsOnly.mapM {step : First → Except Reason Second} {values : List First}
    (hstep : ∀ value ∈ values, FailsOnly allowed (step value)) :
    FailsOnly allowed (values.mapM step) := by
  induction values with
  | nil => exact fails_only_ok _
  | cons value rest ih =>
      obtain ⟨hfirst, hrest⟩ := List.forall_mem_cons.mp hstep
      rw [List.mapM_cons]
      exact hfirst.bind fun _ _ => (ih hrest).bind fun _ _ => fails_only_ok _

variable {First' Second' : Type}

/-- Both outcomes are the same failure, or both are successes with related results. -/
def Agree (related : First → Second → Prop) : Except Failure First → Except Failure Second → Prop
  | .ok first, .ok second => related first second
  | .error first, .error second => first = second
  | _, _ => False

variable {related : First → Second → Prop} {first : Except Failure First}
  {second : Except Failure Second}

/-- An outcome agrees with itself. -/
theorem Agree.refl (outcome : Except Failure First) : Agree Eq outcome outcome := by
  cases outcome <;> exact rfl

/-- What a failure agrees with is the same failure. -/
theorem Agree.of_error_left {failure : Failure} (hagree : Agree related (.error failure) second) :
    second = .error failure := by
  cases second with
  | error other => exact congrArg _ (Eq.symm hagree)
  | ok result => exact hagree.elim

/-- What a result agrees with is a related result. -/
theorem Agree.of_ok_left {value : First} (hagree : Agree related (.ok value) second) :
    ∃ result, second = .ok result ∧ related value result := by
  cases second with
  | error failure => exact hagree.elim
  | ok result => exact ⟨result, rfl, hagree⟩

/-- What agrees with a result is a related result. -/
theorem Agree.of_ok_right {result : Second} (hagree : Agree related first (.ok result)) :
    ∃ value, first = .ok value ∧ related value result := by
  cases first with
  | error failure => exact hagree.elim
  | ok value => exact ⟨value, rfl, hagree⟩

/-- Outcomes that agree up to a change of the result are the same up to the change. -/
theorem Agree.eq_map {change : Second → First}
    (hagree : Agree (fun value result => value = change result) first second) :
    first = second.map change := by
  cases second with
  | error failure =>
      cases first with
      | error other => exact congrArg _ hagree
      | ok value => exact hagree.elim
  | ok result =>
      cases first with
      | error other => exact hagree.elim
      | ok value => exact congrArg _ hagree

/-- What agrees agrees in less as well. -/
theorem Agree.mono (hagree : Agree related first second) {related' : First → Second → Prop}
    (himp : ∀ a b, related a b → related' a b) : Agree related' first second := by
  cases first <;> cases second
  · exact hagree
  · exact hagree
  · exact hagree
  · exact himp _ _ hagree

/-- What agrees with the same outcome agrees, if results that are related to the same are. -/
theorem Agree.trans {Third : Type} {third : Except Failure Third} {related' : Second → Third → Prop}
    {composed : First → Third → Prop} (hagree : Agree related first second)
    (hother : Agree related' second third)
    (himp : ∀ a b c, related a b → related' b c → composed a c) : Agree composed first third := by
  cases first <;> cases second
  · cases third
    · exact Eq.trans hagree hother
    · exact hother.elim
  · exact hagree.elim
  · exact hagree.elim
  · cases third
    · exact hother.elim
    · exact himp _ _ _ hagree hother

/-- Two sequences agree if their first steps agree, and their second steps do so after results that
are related. -/
theorem Agree.bind (hagree : Agree related first second) {related' : First' → Second' → Prop}
    {next : First → Except Failure First'} {next' : Second → Except Failure Second'}
    (hnext : ∀ a b, first = .ok a → second = .ok b → related a b →
      Agree related' (next a) (next' b)) :
    Agree related' (first >>= next) (second >>= next') := by
  cases first <;> cases second
  · exact hagree
  · exact hagree.elim
  · exact hagree.elim
  · exact hnext _ _ rfl rfl hagree

/-- Two sequences with the same first step agree if they do so after it. -/
theorem Agree.after {outcome : Except Failure First} {related : First' → Second' → Prop}
    {next : First → Except Failure First'} {next' : First → Except Failure Second'}
    (hnext : ∀ value, Agree related (next value) (next' value)) :
    Agree related (outcome >>= next) (outcome >>= next') := by
  cases outcome with
  | error failure => exact rfl
  | ok value => exact hnext value

/-- Results that are mapped agree if related results are mapped to related ones. -/
theorem Agree.map (hagree : Agree related first second) {related' : First' → Second' → Prop}
    {change : First → First'} {change' : Second → Second'}
    (himp : ∀ a b, related a b → related' (change a) (change' b)) :
    Agree related' (first.map change) (second.map change') := by
  cases first <;> cases second
  · exact hagree
  · exact hagree.elim
  · exact hagree.elim
  · exact himp _ _ hagree

end PodcastLedger
