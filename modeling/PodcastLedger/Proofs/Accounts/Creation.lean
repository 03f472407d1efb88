import Mathlib.Data.String.Basic
import PodcastLedger.Proofs.Checks
import PodcastLedger.Proofs.Ledger.Evolution
import PodcastLedger.Proofs.Uploads.Uploaded

/-!
# Creation of accounts

An account is created if no rule is broken (`AccountRule`), and otherwise the first broken rule is
reported. The message about short passwords speaks of characters, but what counts are bytes:
creation is as promised unless a password that is too short has enough bytes, which
`Store.create_user_as_promised_iff` derives for every store and every input.
-/

namespace PodcastLedger

/-- The rules for new accounts. -/
inductive AccountRule where
  | name
  | password
  | workFactor
  | freeName
  deriving DecidableEq, Repr

/-- All rules for new accounts in the order in which they are checked. -/
def AccountRule.all : List AccountRule :=
  [.name, .password, .workFactor, .freeName]

/-- No text has more characters than bytes. -/
theorem length_le_byte_size (text : String) : text.length ≤ text.utf8ByteSize := by
  rw [← String.utf8Len_toList, ← String.length_toList]
  induction text.toList with
  | nil => exact Nat.le_refl _
  | cons c rest ih =>
      have hpos := c.utf8Size_pos
      rw [List.length_cons, String.utf8Len_cons]
      omega

namespace Store

variable {store next : Store} {name password : String} {size workFactor : Nat}
  {user : Entry User}

/-- What a new account breaks of a rule: the name is none, the password is too short for the size it
is of, the work factor is out of range, or a user has the name. -/
def BreaksRule (store : Store) (name : String) (size workFactor : Nat) :
    AccountRule → Violation → Prop
  | .name, violation => BreaksName "user" name violation
  | .password, violation => size < minPasswordLength ∧ violation = .shortPassword
  | .workFactor, violation =>
    (workFactor < minWorkFactor ∨ maxWorkFactor < workFactor) ∧ violation = .workFactorOutOfRange
  | .freeName, violation =>
    (∃ user ∈ store.users.entries, user.row.name = name) ∧ violation = .userNameTaken

/-- The first rule that a new account breaks. -/
def RefusesAccount (store : Store) (name : String) (size workFactor : Nat) (violation : Violation) :
    Prop :=
  FirstBroken (store.BreaksRule name size workFactor) AccountRule.all violation

/-- The store has one more user under a new id, who is not locked, and is otherwise the same. -/
structure GainsUser (store next : Store) (name : String) (workFactor : Nat) (user : Entry User) :
    Prop where
  row : user.row = ⟨name, false, workFactor⟩
  users : next.users.entries = store.users.entries ++ [user]
  fresh : ∀ other ∈ store.users.entries, other.id ≠ user.id
  others : next = { store with users := next.users }

/-- What becomes of the creation of an account whose password has a size: it succeeds exactly if all
rules are kept. Then there is one more user; otherwise the first broken rule is reported and the
store is as it was. -/
structure CreatesAccount (store : Store) (name : String) (size workFactor : Nat)
    (outcome : Store × Except Failure Answer) : Prop where
  succeeds : (∃ answer, outcome.2 = .ok answer) ↔
    IsName name ∧ minPasswordLength ≤ size ∧
      (minWorkFactor ≤ workFactor ∧ workFactor ≤ maxWorkFactor) ∧
      ∀ user ∈ store.users.entries, user.row.name ≠ name
  created : ∀ answer, outcome.2 = .ok answer →
    ∃ user, answer = .user user ∧ store.GainsUser outcome.1 name workFactor user
  refused : ∀ failure, outcome.2 = .error failure →
    outcome.1 = store ∧
      ∃ violation, store.RefusesAccount name size workFactor violation ∧
        failure = .invalid violation

/-- A name is taken exactly if a user has it. -/
theorem is_taken_iff :
    (store.findUser? name).isSome = true ↔ ∃ user ∈ store.users.entries, user.row.name = name := by
  simp [findUser?, Table.find?]

/-- A row of a name that is free is inserted. -/
theorem insert_user_of (hname : IsName name)
    (hfree : ∀ user ∈ store.users.entries, user.row.name ≠ name) :
    store.insertUser ⟨name, false, workFactor⟩ =
      .ok ({ store with users := store.users.insert ⟨name, false, workFactor⟩ },
        ⟨store.users.next, ⟨name, false, workFactor⟩⟩) := by
  have hrow : name ≠ "" ∧ IsBindable name ∧
      ∀ other ∈ store.users.entries, other.row.name ≠ name := ⟨hname.1, hname.bindable, hfree⟩
  unfold insertUser
  rw [require_of hrow]
  rfl

/-- The rules are checked in their order, with the size of the password in bytes. -/
theorem create_user_fails_exactly (store : Store) (name password : String) (workFactor : Nat) :
    FailsExactly (store.RefusesAccount name password.utf8ByteSize workFactor)
      (store.createUser name password workFactor) := by
  refine FailsExactly.cons (validate_name_exact "user" name) fun _ hvalid => ?_
  have hname := validateName_eq_ok_iff.mp hvalid
  refine .cons_if (fun _ => Iff.rfl) fun _ => ?_
  refine .cons_if (fun _ => Iff.rfl) fun _ => ?_
  refine .cons_if (fun _ => and_congr_left' is_taken_iff.symm) fun hfree => ?_
  have hothers : ∀ other ∈ store.users.entries, other.row.name ≠ name := by
    simpa [is_taken_iff] using hfree
  rw [insert_user_of hname hothers]
  exact fails_exactly_ok fun _ => not_first_broken_nil

/-- No rule is broken exactly if all of them are kept. -/
theorem keeps_rules_iff (store : Store) (name : String) (size workFactor : Nat) :
    (∀ violation, ¬store.RefusesAccount name size workFactor violation) ↔
      IsName name ∧ minPasswordLength ≤ size ∧
        (minWorkFactor ≤ workFactor ∧ workFactor ≤ maxWorkFactor) ∧
        ∀ user ∈ store.users.entries, user.row.name ≠ name := by
  have hname : IsName name ↔ ∀ violation, ¬BreaksName "user" name violation :=
    is_name_iff_unbroken "user" name
  unfold RefusesAccount
  rw [← not_exists, exists_first_broken_iff, hname]
  simp [AccountRule.all, BreaksRule]

/-- An account is created as one more user. -/
theorem gains_user_of_create
    (hcreate : store.createUser name password workFactor = .ok (next, user)) :
    store.GainsUser next name workFactor user := by
  have hkept := (create_user_fails_exactly store name password workFactor).not_broken hcreate
  obtain ⟨hname, hsize, hfactor, hfree⟩ := (keeps_rules_iff ..).mp hkept
  have htaken : ¬(store.findUser? name).isSome = true := by
    simpa [is_taken_iff] using hfree
  obtain ⟨_, _, hcreate⟩ := bind_eq_ok_iff.mp hcreate
  rw [if_neg (Nat.not_lt.mpr hsize), if_neg (by omega), if_neg htaken,
    insert_user_of hname hfree] at hcreate
  cases hcreate
  exact ⟨rfl, rfl, fun other hmem => Int.ne_of_lt (store.users.below_next other hmem), rfl⟩

/-- An account is created by the rules, with the size of the password in bytes. -/
theorem step_creates_account (store : Store) (name password : String) (workFactor : Nat) :
    store.CreatesAccount name password.utf8ByteSize workFactor
      (store.step name (.createUser password workFactor)) := by
  have hexact := create_user_fails_exactly store name password workFactor
  have hkeeps := keeps_rules_iff store name password.utf8ByteSize workFactor
  have hanswer : store.answer name (.createUser password workFactor) =
      write .user (store.createUser name password workFactor) := rfl
  cases hcreate : store.createUser name password workFactor with
  | error failure =>
      rw [hcreate] at hanswer
      rw [step_of_error hanswer]
      obtain ⟨violation, hrefuses, rfl⟩ := (hexact failure).mp hcreate
      refine ⟨⟨fun ⟨_, hok⟩ => (nomatch hok), fun hkept => ?_⟩, fun _ hok => (nomatch hok), ?_⟩
      · exact (hkeeps.mpr hkept violation hrefuses).elim
      · rintro _ ⟨⟩
        exact ⟨rfl, violation, hrefuses, rfl⟩
  | ok result =>
      obtain ⟨next, user⟩ := result
      rw [hcreate] at hanswer
      rw [step_of_answer hanswer]
      refine ⟨⟨fun _ => ?_, fun _ => ⟨_, rfl⟩⟩, ?_, fun _ herror => nomatch herror⟩
      · exact hkeeps.mp (hexact.not_broken hcreate)
      · rintro _ ⟨⟩
        exact ⟨user, rfl, gains_user_of_create hcreate⟩

/-! ## Characters and bytes -/

/-- Sizes that are both enough or both too little make no difference. -/
theorem refuses_account_congr {other : Nat} {violation : Violation}
    (hsame : IsName name → (size < minPasswordLength ↔ other < minPasswordLength)) :
    store.RefusesAccount name size workFactor violation ↔
      store.RefusesAccount name other workFactor violation := by
  unfold RefusesAccount AccountRule.all
  by_cases hname : IsName name
  · have hrules : store.BreaksRule name size workFactor =
        store.BreaksRule name other workFactor := by
      funext rule violation
      cases rule <;> simp [BreaksRule, hsame hname]
    rw [hrules]
  · -- Whatever is wrong with the name is reported.
    have hnot : ¬∀ violation, ¬BreaksName "user" name violation :=
      mt (is_name_iff_unbroken "user" name).mpr hname
    have hfirst (size : Nat) : FirstBroken (store.BreaksRule name size workFactor)
          [.name, .password, .workFactor, .freeName] violation ↔
        BreaksName "user" name violation := by
      rw [first_broken_cons_iff]
      exact or_iff_left fun hrest => hnot hrest.1
    exact (hfirst size).trans (hfirst other).symm

/-- Creation does not depend on the size of a password beyond whether it is enough. -/
theorem CreatesAccount.congr {outcome : Store × Except Failure Answer} {other : Nat}
    (hcreates : store.CreatesAccount name size workFactor outcome)
    (hsame : IsName name → (size < minPasswordLength ↔ other < minPasswordLength)) :
    store.CreatesAccount name other workFactor outcome where
  succeeds := by
    simp only [hcreates.succeeds, ← keeps_rules_iff, refuses_account_congr hsame]
  created := hcreates.created
  refused := by
    intro failure hfailure
    obtain ⟨hstore, violation, hrefuses, rfl⟩ := hcreates.refused failure hfailure
    exact ⟨hstore, violation, (refuses_account_congr hsame).mp hrefuses, rfl⟩

/-- An account with a name is refused for its password if that is too short. -/
theorem refuses_of_short (hname : IsName name) (hshort : size < minPasswordLength)
    {violation : Violation} (hrefuses : store.RefusesAccount name size workFactor violation) :
    violation = .shortPassword := by
  rcases first_broken_cons_iff.mp hrefuses with hbroken | ⟨_, hrest⟩
  · exact ((is_name_iff_unbroken "user" name).mp hname violation hbroken).elim
  · rcases first_broken_cons_iff.mp hrest with ⟨_, hsame⟩ | ⟨hlong, _⟩
    · exact hsame
    · exact (hlong .shortPassword ⟨hshort, rfl⟩).elim

/-- What is refused for a short password is too short. -/
theorem short_of_refuses (hrefuses : store.RefusesAccount name size workFactor .shortPassword) :
    size < minPasswordLength := by
  obtain ⟨_, rule, _, _, _, hbreaks⟩ := hrefuses
  cases rule with
  | name => cases hbreaks
  | password => exact hbreaks.1
  | workFactor | freeName => cases hbreaks.2

/-- The outcome shows whether the size of the password is too little. -/
theorem CreatesAccount.short_of_short {outcome : Store × Except Failure Answer} {other : Nat}
    (hname : IsName name) (hcreates : store.CreatesAccount name size workFactor outcome)
    (hother : store.CreatesAccount name other workFactor outcome)
    (hshort : size < minPasswordLength) : other < minPasswordLength := by
  cases houtcome : outcome.2 with
  | ok answer =>
      have hsize := (hcreates.succeeds.mp ⟨answer, houtcome⟩).2.1
      omega
  | error failure =>
      obtain ⟨_, violation, hrefuses, rfl⟩ := hcreates.refused failure houtcome
      obtain ⟨_, _, hrefuses', hsame⟩ := hother.refused _ houtcome
      cases hsame
      rw [refuses_of_short hname hshort hrefuses] at hrefuses'
      exact short_of_refuses hrefuses'

/-- Accounts are created exactly as the rules say, with the bytes of the password counted. With its
characters counted, as the message about short passwords promises, they are so unless the name is
one and the password has enough bytes, but not enough characters. -/
theorem create_user_as_promised_iff (store : Store) (name password : String) (workFactor : Nat) :
    let outcome := store.step name (.createUser password workFactor)
    store.CreatesAccount name password.utf8ByteSize workFactor outcome ∧
      (store.CreatesAccount name password.length workFactor outcome ↔
        ¬(IsName name ∧ password.length < minPasswordLength ∧
          minPasswordLength ≤ password.utf8ByteSize)) := by
  intro outcome
  have hbytes : store.CreatesAccount name password.utf8ByteSize workFactor outcome :=
    store.step_creates_account name password workFactor
  refine ⟨hbytes, fun hcharacters => ?_, fun hnot => hbytes.congr fun hname => ?_⟩
  · rintro ⟨hname, hshort, henough⟩
    have hless := hcharacters.short_of_short hname hbytes hshort
    omega
  · have hle := length_le_byte_size password
    constructor
    · omega
    · intro hshort
      by_contra henough
      exact hnot ⟨hname, hshort, Nat.le_of_not_lt henough⟩

/-- A password of four characters and eight bytes. -/
def shortPassword : String := "éééé"

/-- A password that is shorter than the message says is taken. -/
theorem create_user_with_short_password :
    let outcome := Store.empty.step "ann" (.createUser shortPassword 10)
    Store.empty.Reachable ∧
      Violation.shortPassword.message = "Password must be at least 8 characters long." ∧
      shortPassword.length = 4 ∧
      outcome.2 = .ok (.user ⟨1, "ann", false, 10⟩) ∧
      ¬Store.empty.CreatesAccount "ann" shortPassword.length 10 outcome := by
  intro outcome
  have hlength : shortPassword.length = 4 := by decide
  have hok : outcome.2 = .ok (.user ⟨1, "ann", false, 10⟩) := by decide +kernel
  refine ⟨.empty, by decide, hlength, hok, fun hcreates => ?_⟩
  have hsize := (hcreates.succeeds.mp ⟨_, hok⟩).2.1
  rw [hlength] at hsize
  exact absurd hsize (by decide)

end Store

end PodcastLedger
