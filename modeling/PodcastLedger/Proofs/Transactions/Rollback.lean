import PodcastLedger.Proofs.Constraints.Safety
import PodcastLedger.Proofs.Ledger.Evolution
import PodcastLedger.Proofs.Transactions.Work

/-!
# Failures leave no trace

A request is carried out statement by statement in a transaction (`Call.perform`). Whatever it fails
for and however far it got, the store is what it was before (`Call.perform_restores`), so that a
request that fails is a step that changes nothing, as `Store.step` has it
(`Store.Reachable.perform_eq_step`). In a session the requests that failed could as well not have
been made (`Store.failures_leave_no_trace`).
-/

namespace PodcastLedger

/-- A request of a user as work on a connection, statement by statement. What was written before a
failure stays written. -/
def Work.steps (order : List (Entry Podcast) → List (Entry Podcast)) (userName : String)
    (request : Request) : Work Answer :=
  (RowStatements.guarded.perform order userName request).work

/-! ## Sessions -/

section Sessions

variable {State Step Reason Told : Type} {step : State → Step → State × Except Reason Told}
  {state : State}

/-- Makes steps one after the other, failed or not. -/
def carryOut (step : State → Step → State × Except Reason Told) (state : State) :
    List Step → State × List (Except Reason Told)
  | [] => (state, [])
  | first :: rest =>
    let (next, told) := step state first
    let (last, others) := carryOut step next rest
    (last, told :: others)

/-- What is left of answered steps without any number of those that failed. -/
inductive WithoutFailures : List (Step × Except Reason Told) → List (Step × Except Reason Told) →
    Prop where
  | nil : WithoutFailures [] []
  | keep {answered kept : List (Step × Except Reason Told)} (first : Step × Except Reason Told)
      (hrest : WithoutFailures answered kept) : WithoutFailures (first :: answered) (first :: kept)
  | drop {answered kept : List (Step × Except Reason Told)} (first : Step) (reason : Reason)
      (hrest : WithoutFailures answered kept) :
      WithoutFailures ((first, .error reason) :: answered) kept

/-- If no step that fails changes the state, the others have the same answers without those that
failed and lead to the same state. -/
theorem carry_out_without_failures (sound : State → Prop)
    (hkeeps : ∀ state first, sound state → sound (step state first).1)
    (hfailed : ∀ state first reason, sound state → (step state first).2 = .error reason →
      (step state first).1 = state)
    (hsound : sound state) {steps : List Step} {kept : List (Step × Except Reason Told)}
    (hkept : WithoutFailures (steps.zip (carryOut step state steps).2) kept) :
    carryOut step state (kept.map Prod.fst) =
      ((carryOut step state steps).1, kept.map Prod.snd) := by
  induction steps generalizing state kept with
  | nil =>
      cases hkept
      rfl
  | cons first rest ih =>
      have hcarry : ∀ rest, carryOut step state (first :: rest) =
          ((carryOut step (step state first).1 rest).1,
            (step state first).2 :: (carryOut step (step state first).1 rest).2) := fun _ => rfl
      have hkeep : ∀ kept, WithoutFailures
            (rest.zip (carryOut step (step state first).1 rest).2) kept →
          carryOut step state (first :: kept.map Prod.fst) =
            ((carryOut step state (first :: rest)).1,
              (step state first).2 :: kept.map Prod.snd) := by
        intro kept hrest
        rw [hcarry, hcarry, ih (hkeeps state first hsound) hrest]
      rw [hcarry, List.zip_cons_cons] at hkept
      cases htold : (step state first).2 with
      | ok told =>
          rw [htold] at hkept hkeep
          cases hkept with
          | keep _ hrest => exact hkeep _ hrest
      | error reason =>
          rw [htold] at hkept hkeep
          cases hkept with
          | keep _ hrest => exact hkeep _ hrest
          | drop _ _ hrest =>
              rw [hcarry]
              rw [hfailed state first reason hsound htold] at hrest ⊢
              exact ih hsound hrest

end Sessions

/-! ## Calls -/

/-- A request of a user, and the order in which podcasts are read for it. -/
structure Call where
  order : List (Entry Podcast) → List (Entry Podcast)
  userName : String
  request : Request

/-- Carries out a call in a transaction. -/
def Call.perform (call : Call) : Work Answer :=
  Work.transaction (Work.steps call.order call.userName call.request)

/-- Carries out calls on a connection one after the other, failed or not. -/
def Connection.run (connection : Connection) (calls : List Call) :
    Connection × List (Except Report Answer) :=
  carryOut (fun connection call => (call.perform connection).swap) connection calls

/-- A call gets to what is computed of it as a whole, and takes back what it wrote if it fails. -/
theorem Call.perform_restores (call : Call) (connection : Connection) :
    Restores connection call.perform
      (Guarded.perform connection.store call.order call.userName call.request) :=
  (Procedure.realizes _ _).restores

/-- A call that fails for itself leaves the connection as it was. -/
theorem Call.perform_of_error {call : Call} {connection : Connection} {report : Report}
    (hnone : connection.mishaps = []) (herror : (call.perform connection).1 = .error report) :
    (call.perform connection).2 = connection := by
  obtain ⟨⟨hsaved, _, hundisturbed⟩, hrestored⟩ := call.perform_restores connection
  exact Connection.ext (hrestored report herror) hsaved ((hundisturbed hnone).2.trans hnone.symm)

/-- In a session on a connection that nothing else befalls, the calls that failed could as well not
have been made. -/
theorem Connection.run_without_failures {connection : Connection}
    (hnone : connection.mishaps = []) {calls : List Call}
    {kept : List (Call × Except Report Answer)}
    (hkept : WithoutFailures (calls.zip (connection.run calls).2) kept) :
    connection.run (kept.map Prod.fst) = ((connection.run calls).1, kept.map Prod.snd) :=
  carry_out_without_failures (fun connection => connection.mishaps = [])
    (fun connection call hnone => ((call.perform_restores connection).undisturbed hnone).2)
    (fun _ _ _ => Call.perform_of_error) hnone hkept

namespace Store

variable {store : Store}

/-- A session makes its steps one after the other. -/
theorem run_eq_carry_out (store : Store) (session : List (String × Request)) :
    store.run session = carryOut (fun store made => store.step made.1 made.2) store session := by
  induction session generalizing store with
  | nil => rfl
  | cons first rest ih =>
      unfold run carryOut
      simp only [ih]

/-- A request that fails is a step that leaves the store. -/
theorem step_of_failure {userName : String} {request : Request} {failure : Failure}
    (herror : (store.step userName request).2 = .error failure) :
    (store.step userName request).1 = store := by
  cases hanswer : store.answer userName request with
  | error _ => rw [step_of_error hanswer]
  | ok outcome =>
      rw [step_of_answer hanswer] at herror
      cases herror

/-- In a session the requests that failed could as well not have been made. -/
theorem run_without_failures {session : List (String × Request)}
    {kept : List ((String × Request) × Except Failure Answer)}
    (hkept : WithoutFailures (session.zip (store.run session).2) kept) :
    store.run (kept.map Prod.fst) = ((store.run session).1, kept.map Prod.snd) := by
  rw [run_eq_carry_out] at hkept
  rw [run_eq_carry_out, run_eq_carry_out]
  exact carry_out_without_failures (fun _ => True) (fun _ _ => id)
    (fun _ _ _ _ => step_of_failure) trivial hkept

/-- A call on a connection that nothing else befalls is a step of a session: the answer is the same
and so is the store. -/
theorem Reachable.perform_eq_step (hreachable : store.Reachable) (call : Call)
    (horder : ∀ rows, (call.order rows).Perm rows) :
    ∃ outcome, Agree SameAnswer outcome (store.answer call.userName call.request) ∧
      call.perform ⟨store, [], []⟩ =
        ((reported outcome).map Prod.snd,
          ⟨(store.step call.userName call.request).1, [], []⟩) := by
  have hconsistent := hreachable.consistent
  have hperform : Guarded.perform store call.order call.userName call.request = reported _ :=
    (Guarded.perform_conforms hreachable.constrained horder call.userName call.request).eq
  have hagree := hconsistent.plain_answer horder call.userName call.request
  obtain ⟨⟨hsaved, hok, hundisturbed⟩, hrestored⟩ := call.perform_restores ⟨store, [], []⟩
  obtain ⟨htold, hmishaps⟩ := hundisturbed rfl
  rw [hperform] at hok htold
  refine ⟨_, hagree, Prod.ext htold (Connection.ext ?_ hsaved hmishaps)⟩
  cases houtcome : (RowStatements.plain.perform call.order call.userName call.request).whole
      store with
  | error failure =>
      rw [houtcome] at htold hagree
      rw [step_of_error hagree.of_error_left]
      exact hrestored _ htold
  | ok result =>
      rw [houtcome] at htold hagree hok
      obtain ⟨⟨last, answer⟩, hanswer, hsame⟩ := hagree.of_ok_left
      rw [step_of_answer hanswer, ← hsame.store_eq]
      exact (congrArg Prod.fst (Except.ok.inj (hok _ htold))).symm

/-- Failures leave no trace. On a connection to a reachable store, possibly in transactions, a call
that fails, for whatever reason and at whatever statement, leaves the store and the transactions as
they were. On an idle connection that nothing else befalls a call is a step of a session. So in each
session, carried out in either way, any number of the steps that failed could as well not have been
made: the others are answered in the same way and lead to the same store. -/
theorem failures_leave_no_trace (hreachable : store.Reachable) :
    (∀ (connection : Connection) (call : Call) report, connection.store = store →
      (call.perform connection).1 = .error report →
        (call.perform connection).2.store = store ∧
          (call.perform connection).2.saved = connection.saved) ∧
    (∀ call : Call, (∀ rows, (call.order rows).Perm rows) →
      ∃ outcome, Agree SameAnswer outcome (store.answer call.userName call.request) ∧
        call.perform ⟨store, [], []⟩ =
          ((reported outcome).map Prod.snd,
            ⟨(store.step call.userName call.request).1, [], []⟩)) ∧
    (∀ calls kept,
      let idle : Connection := ⟨store, [], []⟩
      WithoutFailures (calls.zip (idle.run calls).2) kept →
        idle.run (kept.map Prod.fst) = ((idle.run calls).1, kept.map Prod.snd)) ∧
    ∀ session kept, WithoutFailures (session.zip (store.run session).2) kept →
      store.run (kept.map Prod.fst) = ((store.run session).1, kept.map Prod.snd) := by
  refine ⟨?_, hreachable.perform_eq_step, ?_, fun session kept => run_without_failures⟩
  · rintro connection call report rfl herror
    have hrestores := call.perform_restores connection
    exact ⟨hrestores.restored report herror, hrestores.saved⟩
  · intro calls kept idle hkept
    exact idle.run_without_failures rfl hkept

/-- A batch of two actions. No statement can carry the identifier of the second episode. -/
def halfBatch : Request :=
  .addActions
    [⟨"download", some "phone", "http://a.example/1", some "one", "http://a.example/feed", none,
      none, .ofUnix 1000, none⟩,
    ⟨"download", some "tablet", "http://b.example/2", some "\x00", "http://b.example/feed", none,
      none, .ofUnix 2000, none⟩]

/-- The batch fails after two devices, two podcasts and an episode were written, and restores the
store; and so it does if its third statement takes too long. The device that is registered then is
registered as if there had been no batch. -/
theorem half_batch_leaves_no_trace :
    let store := (Store.empty.run [("ann", .createUser "long enough" 10)]).1
    let idle : Connection := ⟨store, [], []⟩
    let slow : Report := ⟨.note "canceling statement due to statement timeout", []⟩
    let disturbed : Connection := ⟨store, [store], [none, none, some slow]⟩
    let batch : Call := ⟨id, "ann", halfBatch⟩
    let watch : Call := ⟨id, "ann", .registerDevice "watch"⟩
    let left := (Work.steps id "ann" halfBatch idle).2.store
    (left.devices.entries.map (·.row.name) = ["phone", "tablet"] ∧
      left.podcasts.entries.map (·.row.url) = ["http://a.example/feed", "http://b.example/feed"] ∧
      left.episodes.entries.map (·.row.url) = ["http://a.example/1"]) ∧
    ((batch.perform idle).1 = .error (Report.refused "Error inserting episode") ∧
      (batch.perform idle).2.store = store) ∧
    ((batch.perform disturbed).1 = .error slow ∧ (batch.perform disturbed).2.store = store) ∧
    idle.run [watch] =
      ((idle.run [batch, watch]).1, [.ok (.registration ⟨⟨1, 1, "watch", "", .other⟩, true⟩)]) := by
  intro store idle slow disturbed batch watch left
  have hreachable : store.Reachable := Reachable.empty.run [("ann", .createUser "long enough" 10)]
  obtain ⟨hrestores, _, hsessions, _⟩ := failures_leave_no_trace hreachable
  have hrefused : (batch.perform idle).1 = .error (Report.refused "Error inserting episode") := by
    decide +kernel
  have hslow : (batch.perform disturbed).1 = .error slow := by decide +kernel
  have hanswers : (idle.run [batch, watch]).2 =
      [.error (Report.refused "Error inserting episode"),
        .ok (.registration ⟨⟨1, 1, "watch", "", .other⟩, true⟩)] := by
    decide +kernel
  refine ⟨by decide +kernel, ⟨hrefused, (hrestores idle batch _ rfl hrefused).1⟩,
    ⟨hslow, (hrestores disturbed batch _ rfl hslow).1⟩, ?_⟩
  refine hsessions [batch, watch] [(watch, _)] ?_
  rw [hanswers]
  exact .drop _ _ (.keep _ .nil)

end Store

end PodcastLedger
