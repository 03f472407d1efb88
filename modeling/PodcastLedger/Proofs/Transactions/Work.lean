import PodcastLedger.Failure.Report
import PodcastLedger.Proofs.Outcome
import PodcastLedger.Proofs.Statements.Procedure

/-!
# Work on a connection

What statements do to the store one by one, failed or not. `Work` ends at the first failure and then
leaves behind all that its statements have written until there. Only a transaction takes it back: it
remembers the store that it began with, possibly inside other transactions. Besides what it fails
for by itself, a statement may fail for any reason at any time (`Connection.mishaps`).

A procedure is carried out on a connection statement by statement (`Procedure.work`). It realizes what
is computed of it as a whole: it gets to the same store, or fails for nothing else but a mishap
(`Procedure.realizes`). In a transaction it restores what was there if it fails, however far it got
(`Realizes.restores`).
-/

namespace PodcastLedger

/-- A connection to the store: what its statements have made of the store, the stores that its open
transactions began with, the innermost one first, and what befalls its next statements, each of which
passes on its own merits or fails with a report that was not its fault. -/
@[ext]
structure Connection where
  store : Store
  saved : List Store
  mishaps : List (Option Report)

/-- Work on a connection comes to a result or fails. Either way the connection is left as its
statements have made it. -/
def Work (Result : Type) := Connection → Except Report Result × Connection

variable {First Second : Type}

namespace Work

/-- Work goes on from the connection that earlier work leaves, and ends at the first failure. -/
instance : Monad Work where
  pure result := fun connection => (.ok result, connection)
  bind work rest := fun connection =>
    match work connection with
    | (.ok result, next) => rest result next
    | (.error report, left) => (.error report, left)

/-- Something that is settled without a statement. -/
def check (outcome : Except Report First) : Work First := fun connection => (outcome, connection)

/-- A single statement. It writes all that it writes or, if it fails, nothing. -/
def execute (write : Store → Except Report (Store × First)) : Work First := fun connection =>
  let rest := { connection with mishaps := connection.mishaps.tail }
  match connection.mishaps.head?.join, write connection.store with
  | some report, _ => (.error report, rest)
  | none, .error report => (.error report, rest)
  | none, .ok (next, result) => (.ok result, { rest with store := next })

/-- Work in a transaction. If it fails, the store is what it was when the transaction began. -/
def transaction (body : Work First) : Work First := fun connection =>
  match body { connection with saved := connection.store :: connection.saved } with
  | (.ok result, next) => (.ok result, { next with saved := next.saved.tail })
  | (.error report, left) =>
    (.error report,
      { left with store := left.saved.headD left.store, saved := left.saved.tail })

end Work

/-- The work gets to what is computed as a whole. It closes the transactions that it opens; if it
comes to a result, this is the one computed, and so is the store; and it fails for nothing else but a
mishap. -/
structure Realizes (connection : Connection) (work : Work First)
    (outcome : Except Report (Store × First)) : Prop where
  saved : (work connection).2.saved = connection.saved
  ok : ∀ result, (work connection).1 = .ok result →
    outcome = .ok ((work connection).2.store, result)
  undisturbed : connection.mishaps = [] →
    (work connection).1 = outcome.map Prod.snd ∧ (work connection).2.mishaps = []

/-- The work gets to what is computed as a whole, and if it fails, the store is as it was before. -/
structure Restores (connection : Connection) (work : Work First)
    (outcome : Except Report (Store × First)) : Prop
    extends Realizes connection work outcome where
  restored : ∀ report, (work connection).1 = .error report →
    (work connection).2.store = connection.store

section Realizing

variable {connection : Connection} {work : Work First} {outcome : Except Report (Store × First)}

/-- What is settled without a statement leaves the store. -/
theorem Realizes.check (outcome : Except Report First) :
    Realizes connection (Work.check outcome)
      (outcome.map fun result => (connection.store, result)) := by
  refine ⟨rfl, ?_, fun hnone => ⟨?_, hnone⟩⟩
  · rintro result hresult
    rw [show outcome = .ok result from hresult]
    rfl
  · cases outcome <;> rfl

/-- A statement gets to what it leads to. -/
theorem Realizes.execute (write : Store → Except Report (Store × First)) :
    Realizes connection (Work.execute write) (write connection.store) := by
  let rest := { connection with mishaps := connection.mishaps.tail }
  have hexecute : Work.execute write connection =
    match connection.mishaps.head?.join, write connection.store with
    | some report, _ => (.error report, rest)
    | none, .error report => (.error report, rest)
    | none, .ok (next, result) => (.ok result, { rest with store := next }) := rfl
  have hmishaps : connection.mishaps = [] → rest.mishaps = [] := by
    intro hnone
    show connection.mishaps.tail = []
    rw [hnone, List.tail_nil]
  cases hmishap : connection.mishaps.head?.join with
  | some report =>
      rw [hmishap] at hexecute
      refine ⟨?_, ?_, fun hnone => ?_⟩
      · rw [hexecute]
      · rw [hexecute]
        exact nofun
      · rw [hnone] at hmishap
        cases hmishap
  | none =>
      rw [hmishap] at hexecute
      cases hwrite : write connection.store with
      | error report =>
          rw [hwrite] at hexecute
          refine ⟨?_, ?_, fun hnone => ?_⟩ <;> rw [hexecute]
          · exact nofun
          · exact ⟨rfl, hmishaps hnone⟩
      | ok value =>
          rw [hwrite] at hexecute
          refine ⟨?_, ?_, fun hnone => ?_⟩ <;> rw [hexecute]
          · rintro _ ⟨⟩
            rfl
          · exact ⟨rfl, hmishaps hnone⟩

/-- Work after work gets to what is computed after what the first one gets to. -/
theorem Realizes.bind (hfirst : Realizes connection work outcome) {rest : First → Work Second}
    {computed : Store × First → Except Report (Store × Second)}
    (hrest : ∀ next result mishaps, outcome = .ok (next, result) →
      Realizes ⟨next, connection.saved, mishaps⟩ (rest result) (computed (next, result))) :
    Realizes connection (work >>= rest) (outcome >>= computed) := by
  obtain ⟨hsaved, hok, hundisturbed⟩ := hfirst
  have hbind : (work >>= rest) connection = match work connection with
    | (.ok result, next) => rest result next
    | (.error report, left) => (.error report, left) := rfl
  cases hwork : work connection with
  | mk told later =>
    obtain ⟨next, saved, mishaps⟩ := later
    rw [hwork] at hsaved hok hundisturbed hbind
    obtain rfl : saved = connection.saved := hsaved
    cases told with
    | error report =>
        refine ⟨?_, ?_, ?_⟩ <;> rw [hbind]
        · exact nofun
        · intro hnone
          obtain ⟨htold, hmishaps⟩ := hundisturbed hnone
          refine ⟨?_, hmishaps⟩
          cases outcome with
          | error other =>
              cases htold
              rfl
          | ok value => cases htold
    | ok result =>
        have hvalue := hok result rfl
        obtain ⟨hsaved', hok', hundisturbed'⟩ := hrest next result mishaps hvalue
        subst hvalue
        refine ⟨?_, ?_, ?_⟩ <;> rw [hbind]
        · exact hsaved'
        · exact hok'
        · exact fun hnone => hundisturbed' (hundisturbed hnone).2

/-- Work in a transaction takes back what it wrote if it fails. -/
theorem Realizes.restores
    (hbody : Realizes { connection with saved := connection.store :: connection.saved } work
      outcome) :
    Restores connection (Work.transaction work) outcome := by
  obtain ⟨hsaved, hok, hundisturbed⟩ := hbody
  have htransaction : Work.transaction work connection =
    match work { connection with saved := connection.store :: connection.saved } with
    | (.ok result, next) => (.ok result, { next with saved := next.saved.tail })
    | (.error report, left) =>
      (.error report,
        { left with store := left.saved.headD left.store, saved := left.saved.tail }) := rfl
  cases hwork : work { connection with saved := connection.store :: connection.saved } with
  | mk told later =>
    rw [hwork] at hsaved hok hundisturbed htransaction
    -- The body has closed its own transactions, so the store to go back to is on top.
    replace hsaved : later.saved = connection.store :: connection.saved := hsaved
    cases told with
    | error report =>
        refine ⟨⟨?_, ?_, ?_⟩, ?_⟩ <;> rw [htransaction]
        · exact congrArg List.tail hsaved
        · exact nofun
        · exact hundisturbed
        · intro _ _
          show later.saved.headD later.store = connection.store
          rw [hsaved, List.headD_cons]
    | ok result =>
        refine ⟨⟨?_, ?_, ?_⟩, ?_⟩ <;> rw [htransaction]
        · exact congrArg List.tail hsaved
        · exact hok
        · exact hundisturbed
        · exact nofun

end Realizing

/-- The work of a procedure on a connection. -/
def Procedure.work {Result : Type} : Procedure Report Result → Work Result
  | settle outcome => Work.check outcome
  | execute write => Work.execute write
  | transaction body => Work.transaction body.work
  | sequence first rest => first.work >>= fun result => (rest result).work

/-- On a connection every procedure gets to what is computed of it as a whole. -/
theorem Procedure.realizes {Result : Type} (procedure : Procedure Report Result)
    (connection : Connection) :
    Realizes connection procedure.work (procedure.whole connection.store) := by
  induction procedure generalizing connection with
  | settle outcome => exact .check outcome
  | execute write => exact .execute write
  | transaction body ih => exact (Realizes.restores (ih _)).toRealizes
  | sequence first rest ihFirst ihRest =>
      exact (ihFirst connection).bind fun _ _ _ _ => ihRest _ _

end PodcastLedger
