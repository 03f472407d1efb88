import PodcastLedger.Store.Basic

/-!
# Procedures

An operation as the statements that it is made of, one after the other, where a statement may depend
on what those before it gave. A procedure says nothing of how it is carried out. As a whole it leads
from a store to a store with a result, or fails and leads nowhere (`Procedure.whole`).
-/

namespace PodcastLedger

/-- What an operation does, statement by statement: it settles something without a statement,
executes a single statement, or does one thing after another, some of it in transactions of their
own. -/
inductive Procedure (Reason : Type) : Type → Type 1 where
  | settle {Result : Type} (outcome : Except Reason Result) : Procedure Reason Result
  | execute {Result : Type} (write : Store → Except Reason (Store × Result)) :
      Procedure Reason Result
  | transaction {Result : Type} (body : Procedure Reason Result) : Procedure Reason Result
  | sequence {First Second : Type} (first : Procedure Reason First)
      (rest : First → Procedure Reason Second) : Procedure Reason Second

namespace Procedure

variable {Reason First Second : Type}

/-- Procedures are put together with `do`. -/
instance : Monad (Procedure Reason) where
  pure result := settle (.ok result)
  bind := sequence

/-- A statement that only reads. -/
def query (read : Store → Except Reason First) : Procedure Reason First :=
  execute fun store => (read store).map fun result => (store, result)

/-- A statement that has no other result than the store that it leads to. -/
def change (write : Store → Except Reason Store) : Procedure Reason Unit :=
  execute fun store => (write store).map fun next => (next, ())

/-- What a procedure leads to from a store, or what it fails for. -/
def whole {Result : Type} : Procedure Reason Result → Store → Except Reason (Store × Result)
  | settle outcome, store => outcome.map fun result => (store, result)
  | execute write, store => write store
  | transaction body, store => body.whole store
  | sequence first rest, store => do
    let (store, result) ← first.whole store
    (rest result).whole store

/-- A result alone leaves the store. -/
@[simp] theorem whole_pure (result : First) (store : Store) :
    (pure result : Procedure Reason First).whole store = .ok (store, result) :=
  rfl

/-- A statement leads to what it writes. -/
@[simp] theorem whole_execute (write : Store → Except Reason (Store × First)) (store : Store) :
    (execute write).whole store = write store :=
  rfl

/-- A transaction leads to what its body leads to. -/
@[simp] theorem whole_transaction (body : Procedure Reason First) (store : Store) :
    body.transaction.whole store = body.whole store :=
  rfl

/-- One thing after another leads on from where the first one has led. -/
@[simp] theorem whole_bind (first : Procedure Reason First)
    (rest : First → Procedure Reason Second) (store : Store) :
    (first >>= rest).whole store =
      first.whole store >>= fun reached => (rest reached.2).whole reached.1 :=
  rfl

/-- A result that is told in another way comes with the same store. -/
@[simp] theorem whole_map (change : First → Second) (procedure : Procedure Reason First)
    (store : Store) :
    (change <$> procedure).whole store =
      procedure.whole store >>= fun reached => .ok (reached.1, change reached.2) :=
  rfl

/-- What is settled without a statement leaves the store. -/
@[simp] theorem whole_settle (outcome : Except Reason First) (store : Store) :
    (settle outcome).whole store = outcome.map fun result => (store, result) :=
  rfl

/-- A statement that only reads leaves the store. -/
@[simp] theorem whole_query (read : Store → Except Reason First) (store : Store) :
    (query read).whole store = (read store).map fun result => (store, result) :=
  rfl

/-- A statement without a result leads to the store that it writes. -/
@[simp] theorem whole_change (write : Store → Except Reason Store) (store : Store) :
    (change write).whole store = (write store).map fun next => (next, ()) :=
  rfl

end Procedure

end PodcastLedger
