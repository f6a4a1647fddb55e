import WorkQueue.Journal
import WorkQueue.LockTable
import WorkQueue.Store.Basic

/-!
# The broker

The broker keeps the store and everything that calls share beside it: the clock, the claim locks,
the journal, and the outages that are to come. A call answers or fails, and goes on with the broker
as it left it. `Broker.inStorage` does a piece of work in one storage transaction: if the
transaction cannot be begun, or the work fails, the store is as it was.
-/

namespace WorkQueue

/-- The storage transactions that cannot be begun, counted from the next one, which has the number
one. -/
structure Outages where
  failing : List Nat := []
  deriving DecidableEq, Repr

namespace Outages

/-- Does the next storage transaction fail to begin? -/
def hitsNext (outages : Outages) : Bool :=
  outages.failing.contains 1

/-- The outages as they are counted after the next storage transaction. -/
def pass (outages : Outages) : Outages :=
  ⟨(outages.failing.filter fun n => 1 < n).map fun n => n - 1⟩

end Outages

/-- How taking a message from a queue is kept apart from other takings. -/
inductive ClaimMode where
  /-- The store finds and takes a message in two statements; callers take turns. -/
  | serialized
  /-- The store finds and takes a message in one statement. -/
  | skipLocked
  deriving DecidableEq, Repr

/-- The store and what calls share beside it. -/
structure Broker where
  store : Store := {}
  clock : Instant
  outages : Outages := {}
  locks : LockTable Unit := .ofCapacity 1024
  claims : ClaimMode := .serialized
  journal : Journal := []
  deriving DecidableEq, Repr

/-- A call of the broker. -/
abbrev Call (α : Type) : Type :=
  ExceptT Error (StateM Broker) α

namespace Broker

/-- The current instant. -/
def now : Call Instant := do
  return (← get).clock

/-- Make entries in the journal. -/
def note (entries : List Entry) : StateM Broker Unit :=
  modify fun broker => { broker with journal := broker.journal ++ entries }

/-- The answer of a check, as a call. -/
def check {α : Type} (result : Except Error α) : Call α :=
  ExceptT.mk (pure result)

/-- Do a piece of work in one storage transaction. -/
def inStorage {α : Type} (work : Work α) : Call α :=
  ExceptT.mk fun broker =>
    let begun := { broker with outages := broker.outages.pass }
    if broker.outages.hitsNext then (.error (.storage .noConnection), begun)
    else
      let (answer, store) := work.finish broker.store
      (answer, { begun with store })

end Broker

end WorkQueue
