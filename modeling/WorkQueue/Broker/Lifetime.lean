import WorkQueue.Broker.Basic
import WorkQueue.Work.Finish

/-!
# Transactions from start to end

Starting, extending, committing and rolling back transactions. A transaction whose lifetime has
passed is undone by whichever call comes upon it first; that call, and every later one, answers
that the transaction has expired.
-/

namespace WorkQueue.Broker

/-- The end of a lifetime that begins now. -/
def expiryAfter (now : Instant) (lifetime : Duration) : Except Error Instant :=
  if lifetime.isNegative then .error (.invalidArgument "transaction ttl must not be negative")
  else match now.shift? lifetime with
    | some expiry => .ok expiry
    | none => .error (.invalidArgument "transaction ttl is out of range")

/-- What undoing a transaction adds to the counters. -/
def countUndone (undone : RollbackSummary) : List Entry :=
  [.counted (.messageTransition .active) undone.requeued,
    .counted (.messageTransition .attemptsExceeded) undone.exhausted]

/-- Do work under a transaction in one storage transaction. -/
def under {α : Type} (id : TransactionId) (now : Instant) (work : Work α) : Call α := do
  match ← inStorage (Work.under id now work) with
  | .done answer => pure answer
  | .lapsed undone =>
      note ([.counted (.transactionOutcome .expired) 1] ++ countUndone undone ++
        [.event (.transactionLapsed id undone)])
      throw (.expired id)

/-- Start a transaction. -/
def start (lifetime : Duration) : Call TransactionId := do
  let now ← now
  let expiry ← check (expiryAfter now lifetime)
  let id ← inStorage (Store.insertTransaction now expiry)
  note [.counted (.transactionOutcome .started) 1, .event (.transactionStarted id expiry)]
  pure id

/-- Find a transaction. -/
def findTransaction (id : TransactionId) : Call Transaction :=
  inStorage (Work.findTransaction id)

/-- Let a transaction's lifetime begin again, and answer when it ends. -/
def extend (id : TransactionId) (lifetime : Duration) : Call Instant := do
  let now ← now
  let expiry ← check (expiryAfter now lifetime)
  under id now (Work.extend id expiry)
  note [.event (.transactionExtended id expiry)]
  pure expiry

/-- Commit a transaction. -/
def commit (id : TransactionId) : Call CommitSummary := do
  let now ← now
  let summary ← under id now (Work.commit id now)
  note [.counted (.transactionOutcome .committed) 1,
    .counted (.messageTransition .active) summary.added,
    .counted (.messageTransition .processed) summary.pulled,
    .event (.transactionCommitted id summary)]
  pure summary

/-- Roll a transaction back. -/
def rollback (id : TransactionId) (reason : String) : Call RollbackSummary := do
  let now ← now
  let undone ← under id now (Work.unwind id .rolledBack reason now)
  note ([.counted (.transactionOutcome .rolledBack) 1] ++ countUndone undone ++
    [.event (.transactionRolledBack id reason undone)])
  pure undone

end WorkQueue.Broker
