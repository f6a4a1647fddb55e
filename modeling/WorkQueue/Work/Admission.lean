import WorkQueue.Store.Messages
import WorkQueue.Store.Transactions

/-!
# Working under a transaction

Work under a transaction is done only if the transaction is open. A transaction that is over
refuses it. One whose lifetime has passed is undone in the same storage transaction, which is then
kept although the work was not done: that the transaction lapsed is an answer, not an error.
-/

namespace WorkQueue

/-- What working under a transaction came to. -/
inductive Admitted (α : Type) where
  /-- The work was done. -/
  | done (answer : α)
  /-- The transaction's lifetime had passed, and what it held was undone. -/
  | lapsed (undone : RollbackSummary)
  deriving DecidableEq, Repr

namespace Work

/-- Close a transaction that is open. -/
def close (id : TransactionId) (target : TransactionState) (now : Instant) (reason : String) :
    Work Unit := do
  let closed ← modifyGet (Store.closeTransaction id target now reason)
  if closed then pure () else throw (.closed id)

/-- Close a transaction and undo what it holds: added messages are deleted, taken ones are given
back. -/
def unwind (id : TransactionId) (target : TransactionState) (reason : String) (now : Instant) :
    Work RollbackSummary := do
  close id target now reason
  let discarded ← modifyGet (Store.discardOwned id .add)
  let returned ← modifyGet (Store.returnOwned id now)
  pure ⟨discarded, returned.requeued, returned.exhausted⟩

/-- Do work under a transaction, if the transaction is open. -/
def under {α : Type} (id : TransactionId) (now : Instant) (work : Work α) : Work (Admitted α) := do
  match (← get).transaction? id with
  | none => throw (.notFound id.display)
  | some transaction =>
      match transaction.state with
      | .expired => throw (.expired id)
      | .committed | .rolledBack => throw (.closed id)
      | .active =>
          if transaction.isExpiredAt now then .lapsed <$> unwind id .expired expiredReason now
          else .done <$> work

end Work

end WorkQueue
