import WorkQueue.Store.Messages
import WorkQueue.Store.Transactions

/-!
# Repairing the store

What a sweep does to rows: messages that expired transactions still hold are deleted or given
back, and active messages that nobody can take any more are closed. Whether a message is an orphan
depends on its transaction's row alone, so that a sweep which stopped halfway is finished by the
next one.
-/

namespace WorkQueue.Store

/-- Is the transaction there, and expired? -/
def hasExpired (store : Store) (id : TransactionId) : Bool :=
  store.transactions.any fun t => t.id = id && t.state = .expired

/-- Does an expired transaction still hold the message for this action? -/
def isOrphan (store : Store) (action : TransactionAction) (message : Message) : Bool :=
  message.state = .inTransaction && message.action = some action &&
    message.owner.any store.hasExpired

/-- Delete the messages that expired transactions were adding, and count them. -/
def discardOrphanedAdds (store : Store) : Nat × Store :=
  store.removeMessages (store.isOrphan .add)

/-- Give back the messages that expired transactions had taken. -/
def returnOrphanedPulls (instant : Instant) (store : Store) : Returned × Store :=
  store.giveBack (store.isOrphan .pull) instant

/-- Close the active messages whose stored lifetime has passed, and count them. -/
def expireMessages (now : Instant) : Store → Nat × Store :=
  updateMessages (fun m => m.state = .active && m.lifetimePassed now)
    fun m => m.close .expired now

/-- Close the active messages that have no attempts left, and count them. -/
def closeExhaustedMessages (now : Instant) : Store → Nat × Store :=
  updateMessages (fun m => m.state = .active && m.maxAttempts ≤ m.attempts)
    fun m => m.close .attemptsExceeded now

end WorkQueue.Store
