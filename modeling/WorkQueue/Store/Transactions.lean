import WorkQueue.Store.Basic

/-!
# Stored transactions

Adding transactions and moving them to their end. Every change asks for an active transaction, so
that one which is over keeps its row as it is.
-/

namespace WorkQueue

/-- The reason that is kept for a transaction whose lifetime has passed. -/
def expiredReason : String :=
  "Expired"

/-- The reason that is kept for a committed transaction. -/
def committedReason : String :=
  "Committed"

namespace Transaction

/-- Is the transaction open? -/
def isActive (transaction : Transaction) : Bool :=
  transaction.state = .active

/-- The transaction with an end. -/
def close (transaction : Transaction) (target : TransactionState) (instant : Instant)
    (reason : String) : Transaction :=
  { transaction with state := target, endTime := some instant, endReason := some reason }

end Transaction

namespace Store

/-- Add an active transaction. -/
def insertTransaction (startTime expiryTime : Instant) : Work TransactionId := do
  let store ← get
  let number ← nextNumber store.lastTransaction
  let transaction : Transaction :=
    { id := ⟨number⟩, state := .active, startTime, expiryTime, endTime := none, endReason := none }
  set { store with
    transactions := store.transactions ++ [transaction], lastTransaction := number }
  pure transaction.id

/-- Give an active transaction another end of its lifetime. Was there one? -/
def setTransactionExpiry (id : TransactionId) (expiryTime : Instant) (store : Store) :
    Bool × Store :=
  let (rows, store) := store.updateTransactions (fun t => t.id = id && t.isActive)
    fun t => { t with expiryTime }
  (rows != 0, store)

/-- Close an active transaction. Was there one? -/
def closeTransaction (id : TransactionId) (target : TransactionState) (instant : Instant)
    (reason : String) (store : Store) : Bool × Store :=
  let (rows, store) := store.updateTransactions (fun t => t.id = id && t.isActive)
    fun t => t.close target instant reason
  (rows != 0, store)

/-- Close the active transactions whose stored lifetime has passed, and count them. -/
def expireTransactions (now : Instant) : Store → Nat × Store :=
  updateTransactions (fun t => t.isActive && t.expiryTime.storedLe now)
    fun t => t.close .expired now expiredReason

end Store

end WorkQueue
