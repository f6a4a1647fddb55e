import WorkQueue.Message
import WorkQueue.QueueName
import WorkQueue.Summary
import WorkQueue.Width

/-!
# The store

The rows that are kept between calls, and pieces of work on them. Rows are listed in the order of
their numbers, and a number is never given out twice, not even after its row has been deleted. A
piece of work ends with an answer and the store after it, or with an error, and then the store is
as it was: what an error leaves behind cannot even be said. `Work.run` ends a storage transaction
that way.

Rows are changed in bulk: `updateMessages`, `removeMessages` and `updateTransactions` take the
rows that satisfy a condition, and answer how many there were.
-/

namespace WorkQueue

/-- All rows, and for each kind the last number given out. -/
structure Store where
  queues : List Queue := []
  transactions : List Transaction := []
  messages : List Message := []
  lastQueue : Nat := 0
  lastTransaction : Nat := 0
  lastMessage : Nat := 0
  deriving DecidableEq, Repr

/-- A piece of work on the store: an answer and the store after it, or an error. -/
abbrev Work (α : Type) : Type :=
  StateT Store (Except Error) α

/-- End a piece of work: after an error the store is the one before it. -/
def Work.finish {α : Type} (work : Work α) (store : Store) : Except Error α × Store :=
  match work.run store with
  | .ok (answer, changed) => (.ok answer, changed)
  | .error error => (.error error, store)

/-- The number after the last one, as long as it is below `half64`. -/
def nextNumber (last : Nat) : Work Nat :=
  if last + 1 < half64 then pure (last + 1) else throw (.storage .noNumbersLeft)

namespace Store

/-- The queue with a number. -/
def queue? (store : Store) (id : QueueId) : Option Queue :=
  store.queues.find? fun queue => queue.id = id

/-- The queue with a name, in any case of letters. -/
def queueNamed? (store : Store) (name : QueueName) : Option Queue :=
  store.queues.find? fun queue => foldCase queue.name = name.key

/-- The transaction with a number. -/
def transaction? (store : Store) (id : TransactionId) : Option Transaction :=
  store.transactions.find? fun transaction => transaction.id = id

/-- The message with a number. -/
def message? (store : Store) (id : MessageId) : Option Message :=
  store.messages.find? fun message => message.id = id

/-- Change the messages that satisfy a condition, and count them. -/
def updateMessages (selected : Message → Bool) (change : Message → Message) (store : Store) :
    Nat × Store :=
  (store.messages.countP selected,
    { store with messages := store.messages.map fun m => if selected m then change m else m })

/-- Delete the messages that satisfy a condition, and count them. -/
def removeMessages (selected : Message → Bool) (store : Store) : Nat × Store :=
  (store.messages.countP selected,
    { store with messages := store.messages.filter fun m => !selected m })

/-- Change the transactions that satisfy a condition, and count them. -/
def updateTransactions (selected : Transaction → Bool) (change : Transaction → Transaction)
    (store : Store) : Nat × Store :=
  (store.transactions.countP selected,
    { store with
      transactions := store.transactions.map fun t => if selected t then change t else t })

end Store

end WorkQueue
