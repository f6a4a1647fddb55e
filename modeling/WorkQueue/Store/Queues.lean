import WorkQueue.Store.Basic

/-!
# Stored queues

Adding, deleting and counting out queues. No two queues have the same name, in any case of
letters; a queue takes its messages with it.
-/

namespace WorkQueue.Store

/-- Add a queue. -/
def insertQueue (name : QueueName) : Work QueueId := do
  let store ← get
  if (store.queueNamed? name).isSome then throw (.alreadyExists name.quoted)
  let number ← nextNumber store.lastQueue
  let queue : Queue := ⟨⟨number⟩, name.display⟩
  set { store with queues := store.queues ++ [queue], lastQueue := number }
  pure queue.id

/-- Delete a queue with its messages, and count these; without such a queue there is no count. -/
def deleteQueue (id : QueueId) (store : Store) : Option Nat × Store :=
  let (removed, rest) := store.removeMessages fun message => message.queue = id
  (if (store.queue? id).isSome then some removed else none,
    { rest with queues := rest.queues.filter fun queue => queue.id ≠ id })

/-- Count the messages of a queue, in one state or in any. -/
def countMessages (store : Store) (queue : QueueId) (state : Option MessageState) : Nat :=
  store.messages.countP fun message =>
    message.queue = queue && state.all fun state => message.state = state

/-- The states in the order of their words. -/
def statesByWord : List MessageState :=
  [.active, .attemptsExceeded, .expired, .inTransaction, .processed]

/-- Count the messages of a queue by state; states without messages are left out. -/
def messageStats (store : Store) (queue : QueueId) : List (MessageState × Nat) :=
  (statesByWord.map fun state => (state, store.countMessages queue (some state))).filter
    fun (_, count) => count ≠ 0

end WorkQueue.Store
