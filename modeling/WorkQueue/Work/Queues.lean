import WorkQueue.Store.Queues
import WorkQueue.Store.Messages

/-!
# Work on queues and messages

Finding, deleting and counting queues; adding, taking and showing messages. A queue that is not
there is an error for all of them.
-/

namespace WorkQueue.Work

/-- Find the queue at an address. -/
def findQueue (address : QueueAddress) : Work Queue := do
  let store ← get
  let found := match address with
    | .number id => store.queue? id
    | .named name => store.queueNamed? name
  match found with
  | some queue => pure queue
  | none => throw (.notFound address.display)

/-- Make sure that a queue is there. -/
def requireQueue (id : QueueId) : Work Unit := do
  let _ ← findQueue (.number id)

/-- Delete the queue at an address with its messages, and count these. -/
def deleteQueue (address : QueueAddress) : Work (Queue × Nat) := do
  let queue ← findQueue address
  match ← modifyGet (Store.deleteQueue queue.id) with
  | some removed => pure (queue, removed)
  | none => throw (.notFound queue.id.display)

/-- Add a message. -/
def enqueue (draft : MessageDraft) : Work MessageId := do
  requireQueue draft.queue
  Store.insertMessage draft

/-- Take the next message of a queue, if there is one. -/
def dequeue (owner : TransactionId) (queue : QueueId) (now : Instant) : Work (Option Message) := do
  requireQueue queue
  Store.claimMessage queue owner now

/-- Show the next message of a queue, if there is one. -/
def peek (queue : QueueId) (now : Instant) : Work (Option Message) := do
  requireQueue queue
  return (← get).nextMessage? queue now

/-- Find a message. -/
def findMessage (id : MessageId) : Work Message := do
  match (← get).message? id with
  | some message => pure message
  | none => throw (.notFound id.display)

/-- Count the messages of a queue, in one state or in any. -/
def count (queue : QueueId) (state : Option MessageState) : Work Nat := do
  requireQueue queue
  return (← get).countMessages queue state

/-- Count the messages of the queue at an address, by state. -/
def stats (address : QueueAddress) : Work QueueStats := do
  let queue ← findQueue address
  return ((← get).messageStats queue.id).foldl (fun stats (state, n) => stats.record state n) {}

end WorkQueue.Work
