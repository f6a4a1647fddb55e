import WorkQueue.Broker.Lifetime
import WorkQueue.Work.Queues

/-!
# Queues and their messages

Administering queues, and moving messages through them under transactions. Where the store needs
it, a call that takes a message holds the claim lock of the queue while it does.
-/

namespace WorkQueue.Broker

/-- Create a queue. -/
def createQueue (text : String) : Call QueueId := do
  let name ← check (QueueName.ofText text)
  let id ← inStorage (Store.insertQueue name)
  note [.counted (.queueOperation .create name.display) 1, .event (.queueCreated id name.display)]
  pure id

/-- Delete a queue with its messages, and count these. Transactions that held some of them go on
with what they have left. -/
def deleteQueue (ref : QueueRef) : Call Nat := do
  let address ← check (QueueAddress.ofRef ref)
  let (queue, removed) ← inStorage (Work.deleteQueue address)
  modify fun broker => { broker with locks := broker.locks.evict queue.id }
  note [.counted (.queueOperation .delete queue.name) 1,
    .event (.queueDeleted queue.id queue.name removed)]
  pure removed

/-- Find a queue. -/
def findQueue (ref : QueueRef) : Call Queue := do
  let address ← check (QueueAddress.ofRef ref)
  inStorage (Work.findQueue address)

/-- All queues, in the order of their numbers. -/
def listQueues : Call (List Queue) :=
  inStorage do return (← get).queues

/-- When a new message expires. -/
def messageExpiry (new : NewMessage) (now : Instant) : Except Error (Option Instant) :=
  match new.lifetime with
  | none => .ok none
  | some lifetime =>
      match now.shift? lifetime with
      | some expiry => .ok (some expiry)
      | none => .error (.invalidArgument "message expiry is out of range")

/-- An operation on a queue's messages, for the counters. -/
def countOperation (operation : QueueOperation) (queue : QueueId) : Entry :=
  .counted (.queueOperation operation (toString queue.value)) 1

/-- Add a message under a transaction. Nobody sees it before the transaction is committed. -/
def enqueue (owner : TransactionId) (queue : QueueId) (new : NewMessage) : Call MessageId := do
  check new.check
  let now ← now
  let expiry ← check (messageExpiry new now)
  let id ← under owner now (Work.enqueue (new.draft queue owner now expiry))
  note [countOperation .enqueue queue, .event (.messageEnqueued id queue owner new.priority)]
  pure id

/-- Hold the claim lock of a queue during a call, where the store needs that. -/
def holdingClaim {α : Type} (queue : QueueId) (call : Call α) : Call α :=
  ExceptT.mk fun broker =>
    match broker.claims with
    | .skipLocked => call.run broker
    | .serialized =>
        let (answer, after) := call.run { broker with locks := broker.locks.acquire () queue }
        (answer, { after with locks := after.locks.release () })

/-- Take the next message of a queue under a transaction, if there is one. -/
def dequeue (owner : TransactionId) (queue : QueueId) : Call (Option Message) :=
  holdingClaim queue do
    let now ← now
    match ← under owner now (Work.dequeue owner queue now) with
    | none =>
        note [countOperation .dequeueEmpty queue]
        pure none
    | some message =>
        note [countOperation .dequeue queue,
          .event (.messageClaimed message.id queue owner message.attempts)]
        pure (some message)

/-- The message that would be taken next from a queue. -/
def peek (queue : QueueId) : Call (Option Message) := do
  let now ← now
  inStorage (Work.peek queue now)

/-- Find a message. -/
def findMessage (id : MessageId) : Call Message :=
  inStorage (Work.findMessage id)

/-- Count the messages of a queue, in one state or in any. -/
def count (queue : QueueId) (state : Option MessageState) : Call Nat :=
  inStorage (Work.count queue state)

/-- Count the messages of a queue by state. -/
def stats (ref : QueueRef) : Call QueueStats := do
  let address ← check (QueueAddress.ofRef ref)
  inStorage (Work.stats address)

/-- The number of claim locks that the broker knows. -/
def trackedLocks (broker : Broker) : Nat :=
  broker.locks.size

end WorkQueue.Broker
