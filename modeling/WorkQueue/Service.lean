import WorkQueue.Broker.Queues
import WorkQueue.Broker.Sweep
import WorkQueue.Wire.Request

/-!
# The service

The broker as its clients see it. A call that fails answers a fault, lifetimes are given in
minutes, and messages can be sent without a transaction of one's own. Errors that clients are not
told about go into the journal.
-/

namespace WorkQueue

/-- A call of the service. -/
abbrev Reply (α : Type) : Type :=
  ExceptT Fault (StateM Broker) α

namespace Service

/-- Fail with the fault for an error. -/
def fail {α : Type} (error : Error) : Reply α := do
  if error.code = .unknown then Broker.note [.event (.internalFailure error)]
  throw (Fault.ofError error)

/-- Answer a call of the broker. -/
def reply {α : Type} (call : Call α) : Reply α := do
  match ← call.run with
  | .ok answer => pure answer
  | .error error => fail error

/-- A lifetime of so many minutes. -/
def minutes (count : Int) : Except Error Duration :=
  if count < 0 then
    .error (.invalidArgument ("minutes must not be negative, got " ++ toString count))
  else match Duration.ofMinutes? count with
    | some lifetime => .ok lifetime
    | none => .error (.invalidArgument (toString count ++ " minutes is out of range"))

/-- Create a queue. -/
def createQueue (text : String) : Reply QueueId :=
  reply (Broker.createQueue text)

/-- Delete a queue, and count the messages that went with it. -/
def deleteQueue (ref : QueueRef) : Reply Nat :=
  reply (Broker.deleteQueue ref)

/-- What there is to know about a queue. -/
def queueInfo (ref : QueueRef) : Reply QueueInfo :=
  reply (Queue.info <$> Broker.findQueue ref)

/-- What there is to know about all queues. -/
def listQueues : Reply (List QueueInfo) :=
  reply (List.map Queue.info <$> Broker.listQueues)

/-- Start a transaction that lives so many minutes. -/
def start (lifetime : Int) : Reply TransactionId :=
  reply do
    let lifetime ← Broker.check (minutes lifetime)
    Broker.start lifetime

/-- Let a transaction live so many minutes from now, and answer when it ends. -/
def extend (id : TransactionId) (lifetime : Int) : Reply Instant :=
  reply do
    let lifetime ← Broker.check (minutes lifetime)
    Broker.extend id lifetime

/-- Find a transaction. -/
def findTransaction (id : TransactionId) : Reply Transaction :=
  reply (Broker.findTransaction id)

/-- Commit a transaction. -/
def commit (id : TransactionId) : Reply CommitSummary :=
  reply (Broker.commit id)

/-- Roll a transaction back. -/
def rollback (id : TransactionId) (reason : String) : Reply RollbackSummary :=
  reply (Broker.rollback id reason)

/-- The message that a request is for. -/
def newMessage (request : MessageRequest) : Except Error NewMessage := do
  let lifetime ← request.expiryMinutes.mapM minutes
  pure {
    payload := request.payload
    metadata := request.metadata
    priority := request.priority
    maxAttempts := request.maxAttempts
    lifetime
    correlation := request.correlation
    group := request.group }

/-- Add a message under a transaction. -/
def queueMessage (request : MessageRequest) : Reply MessageId :=
  reply do
    let new ← Broker.check (newMessage request)
    Broker.enqueue request.transaction request.queue new

/-- Add a message under a transaction of its own, which is committed at once. If the message cannot
be added the transaction is rolled back, and the answer is why the message was not added. -/
def send (queue : QueueId) (new : NewMessage) : Reply MessageId := do
  let owner ← reply (Broker.start (Duration.ofSeconds 60))
  match ← (Broker.enqueue owner queue new).run with
  | .ok id =>
      let _ ← reply (Broker.commit owner)
      pure id
  | .error error =>
      match ← (Broker.rollback owner "enqueue failed").run with
      | .ok _ => pure ()
      | .error undo => Broker.note [.event (.undoFailed owner undo)]
      fail error

/-- Take the next message of a queue under a transaction, if there is one. -/
def dequeue (owner : TransactionId) (queue : QueueId) : Reply (Option MessageView) :=
  reply (Option.map Message.view <$> Broker.dequeue owner queue)

/-- The message that would be taken next from a queue. -/
def peek (queue : QueueId) : Reply (Option MessageView) :=
  reply (Option.map Message.view <$> Broker.peek queue)

/-- Find a message. -/
def findMessage (id : MessageId) : Reply MessageView :=
  reply (Message.view <$> Broker.findMessage id)

/-- Count the messages of a queue, in one state or in any. -/
def count (queue : QueueId) (state : Option MessageState) : Reply Nat :=
  reply (Broker.count queue state)

/-- Sweep at the current instant. -/
def sweep : Reply SweepReport :=
  reply Broker.sweep

/-- Take a message of a queue under each of several transactions, one after the other. -/
def dequeueAll (queue : QueueId) :
    List TransactionId → StateM Broker (List (Except Fault (Option MessageView)))
  | [] => pure []
  | owner :: rest => do
      let answer ← (dequeue owner queue).run
      let answers ← dequeueAll queue rest
      pure (answer :: answers)

end Service

end WorkQueue
