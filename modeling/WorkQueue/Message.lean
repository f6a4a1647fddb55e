import WorkQueue.Error
import WorkQueue.State
import WorkQueue.Time.Written

/-!
# Queues, transactions and messages

The three kinds of row that the store keeps, and what a message is made from. A transaction holds
messages while work is under way: a message names the transaction and what it does with the
message exactly while the message is in a transaction.
-/

namespace WorkQueue

/-- A queue. -/
structure Queue where
  id : QueueId
  name : String
  deriving DecidableEq, Repr

/-- What clients are told about a queue. -/
structure QueueInfo where
  id : QueueId
  name : String
  deriving DecidableEq, Repr

/-- What clients are told about the queue. -/
def Queue.info (queue : Queue) : QueueInfo where
  id := queue.id
  name := queue.name

/-- A unit of work with a limited lifetime, under which messages are added and taken. -/
structure Transaction where
  id : TransactionId
  state : TransactionState
  startTime : Instant
  expiryTime : Instant
  endTime : Option Instant
  endReason : Option String
  deriving DecidableEq, Repr

/-- Is the transaction's lifetime over at this instant? -/
def Transaction.isExpiredAt (transaction : Transaction) (now : Instant) : Bool :=
  decide (transaction.expiryTime ≤ now)

/-- A message. -/
structure Message where
  id : MessageId
  queue : QueueId
  /-- The transaction that holds the message. -/
  owner : Option TransactionId
  /-- What that transaction does with the message. -/
  action : Option TransactionAction
  state : MessageState
  addTime : Instant
  closeTime : Option Instant
  /-- Messages with higher numbers are taken first. -/
  priority : Int
  maxAttempts : Nat
  attempts : Nat
  expiryTime : Option Instant
  correlation : Int
  group : Option String
  metadata : String
  payload : List UInt8
  deriving DecidableEq, Repr

/-- What clients are shown of a message. -/
structure MessageView where
  id : MessageId
  queue : QueueId
  owner : Option TransactionId
  action : Option TransactionAction
  state : MessageState
  addTime : Instant
  closeTime : Option Instant
  priority : Int
  maxAttempts : Nat
  attempts : Nat
  expiryTime : Option Instant
  correlation : Int
  group : Option String
  metadata : String
  payload : List UInt8
  deriving DecidableEq, Repr

/-- What clients are shown of the message: all of it. -/
def Message.view (message : Message) : MessageView where
  id := message.id
  queue := message.queue
  owner := message.owner
  action := message.action
  state := message.state
  addTime := message.addTime
  closeTime := message.closeTime
  priority := message.priority
  maxAttempts := message.maxAttempts
  attempts := message.attempts
  expiryTime := message.expiryTime
  correlation := message.correlation
  group := message.group
  metadata := message.metadata
  payload := message.payload

/-- Messages that look the same to clients are the same. -/
theorem Message.view_injective {m n : Message} (h : m.view = n.view) : m = n := by
  cases m
  cases n
  simpa [Message.view] using h

/-- Whatever clients are shown is what they are shown of some message. -/
theorem Message.exists_view_eq (view : MessageView) : ∃ m : Message, m.view = view :=
  ⟨{ view with }, rfl⟩

/-- What a message is made from by whoever adds it. -/
structure NewMessage where
  payload : List UInt8
  metadata : String := ""
  priority : Int := 0
  maxAttempts : Nat := 3
  /-- How long the message lives; without a lifetime it does not expire. -/
  lifetime : Option Duration := none
  correlation : Int := 0
  group : Option String := none
  deriving DecidableEq, Repr

/-- The faults of a new message that need no look into the store. -/
def NewMessage.check (new : NewMessage) : Except Error Unit :=
  if new.maxAttempts = 0 then .error (.invalidArgument "max_attempts must be at least 1")
  else if new.lifetime.any Duration.isNegative then
    .error (.invalidArgument "message expiry must not be negative")
  else .ok ()

/-- A message ready to be stored: its queue, the transaction that adds it, and its times. -/
structure MessageDraft where
  queue : QueueId
  owner : TransactionId
  addTime : Instant
  priority : Int
  maxAttempts : Nat
  expiryTime : Option Instant
  correlation : Int
  group : Option String
  metadata : String
  payload : List UInt8
  deriving DecidableEq, Repr

/-- The draft of a new message. -/
def NewMessage.draft (new : NewMessage) (queue : QueueId) (owner : TransactionId)
    (addTime : Instant) (expiryTime : Option Instant) : MessageDraft where
  queue
  owner
  addTime
  priority := new.priority
  maxAttempts := new.maxAttempts
  expiryTime
  correlation := new.correlation
  group := new.group
  metadata := new.metadata
  payload := new.payload

end WorkQueue
