import WorkQueue.Store.Basic

/-!
# Stored messages

The life of a message: stored under the transaction that adds it, made active, taken by a
transaction, and then used up or given back. A message is there to be taken when it is active, has
attempts left and its stored lifetime has not passed. Of these the first is the one with the
highest priority, then the earliest, then the one with the lowest number; `Message.precedes` is
that order.
-/

namespace WorkQueue

namespace Message

/-- Does the transaction hold the message for this action? -/
def isHeldBy (message : Message) (owner : TransactionId) (action : TransactionAction) : Bool :=
  message.owner = some owner && message.action = some action && message.state = .inTransaction

/-- Has the message's stored lifetime passed? -/
def lifetimePassed (message : Message) (now : Instant) : Bool :=
  message.expiryTime.any fun expiry => expiry.storedLe now

/-- Is the message there to be taken from the queue? -/
def isEligible (message : Message) (queue : QueueId) (now : Instant) : Bool :=
  message.queue = queue && message.state = .active && message.attempts < message.maxAttempts &&
    !message.lifetimePassed now

/-- Is the first message taken before the second? -/
def precedes (a b : Message) : Bool :=
  b.priority < a.priority ||
    (a.priority = b.priority &&
      (a.addTime.storedLt b.addTime ||
        (a.addTime.stored = b.addTime.stored && a.id.value < b.id.value)))

/-- The message in the hands of a transaction that takes it. -/
def take (message : Message) (owner : TransactionId) : Message :=
  { message with state := .inTransaction, action := some .pull, owner := some owner }

/-- The message out of its transaction's hands, in another state. It is closed at an instant if
that state is terminal. -/
def moveTo (message : Message) (target : MessageState) (instant : Instant) : Message :=
  { message with
    state := target
    closeTime := if target.isTerminal then some instant else none
    owner := none
    action := none }

/-- The message given back for the last time. -/
def exhaust (message : Message) (instant : Instant) : Message :=
  { message with
    attempts := message.attempts + 1
    state := .attemptsExceeded
    closeTime := some instant
    owner := none
    action := none }

/-- The message given back. -/
def requeue (message : Message) : Message :=
  { message with
    attempts := message.attempts + 1
    state := .active
    owner := none
    action := none }

/-- Is the next attempt the last? -/
def isLastAttempt (message : Message) : Bool :=
  message.maxAttempts ≤ message.attempts + 1

/-- The message at the end of its life. -/
def close (message : Message) (target : MessageState) (instant : Instant) : Message :=
  { message with state := target, closeTime := some instant }

end Message

/-- The first of some messages in the order in which they are taken. -/
def firstMessage : List Message → Option Message
  | [] => none
  | message :: rest =>
      match firstMessage rest with
      | none => some message
      | some other => if other.precedes message then some other else some message

/-- The largest number of attempts that the store keeps. -/
def maxAttemptsLimit : Nat :=
  half32 - 1

/-- The row of a draft: held by the transaction that adds it. -/
def MessageDraft.row (draft : MessageDraft) (id : MessageId) : Message where
  id
  queue := draft.queue
  owner := some draft.owner
  action := some .add
  state := .inTransaction
  addTime := draft.addTime
  closeTime := none
  priority := draft.priority
  maxAttempts := min draft.maxAttempts maxAttemptsLimit
  attempts := 0
  expiryTime := draft.expiryTime
  correlation := draft.correlation
  group := draft.group
  metadata := draft.metadata
  payload := draft.payload

namespace Store

/-- Store a draft. Its queue and its transaction have to be there. -/
def insertMessage (draft : MessageDraft) : Work MessageId := do
  let store ← get
  if (store.queue? draft.queue).isNone || (store.transaction? draft.owner).isNone then
    throw (.storage .missingReference)
  let number ← nextNumber store.lastMessage
  set { store with messages := store.messages ++ [draft.row ⟨number⟩], lastMessage := number }
  pure ⟨number⟩

/-- The message that would be taken next from a queue. -/
def nextMessage? (store : Store) (queue : QueueId) (now : Instant) : Option Message :=
  firstMessage (store.messages.filter fun message => message.isEligible queue now)

/-- Take the next message from a queue. The transaction that takes it has to be there. -/
def claimMessage (queue : QueueId) (owner : TransactionId) (now : Instant) :
    Work (Option Message) := do
  let store ← get
  match store.nextMessage? queue now with
  | none => pure none
  | some next =>
      if (store.transaction? owner).isNone then throw (.storage .missingReference)
      set (store.updateMessages (fun m => m.id = next.id) fun m => m.take owner).2
      pure (some (next.take owner))

/-- Move the messages that a transaction holds for an action to a state, out of its hands, and
count them. No message can be in a transaction and out of all hands. -/
def transitionOwned (owner : TransactionId) (action : TransactionAction) (target : MessageState)
    (instant : Instant) : Work Nat := do
  let store ← get
  let (rows, changed) := store.updateMessages (fun m => m.isHeldBy owner action)
    fun m => m.moveTo target instant
  if target = .inTransaction && rows ≠ 0 then throw (.storage .brokenRow)
  set changed
  pure rows

/-- Delete the messages that a transaction holds for an action, and count them. -/
def discardOwned (owner : TransactionId) (action : TransactionAction) : Store → Nat × Store :=
  removeMessages fun m => m.isHeldBy owner action

/-- Give back the messages that satisfy a condition, each with one more attempt: those whose last
attempt this is are closed, the rest are active again. -/
def giveBack (selected : Message → Bool) (instant : Instant) (store : Store) : Returned × Store :=
  let (exhausted, store) := store.updateMessages (fun m => selected m && m.isLastAttempt)
    fun m => m.exhaust instant
  let (requeued, store) := store.updateMessages selected Message.requeue
  (⟨requeued, exhausted⟩, store)

/-- Give back the messages that a transaction has taken. -/
def returnOwned (owner : TransactionId) (instant : Instant) : Store → Returned × Store :=
  giveBack (fun m => m.isHeldBy owner .pull) instant

end Store

end WorkQueue
