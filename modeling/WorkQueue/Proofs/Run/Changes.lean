import WorkQueue.Work.Sweep
import WorkQueue.Work.Finish
import WorkQueue.Work.Queues

/-!
# What a storage transaction does to the store

A storage transaction makes at most one change, and a change is told row by row: which queues stay,
what becomes of a transaction's row and of a message's row, and which rows are new. `Change.Allowed`
says when a change can be made, and `Change.apply` makes it. That the pieces of work on the store
make these changes and no others is shown beside the moves of a run.
-/

namespace WorkQueue

namespace Store

/-- Is the transaction there, active, and within its lifetime? -/
def IsOpen (store : Store) (id : TransactionId) (now : Instant) : Prop :=
  ∃ t, store.transaction? id = some t ∧ t.state = .active ∧ t.isExpiredAt now = false

/-- Whether a transaction is open is seen from its row. -/
instance (store : Store) (id : TransactionId) (now : Instant) : Decidable (store.IsOpen id now) :=
  match hfind : store.transaction? id with
  | none => isFalse fun ⟨_, hsome, _⟩ => nomatch hfind.symm.trans hsome
  | some t =>
      decidable_of_iff (t.state = .active ∧ t.isExpiredAt now = false)
        ⟨fun h => ⟨t, hfind, h⟩, fun ⟨_, hsome, h⟩ =>
          Option.some.inj (hfind.symm.trans hsome) ▸ h⟩

/-- Is the transaction there, still active, and past its lifetime? -/
def HasLapsed (store : Store) (id : TransactionId) (now : Instant) : Prop :=
  ∃ t, store.transaction? id = some t ∧ t.state = .active ∧ t.isExpiredAt now = true

end Store

namespace Message

/-- The message given back, for the last time or not. -/
def giveBack (message : Message) (now : Instant) : Message :=
  if message.isLastAttempt then message.exhaust now else message.requeue

/-- Is the message in the hands of a transaction that has taken it? -/
def isTaken (message : Message) : Bool :=
  message.state = .inTransaction && message.action = some .pull

end Message

/-- What it comes to when all messages that are held so are given up: those that were being added
are discarded, those that had been taken are given back. -/
def Store.unwound (store : Store) (holds : TransactionAction → Message → Bool) :
    RollbackSummary where
  discarded := store.messages.countP (holds .add)
  requeued := store.messages.countP fun m => holds .pull m && !m.isLastAttempt
  exhausted := store.messages.countP fun m => holds .pull m && m.isLastAttempt

/-- A change of the store. -/
inductive Change where
  | nothing
  | addQueue (name : QueueName)
  /-- The queue goes, and its messages go with it. -/
  | dropQueue (id : QueueId)
  | start (now expiry : Instant)
  | extend (id : TransactionId) (now expiry : Instant)
  | commit (id : TransactionId) (now : Instant)
  /-- A rollback, or the end of a transaction whose lifetime has passed. -/
  | undo (id : TransactionId) (target : TransactionState) (reason : String) (now : Instant)
  | add (draft : MessageDraft)
  | take (message : Message) (owner : TransactionId) (now : Instant)
  | repair (stage : SweepStage) (now : Instant)
  deriving DecidableEq, Repr

namespace Change

/-- When a change can be made. -/
def Allowed (store : Store) : Change → Prop
  | .nothing => True
  | .addQueue name => store.queueNamed? name = none ∧ store.lastQueue + 1 < half64
  | .dropQueue id => (store.queue? id).isSome
  | .start _ _ => store.lastTransaction + 1 < half64
  | .extend id now _ => store.IsOpen id now
  | .commit id now => store.IsOpen id now
  | .undo id target reason now =>
      target = .rolledBack ∧ store.IsOpen id now ∨
        target = .expired ∧ reason = expiredReason ∧ store.HasLapsed id now
  | .add draft =>
      (store.queue? draft.queue).isSome ∧ store.IsOpen draft.owner draft.addTime ∧
        0 < draft.maxAttempts ∧ store.lastMessage + 1 < half64
  | .take message owner now =>
      store.nextMessage? message.queue now = some message ∧ store.IsOpen owner now
  | .repair _ _ => True

/-- Does the queue outlast the change? -/
def keepsQueue : Change → Queue → Bool
  | .dropQueue id, queue => queue.id ≠ id
  | _, _ => true

/-- The row of a transaction after the change. -/
def transactionAfter (change : Change) (t : Transaction) : Transaction :=
  match change with
  | .extend id _ expiry => if t.id = id && t.isActive then { t with expiryTime := expiry } else t
  | .commit id now =>
      if t.id = id && t.isActive then t.close .committed now committedReason else t
  | .undo id target reason now =>
      if t.id = id && t.isActive then t.close target now reason else t
  | .repair .transactions now =>
      if t.isActive && t.expiryTime.storedLe now then t.close .expired now expiredReason else t
  | _ => t

/-- The row of a message after the change, unless it is deleted. Whom expired transactions hold is
seen from the store before the change. -/
def messageAfter (change : Change) (store : Store) (m : Message) : Option Message :=
  match change with
  | .dropQueue id => if m.queue = id then none else some m
  | .commit id now =>
      if m.isHeldBy id .add then some (m.moveTo .active now)
      else if m.isHeldBy id .pull then some (m.moveTo .processed now)
      else some m
  | .undo id _ _ now =>
      if m.isHeldBy id .add then none
      else if m.isHeldBy id .pull then some (m.giveBack now)
      else some m
  | .take message owner _ => if m.id = message.id then some (m.take owner) else some m
  | .repair .orphanedAdds _ => if store.isOrphan .add m then none else some m
  | .repair .orphanedPulls now => if store.isOrphan .pull m then some (m.giveBack now) else some m
  | .repair .lifetimes now =>
      if m.state = .active && m.lifetimePassed now then some (m.close .expired now) else some m
  | .repair .attempts now =>
      if m.state = .active && m.maxAttempts ≤ m.attempts then
        some (m.close .attemptsExceeded now)
      else some m
  | _ => some m

/-- The queues that the change adds. -/
def newQueues (store : Store) : Change → List Queue
  | .addQueue name => [⟨⟨store.lastQueue + 1⟩, name.display⟩]
  | _ => []

/-- The transactions that the change adds. -/
def newTransactions (store : Store) : Change → List Transaction
  | .start now expiry => [⟨⟨store.lastTransaction + 1⟩, .active, now, expiry, none, none⟩]
  | _ => []

/-- The messages that the change adds. -/
def newMessages (store : Store) : Change → List Message
  | .add draft => [draft.row ⟨store.lastMessage + 1⟩]
  | _ => []

/-- The transaction that the change ends by itself. -/
def ends? : Change → Option TransactionId
  | .commit id _ | .undo id _ _ _ => some id
  | _ => none

/-- The message that the change delivers, with the transaction that takes it. -/
def delivery? : Change → Option (MessageId × TransactionId)
  | .take message owner _ => some (message.id, owner)
  | _ => none

/-- Does the change deliver the message? -/
def delivers (change : Change) (id : MessageId) : Bool :=
  change.delivery?.any fun delivery => delivery.1 = id

/-- The message that the change adds, with the transaction that adds it. -/
def addition? (store : Store) : Change → Option (MessageId × TransactionId)
  | .add draft => some (⟨store.lastMessage + 1⟩, draft.owner)
  | _ => none

/-- The store after the change. -/
def apply (change : Change) (store : Store) : Store where
  queues := store.queues.filter change.keepsQueue ++ change.newQueues store
  transactions := store.transactions.map change.transactionAfter ++ change.newTransactions store
  messages := store.messages.filterMap (change.messageAfter store) ++ change.newMessages store
  lastQueue := store.lastQueue + (change.newQueues store).length
  lastTransaction := store.lastTransaction + (change.newTransactions store).length
  lastMessage := store.lastMessage + (change.newMessages store).length

end Change

end WorkQueue
