import WorkQueue.Proofs.Broker.Storage
import WorkQueue.Store.Statement

/-!
# Work as statements

What a piece of work asks of the store is a script: it ends with an answer or an error, or issues a
statement and goes on with what the statement replies. `Script.work` forgets the statements, and
each piece of work that the broker does in a storage transaction is the work of a script that issues
the statements in their order, with every check that is made between them.
-/

namespace WorkQueue

namespace Statement

/-- What a statement replies. -/
abbrev Reply : Statement → Type
  | .insertQueue _ => QueueId
  | .findQueue _ | .findQueueNamed _ => Option Queue
  | .listQueues => List Queue
  | .deleteQueue _ => Option Nat
  | .insertTransaction _ _ => TransactionId
  | .findTransaction _ => Option Transaction
  | .setTransactionExpiry _ _ | .closeTransaction _ _ _ _ => Bool
  | .insertMessage _ => MessageId
  | .findMessage _ | .peekMessage _ _ | .claimMessage _ _ _ => Option Message
  | .returnOwned _ _ | .returnOrphanedPulls _ => Returned
  | .messageStats _ => List (MessageState × Nat)
  | .expireTransactions _ | .transitionOwned _ _ _ _ | .discardOwned _ _ | .countMessages _ _
  | .discardOrphanedAdds | .expireMessages _ | .closeExhaustedMessages _ => Nat

/-- What a statement does, and replies. -/
def effect : (statement : Statement) → Work statement.Reply
  | .insertQueue name => Store.insertQueue name
  | .findQueue id => do pure ((← get).queue? id)
  | .findQueueNamed name => do pure ((← get).queueNamed? name)
  | .listQueues => do pure (← get).queues
  | .deleteQueue id => modifyGet (Store.deleteQueue id)
  | .insertTransaction startTime expiryTime => Store.insertTransaction startTime expiryTime
  | .findTransaction id => do pure ((← get).transaction? id)
  | .setTransactionExpiry id expiryTime => modifyGet (Store.setTransactionExpiry id expiryTime)
  | .closeTransaction id target instant reason =>
      modifyGet (Store.closeTransaction id target instant reason)
  | .expireTransactions now => modifyGet (Store.expireTransactions now)
  | .insertMessage draft => Store.insertMessage draft
  | .findMessage id => do pure ((← get).message? id)
  | .peekMessage queue now => do pure ((← get).nextMessage? queue now)
  | .claimMessage queue owner now => Store.claimMessage queue owner now
  | .transitionOwned owner action target instant =>
      Store.transitionOwned owner action target instant
  | .discardOwned owner action => modifyGet (Store.discardOwned owner action)
  | .returnOwned owner instant => modifyGet (Store.returnOwned owner instant)
  | .countMessages queue state => do pure ((← get).countMessages queue state)
  | .messageStats queue => do pure ((← get).messageStats queue)
  | .discardOrphanedAdds => modifyGet Store.discardOrphanedAdds
  | .returnOrphanedPulls instant => modifyGet (Store.returnOrphanedPulls instant)
  | .expireMessages now => modifyGet (Store.expireMessages now)
  | .closeExhaustedMessages now => modifyGet (Store.closeExhaustedMessages now)

/-- A reply as an answer. -/
def told : (statement : Statement) → statement.Reply → Answer
  | .insertQueue _ => .queueId
  | .findQueue _ | .findQueueNamed _ => .queue
  | .listQueues => .queues
  | .deleteQueue _ => .removed
  | .insertTransaction _ _ => .transactionId
  | .findTransaction _ => .transaction
  | .setTransactionExpiry _ _ | .closeTransaction _ _ _ _ => .flag
  | .insertMessage _ => .messageId
  | .findMessage _ | .peekMessage _ _ | .claimMessage _ _ _ => .message
  | .returnOwned _ _ | .returnOrphanedPulls _ => .returned
  | .messageStats _ => .stats
  | .expireTransactions _ | .transitionOwned _ _ _ _ | .discardOwned _ _ | .countMessages _ _
  | .discardOrphanedAdds | .expireMessages _ | .closeExhaustedMessages _ => .count

/-- The work of a statement is to answer what it replies. -/
theorem work_eq (statement : Statement) :
    statement.work = statement.told <$> statement.effect := by
  cases statement <;> rfl

end Statement

/-- What is asked of the store in one storage transaction. -/
inductive Script (α : Type) where
  | answer (value : α)
  | fail (error : Error)
  | issue (statement : Statement) (next : statement.Reply → Script α)

namespace Script

variable {α β : Type}

/-- Go on with what a script answers. -/
def andThen : Script α → (α → Script β) → Script β
  | .answer value, next => next value
  | .fail error, _ => .fail error
  | .issue statement rest, next => .issue statement fun reply => (rest reply).andThen next

/-- Scripts are written one after the other. -/
instance : Monad Script where
  pure := .answer
  bind := .andThen

/-- Issue one statement. -/
@[simp]
def ask (statement : Statement) : Script statement.Reply :=
  .issue statement .answer

/-- The answer of a check, as a script. -/
def check : Except Error α → Script α
  | .ok value => .answer value
  | .error error => .fail error

/-- What was found, or an error because nothing was. -/
def found (error : Error) : Option α → Script α
  | some value => .answer value
  | none => .fail error

/-- What comes of a script when its statements are made. -/
def work : Script α → Work α
  | .answer value => pure value
  | .fail error => throw error
  | .issue statement next => statement.effect >>= fun reply => (next reply).work

/-- Answering asks nothing of the store. -/
@[simp]
theorem work_answer (value : α) : (answer value).work = pure value :=
  rfl

/-- Failing asks nothing of the store. -/
@[simp]
theorem work_fail (error : Error) : (fail error : Script α).work = throw error :=
  rfl

/-- A statement is made before what comes after it. -/
@[simp]
theorem work_issue (statement : Statement) (next : statement.Reply → Script α) :
    (issue statement next).work = statement.effect >>= fun reply => (next reply).work :=
  rfl

/-- Answering asks nothing of the store. -/
@[simp]
theorem work_pure (value : α) : (pure value : Script α).work = pure value :=
  rfl

/-- The work of one statement is its effect. -/
theorem work_ask (statement : Statement) : (ask statement).work = statement.effect :=
  bind_pure _

/-- The work of a script and then another is that of the one and then the other. -/
@[simp]
theorem work_bind (script : Script α) (next : α → Script β) :
    (script >>= next).work = script.work >>= fun value => (next value).work := by
  induction script with
  | answer value => exact (pure_bind _ _).symm
  | fail error => rfl
  | issue statement rest ih =>
      have hrest : ∀ reply, ((rest reply).andThen next).work =
          (rest reply).work >>= fun value => (next value).work := ih
      show (statement.effect >>= fun reply => ((rest reply).andThen next).work) = _
      rw [funext hrest, work_issue, bind_assoc]

/-- The work of a script whose answer is put in other words is put in those words. -/
@[simp]
theorem work_map (script : Script α) (f : α → β) :
    (f <$> script).work = f <$> script.work := by
  rw [map_eq_pure_bind (m := StateT Store (Except Error))]
  exact work_bind script fun value => pure (f value)

/-- The work of one of two scripts is that of the one or of the other. -/
@[simp]
theorem work_ite {p : Prop} [Decidable p] (first second : Script α) :
    (if p then first else second).work = if p then first.work else second.work :=
  apply_ite work p first second

/-! ## The pieces of work as scripts -/

/-- Add a queue whose name no other has. -/
def addQueue (name : QueueName) : Script QueueId := do
  match ← ask (.findQueueNamed name) with
  | some _ => .fail (.alreadyExists name.quoted)
  | none => ask (.insertQueue name)

/-- Find the queue at an address. -/
def findQueue (address : QueueAddress) : Script Queue := do
  let queue ← match address with
    | .number id => ask (.findQueue id)
    | .named name => ask (.findQueueNamed name)
  found (.notFound address.display) queue

/-- Make sure that a queue is there. -/
def requireQueue (id : QueueId) : Script Unit := do
  let _ ← findQueue (.number id)

/-- Delete the queue at an address with its messages, and count these. -/
def deleteQueue (address : QueueAddress) : Script (Queue × Nat) := do
  let queue ← findQueue address
  let removed ← found (.notFound queue.id.display) (← ask (.deleteQueue queue.id))
  pure (queue, removed)

/-- Find a transaction. -/
def findTransaction (id : TransactionId) : Script Transaction := do
  found (.notFound id.display) (← ask (.findTransaction id))

/-- Close a transaction that is open. -/
def close (id : TransactionId) (target : TransactionState) (now : Instant) (reason : String) :
    Script Unit := do
  if ← ask (.closeTransaction id target now reason) then pure () else .fail (.closed id)

/-- Close a transaction and undo what it holds. -/
def unwind (id : TransactionId) (target : TransactionState) (reason : String) (now : Instant) :
    Script RollbackSummary := do
  close id target now reason
  let discarded ← ask (.discardOwned id .add)
  let returned ← ask (.returnOwned id now)
  pure ⟨discarded, returned.requeued, returned.exhausted⟩

/-- Do what a script says under a transaction, if the transaction is open. -/
def under (id : TransactionId) (now : Instant) (script : Script α) : Script (Admitted α) := do
  let transaction ← findTransaction id
  match transaction.state with
  | .expired => .fail (.expired id)
  | .committed | .rolledBack => .fail (.closed id)
  | .active =>
      if transaction.isExpiredAt now then .lapsed <$> unwind id .expired expiredReason now
      else .done <$> script

/-- Give an open transaction another end of its lifetime. -/
def extend (id : TransactionId) (expiry : Instant) : Script Unit := do
  if ← ask (.setTransactionExpiry id expiry) then pure () else .fail (.closed id)

/-- Make final what a transaction did. -/
def commit (id : TransactionId) (now : Instant) : Script CommitSummary := do
  let added ← ask (.transitionOwned id .add .active now)
  let pulled ← ask (.transitionOwned id .pull .processed now)
  close id .committed now committedReason
  pure ⟨added, pulled⟩

/-- Add a message. -/
def enqueue (draft : MessageDraft) : Script MessageId := do
  requireQueue draft.queue
  ask (.insertMessage draft)

/-- Take the next message of a queue, if there is one. -/
def dequeue (owner : TransactionId) (queue : QueueId) (now : Instant) :
    Script (Option Message) := do
  requireQueue queue
  ask (.claimMessage queue owner now)

/-- Show the next message of a queue, if there is one. -/
def peek (queue : QueueId) (now : Instant) : Script (Option Message) := do
  requireQueue queue
  ask (.peekMessage queue now)

/-- Find a message. -/
def findMessage (id : MessageId) : Script Message := do
  found (.notFound id.display) (← ask (.findMessage id))

/-- Count the messages of a queue, in one state or in any. -/
def count (queue : QueueId) (state : Option MessageState) : Script Nat := do
  requireQueue queue
  ask (.countMessages queue state)

/-- Count the messages of the queue at an address, by state. -/
def stats (address : QueueAddress) : Script QueueStats := do
  let queue ← findQueue address
  let rows ← ask (.messageStats queue.id)
  pure (rows.foldl (fun stats (state, n) => stats.record state n) {})

/-- Make a stage of a sweep. -/
def repair (now : Instant) : SweepStage → Script (List (SweepStep × Nat))
  | .transactions => do
      let rows ← ask (.expireTransactions now)
      pure [(.expireTransactions, rows)]
  | .orphanedAdds => do
      let rows ← ask .discardOrphanedAdds
      pure [(.discardOrphanedAdds, rows)]
  | .orphanedPulls => do
      let returned ← ask (.returnOrphanedPulls now)
      pure [(.requeueOrphanedPulls, returned.requeued),
        (.exhaustOrphanedPulls, returned.exhausted)]
  | .lifetimes => do
      let rows ← ask (.expireMessages now)
      pure [(.expireMessages, rows)]
  | .attempts => do
      let rows ← ask (.closeExhaustedMessages now)
      pure [(.closeExhaustedMessages, rows)]

/-! ## The work of these scripts -/

/-- Adding a queue looks for its name twice, in a statement of its own and when it is added. -/
theorem work_addQueue (name : QueueName) : (addQueue name).work = Store.insertQueue name := by
  funext store
  show (addQueue name).work.run store = (Store.insertQueue name).run store
  cases hnamed : store.queueNamed? name with
  | none => simp [addQueue, hnamed, Statement.effect]
  | some queue =>
      simp [addQueue, hnamed, Store.insertQueue, Statement.effect]
      rfl

/-- The work of finding a queue. -/
theorem work_findQueue (address : QueueAddress) :
    (findQueue address).work = Work.findQueue address := by
  funext store
  show (findQueue address).work.run store = (Work.findQueue address).run store
  cases address with
  | number id =>
      cases hfind : store.queue? id <;>
        simp [findQueue, Work.findQueue, Statement.effect, found, hfind]
  | named name =>
      cases hfind : store.queueNamed? name <;>
        simp [findQueue, Work.findQueue, Statement.effect, found, hfind]

/-- The work of making sure that a queue is there. -/
theorem work_requireQueue (queue : QueueId) :
    (requireQueue queue).work = Work.requireQueue queue := by
  simp [requireQueue, Work.requireQueue, work_findQueue]

/-- The work of deleting a queue. -/
theorem work_deleteQueue (address : QueueAddress) :
    (deleteQueue address).work = Work.deleteQueue address := by
  rw [deleteQueue, work_bind, work_findQueue]
  refine bind_congr fun queue => ?_
  rw [work_bind, work_ask]
  refine bind_congr fun removed => ?_
  cases removed <;> rfl

/-- The work of finding a transaction. -/
theorem work_findTransaction (id : TransactionId) :
    (findTransaction id).work = Work.findTransaction id := by
  funext store
  show (findTransaction id).work.run store = (Work.findTransaction id).run store
  cases hfind : store.transaction? id <;>
    simp [findTransaction, Work.findTransaction, Statement.effect, found, hfind]

/-- The work of closing a transaction. -/
theorem work_close (id : TransactionId) (target : TransactionState) (now : Instant)
    (reason : String) : (close id target now reason).work = Work.close id target now reason := by
  simp [close, Work.close, Statement.effect]

/-- The work of undoing a transaction. -/
theorem work_unwind (id : TransactionId) (target : TransactionState) (reason : String)
    (now : Instant) :
    (unwind id target reason now).work = Work.unwind id target reason now := by
  simp [unwind, Work.unwind, Statement.effect, work_close]

/-- The work of a script under a transaction is its work under the transaction. -/
theorem work_under (id : TransactionId) (now : Instant) (script : Script α) :
    (under id now script).work = Work.under id now script.work := by
  rw [under, work_bind, work_findTransaction, Work.findTransaction, bind_assoc]
  refine bind_congr fun store => ?_
  cases store.transaction? id with
  | none => rfl
  | some transaction =>
      cases hstate : transaction.state <;> simp [hstate, work_unwind]

/-- The work of extending a transaction. -/
theorem work_extend (id : TransactionId) (expiry : Instant) :
    (extend id expiry).work = Work.extend id expiry := by
  simp [extend, Work.extend, Statement.effect]

/-- The work of committing a transaction. -/
theorem work_commit (id : TransactionId) (now : Instant) :
    (commit id now).work = Work.commit id now := by
  simp [commit, Work.commit, Statement.effect, work_close]

/-- The work of adding a message. -/
theorem work_enqueue (draft : MessageDraft) : (enqueue draft).work = Work.enqueue draft := by
  simp [enqueue, Work.enqueue, Statement.effect, work_requireQueue]

/-- The work of taking a message. -/
theorem work_dequeue (owner : TransactionId) (queue : QueueId) (now : Instant) :
    (dequeue owner queue now).work = Work.dequeue owner queue now := by
  simp [dequeue, Work.dequeue, Statement.effect, work_requireQueue]

/-- The work of showing a message. -/
theorem work_peek (queue : QueueId) (now : Instant) :
    (peek queue now).work = Work.peek queue now := by
  simp [peek, Work.peek, Statement.effect, work_requireQueue]

/-- The work of finding a message. -/
theorem work_findMessage (id : MessageId) :
    (findMessage id).work = Work.findMessage id := by
  funext store
  show (findMessage id).work.run store = (Work.findMessage id).run store
  cases hfind : store.message? id <;>
    simp [findMessage, Work.findMessage, Statement.effect, found, hfind]

/-- The work of counting messages. -/
theorem work_count (queue : QueueId) (state : Option MessageState) :
    (count queue state).work = Work.count queue state := by
  simp [count, Work.count, Statement.effect, work_requireQueue]

/-- The work of counting messages by state. -/
theorem work_stats (address : QueueAddress) : (stats address).work = Work.stats address := by
  simp [stats, Work.stats, Statement.effect, work_findQueue]

/-- The work of a stage of a sweep. -/
theorem work_repair (now : Instant) (stage : SweepStage) :
    (repair now stage).work = modifyGet (stage.repair now) := by
  cases stage <;> rfl

end Script

end WorkQueue
