import WorkQueue.Store.Queues
import WorkQueue.Store.Orphans

/-!
# Storage statements

The operations that a storage transaction can be made of, as data, with what each answers. They
check nothing but the rules of the store itself. A statement that fails changes nothing, and the
transaction goes on without it.
-/

namespace WorkQueue

/-- One operation on the store. -/
inductive Statement where
  | insertQueue (name : QueueName)
  | findQueue (id : QueueId)
  | findQueueNamed (name : QueueName)
  | listQueues
  | deleteQueue (id : QueueId)
  | insertTransaction (startTime expiryTime : Instant)
  | findTransaction (id : TransactionId)
  | setTransactionExpiry (id : TransactionId) (expiryTime : Instant)
  | closeTransaction (id : TransactionId) (target : TransactionState) (instant : Instant)
      (reason : String)
  | expireTransactions (now : Instant)
  | insertMessage (draft : MessageDraft)
  | findMessage (id : MessageId)
  | peekMessage (queue : QueueId) (now : Instant)
  | claimMessage (queue : QueueId) (owner : TransactionId) (now : Instant)
  | transitionOwned (owner : TransactionId) (action : TransactionAction) (target : MessageState)
      (instant : Instant)
  | discardOwned (owner : TransactionId) (action : TransactionAction)
  | returnOwned (owner : TransactionId) (instant : Instant)
  | countMessages (queue : QueueId) (state : Option MessageState)
  | messageStats (queue : QueueId)
  | discardOrphanedAdds
  | returnOrphanedPulls (instant : Instant)
  | expireMessages (now : Instant)
  | closeExhaustedMessages (now : Instant)
  deriving DecidableEq, Repr

/-- What a statement answers. -/
inductive Answer where
  | queueId (id : QueueId)
  | transactionId (id : TransactionId)
  | messageId (id : MessageId)
  | queue (row : Option Queue)
  | queues (rows : List Queue)
  | transaction (row : Option Transaction)
  | message (row : Option Message)
  | removed (count : Option Nat)
  | flag (value : Bool)
  | count (rows : Nat)
  | returned (counts : Returned)
  | stats (counts : List (MessageState × Nat))
  deriving DecidableEq, Repr

/-- The work of a statement. -/
def Statement.work : Statement → Work Answer
  | .insertQueue name => .queueId <$> Store.insertQueue name
  | .findQueue id => do pure (.queue ((← get).queue? id))
  | .findQueueNamed name => do pure (.queue ((← get).queueNamed? name))
  | .listQueues => do pure (.queues (← get).queues)
  | .deleteQueue id => .removed <$> modifyGet (Store.deleteQueue id)
  | .insertTransaction startTime expiryTime =>
      .transactionId <$> Store.insertTransaction startTime expiryTime
  | .findTransaction id => do pure (.transaction ((← get).transaction? id))
  | .setTransactionExpiry id expiryTime =>
      .flag <$> modifyGet (Store.setTransactionExpiry id expiryTime)
  | .closeTransaction id target instant reason =>
      .flag <$> modifyGet (Store.closeTransaction id target instant reason)
  | .expireTransactions now => .count <$> modifyGet (Store.expireTransactions now)
  | .insertMessage draft => .messageId <$> Store.insertMessage draft
  | .findMessage id => do pure (.message ((← get).message? id))
  | .peekMessage queue now => do pure (.message ((← get).nextMessage? queue now))
  | .claimMessage queue owner now => .message <$> Store.claimMessage queue owner now
  | .transitionOwned owner action target instant =>
      .count <$> Store.transitionOwned owner action target instant
  | .discardOwned owner action => .count <$> modifyGet (Store.discardOwned owner action)
  | .returnOwned owner instant => .returned <$> modifyGet (Store.returnOwned owner instant)
  | .countMessages queue state => do pure (.count ((← get).countMessages queue state))
  | .messageStats queue => do pure (.stats ((← get).messageStats queue))
  | .discardOrphanedAdds => .count <$> modifyGet Store.discardOrphanedAdds
  | .returnOrphanedPulls instant => .returned <$> modifyGet (Store.returnOrphanedPulls instant)
  | .expireMessages now => .count <$> modifyGet (Store.expireMessages now)
  | .closeExhaustedMessages now => .count <$> modifyGet (Store.closeExhaustedMessages now)

/-- Run statements one after the other; the answers come in their order. -/
def runStatements : List Statement → Store → List (Except Error Answer) × Store
  | [], store => ([], store)
  | statement :: rest, store =>
      let (answer, store) := statement.work.finish store
      let (answers, store) := runStatements rest store
      (answer :: answers, store)

/-- The work of running statements in one storage transaction, which is kept or dropped at its
end. -/
def runTransaction (statements : List Statement) (keep : Bool) :
    Work (List (Except Error Answer)) :=
  fun store =>
    let (answers, changed) := runStatements statements store
    .ok (answers, if keep then changed else store)

end WorkQueue
