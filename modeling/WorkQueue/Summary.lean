import WorkQueue.State

/-!
# Counts

What finishing a transaction, counting a queue and sweeping the store report.
-/

namespace WorkQueue

/-- What a commit made final. -/
structure CommitSummary where
  /-- Added messages that became active. -/
  added : Nat
  /-- Taken messages that became processed. -/
  pulled : Nat
  deriving DecidableEq, Repr

/-- What giving back taken messages came to. -/
structure Returned where
  /-- Messages that are active again. -/
  requeued : Nat
  /-- Messages that were given back as often as they may be. -/
  exhausted : Nat
  deriving DecidableEq, Repr

/-- What a rollback, or the end of a transaction's lifetime, undid. -/
structure RollbackSummary where
  /-- Added messages that were deleted. -/
  discarded : Nat
  /-- Taken messages that are active again. -/
  requeued : Nat
  /-- Taken messages that were given back as often as they may be. -/
  exhausted : Nat
  deriving DecidableEq, Repr

/-- The messages of a queue, by state. -/
structure QueueStats where
  active : Nat := 0
  inTransaction : Nat := 0
  processed : Nat := 0
  expired : Nat := 0
  attemptsExceeded : Nat := 0
  deriving DecidableEq, Repr

namespace QueueStats

/-- Count further messages in a state. -/
def record (stats : QueueStats) (state : MessageState) (count : Nat) : QueueStats :=
  match state with
  | .active => { stats with active := stats.active + count }
  | .inTransaction => { stats with inTransaction := stats.inTransaction + count }
  | .processed => { stats with processed := stats.processed + count }
  | .expired => { stats with expired := stats.expired + count }
  | .attemptsExceeded => { stats with attemptsExceeded := stats.attemptsExceeded + count }

/-- The number of messages in a state. -/
def get (stats : QueueStats) : MessageState → Nat
  | .active => stats.active
  | .inTransaction => stats.inTransaction
  | .processed => stats.processed
  | .expired => stats.expired
  | .attemptsExceeded => stats.attemptsExceeded

/-- The number of messages in any state. -/
def total (stats : QueueStats) : Nat :=
  stats.active + stats.inTransaction + stats.processed + stats.expired + stats.attemptsExceeded

/-- Recording adds to the one state. -/
theorem get_record (stats : QueueStats) (state other : MessageState) (count : Nat) :
    (stats.record state count).get other =
      stats.get other + if other = state then count else 0 := by
  cases state <;> cases other <;> rfl

end QueueStats

/-- The six things that a sweep repairs, each with a count of its own. -/
inductive SweepStep where
  | expireTransactions
  | discardOrphanedAdds
  | requeueOrphanedPulls
  | exhaustOrphanedPulls
  | expireMessages
  | closeExhaustedMessages
  deriving DecidableEq, Repr

namespace SweepStep

/-- The label of a step in logs and counters. -/
def label : SweepStep → String
  | .expireTransactions => "expire_transactions"
  | .discardOrphanedAdds => "discard_orphaned_adds"
  | .requeueOrphanedPulls => "requeue_orphaned_pulls"
  | .exhaustOrphanedPulls => "exhaust_orphaned_pulls"
  | .expireMessages => "expire_messages"
  | .closeExhaustedMessages => "close_exhausted_messages"

/-- All steps, in the order in which a sweep makes them. -/
def all : List SweepStep :=
  [.expireTransactions, .discardOrphanedAdds, .requeueOrphanedPulls, .exhaustOrphanedPulls,
    .expireMessages, .closeExhaustedMessages]

end SweepStep

/-- The rows that one sweep repaired. -/
structure SweepReport where
  transactionsExpired : Nat
  addsDiscarded : Nat
  pullsRequeued : Nat
  pullsExhausted : Nat
  messagesExpired : Nat
  messagesExhausted : Nat
  deriving DecidableEq, Repr

namespace SweepReport

/-- The rows that one step repaired. -/
def get (report : SweepReport) : SweepStep → Nat
  | .expireTransactions => report.transactionsExpired
  | .discardOrphanedAdds => report.addsDiscarded
  | .requeueOrphanedPulls => report.pullsRequeued
  | .exhaustOrphanedPulls => report.pullsExhausted
  | .expireMessages => report.messagesExpired
  | .closeExhaustedMessages => report.messagesExhausted

/-- The rows that all steps repaired. -/
def total (report : SweepReport) : Nat :=
  report.transactionsExpired + report.addsDiscarded + report.pullsRequeued +
    report.pullsExhausted + report.messagesExpired + report.messagesExhausted

/-- Was there nothing to repair? -/
def isEmpty (report : SweepReport) : Bool :=
  report.total = 0

/-- The text of a report in logs. -/
def display (report : SweepReport) : String :=
  "SweepReport \x7b transactions_expired: " ++ toString report.transactionsExpired ++
    ", adds_discarded: " ++ toString report.addsDiscarded ++
    ", pulls_requeued: " ++ toString report.pullsRequeued ++
    ", pulls_exhausted: " ++ toString report.pullsExhausted ++
    ", messages_expired: " ++ toString report.messagesExpired ++
    ", messages_exhausted: " ++ toString report.messagesExhausted ++ " \x7d"

end SweepReport

end WorkQueue
