import WorkQueue.Message
import WorkQueue.Summary

/-!
# The journal

What the broker reports about its work: events for people, spans around sweeps, and amounts added
to counters. The entries are data; `Journal.Text` says how they read, and `Journal.total` adds up a
counter.
-/

namespace WorkQueue

/-- How urgent an event is. -/
inductive Level where
  | debug
  | info
  | warn
  | error
  deriving DecidableEq, Repr

/-- Something that happened. -/
inductive Event where
  | queueCreated (id : QueueId) (name : String)
  | queueDeleted (id : QueueId) (name : String) (removed : Nat)
  | transactionStarted (id : TransactionId) (expiry : Instant)
  | transactionExtended (id : TransactionId) (expiry : Instant)
  | transactionCommitted (id : TransactionId) (summary : CommitSummary)
  | transactionRolledBack (id : TransactionId) (reason : String) (summary : RollbackSummary)
  | transactionLapsed (id : TransactionId) (summary : RollbackSummary)
  | messageEnqueued (id : MessageId) (queue : QueueId) (owner : TransactionId) (priority : Int)
  | messageClaimed (id : MessageId) (queue : QueueId) (owner : TransactionId) (attempts : Nat)
  | sweepStep (step : SweepStep) (rows : Nat)
  | sweepRepaired (report : SweepReport)
  | sweepFailed (error : Error)
  | watchStarted (seconds : Nat)
  | watchStopping
  | internalFailure (error : Error)
  | undoFailed (transaction : TransactionId) (error : Error)
  deriving DecidableEq, Repr

/-- What was done to a queue. -/
inductive QueueOperation where
  | create
  | delete
  | enqueue
  | dequeue
  | dequeueEmpty
  deriving DecidableEq, Repr

/-- How a transaction began or ended. -/
inductive Outcome where
  | started
  | committed
  | rolledBack
  | expired
  deriving DecidableEq, Repr

/-- Something that is counted. Queues are told apart by their name where they are created or
deleted and by their number where messages come and go. -/
inductive Counter where
  | queueOperation (operation : QueueOperation) (queue : String)
  | transactionOutcome (outcome : Outcome)
  /-- Messages that left a transaction for a state. -/
  | messageTransition (target : MessageState)
  /-- Rows that a step of a sweep repaired. -/
  | sweepRows (step : SweepStep)
  /-- Sweeps whose duration was taken. -/
  | timedSweeps
  deriving DecidableEq, Repr

/-- An entry of the journal. -/
inductive Entry where
  | event (happened : Event)
  | sweepOpened (now : Instant)
  | sweepRecorded (rows : Nat)
  | counted (counter : Counter) (amount : Nat)
  deriving DecidableEq, Repr

/-- The entries in the order in which they were made. -/
abbrev Journal : Type :=
  List Entry

namespace Journal

/-- The amounts that were added to a counter. -/
def amounts (journal : Journal) (counter : Counter) : List Nat :=
  journal.filterMap fun
    | .counted c amount => if c = counter then some amount else none
    | _ => none

/-- The sum of what was added to a counter. -/
def total (journal : Journal) (counter : Counter) : Nat :=
  (journal.amounts counter).foldr (· + ·) 0

/-- The counters that something, if only nothing, was added to, each once. -/
def counters (journal : Journal) : List Counter :=
  (journal.filterMap fun
    | .counted c _ => some c
    | _ => none).eraseDups

/-- A sum that starts from a number is that number more than one that starts from zero. -/
theorem foldr_add_eq (amounts : List Nat) (start : Nat) :
    amounts.foldr (· + ·) start = amounts.foldr (· + ·) 0 + start := by
  induction amounts with
  | nil => exact (Nat.zero_add start).symm
  | cons amount rest ih => rw [List.foldr_cons, List.foldr_cons, ih, Nat.add_assoc]

/-- Totals add up over the parts of a journal. -/
@[simp]
theorem total_append (first second : Journal) (counter : Counter) :
    total (first ++ second) counter = first.total counter + second.total counter := by
  rw [total, amounts, List.filterMap_append, List.foldr_append]
  exact foldr_add_eq _ _

end Journal

end WorkQueue
