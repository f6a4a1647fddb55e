import WorkQueue.Journal
import WorkQueue.Wire.Basic

/-!
# The text of the journal

How events, spans and counters read: the wording and level of each event, the names and forms of
its fields, and the name of each counter with its labels in alphabetical order.
-/

namespace WorkQueue

/-- The word for a level. -/
def Level.word : Level → String
  | .debug => "debug"
  | .info => "info"
  | .warn => "warn"
  | .error => "error"

namespace Event

/-- The level of an event. -/
def level : Event → Level
  | .messageEnqueued .. | .messageClaimed .. | .sweepStep .. => .debug
  | .transactionLapsed .. | .undoFailed .. => .warn
  | .sweepFailed .. | .internalFailure .. => .error
  | _ => .info

/-- The wording of an event. -/
def message : Event → String
  | .queueCreated .. => "queue created"
  | .queueDeleted .. => "queue deleted"
  | .transactionStarted .. => "transaction started"
  | .transactionExtended .. => "transaction extended"
  | .transactionCommitted .. => "transaction committed"
  | .transactionRolledBack .. => "transaction rolled back"
  | .transactionLapsed .. => "transaction expired before use; unwound"
  | .messageEnqueued .. => "message enqueued"
  | .messageClaimed .. => "message claimed"
  | .sweepStep .. => "sweep_step"
  | .sweepRepaired .. => "sweep repaired state"
  | .sweepFailed error => "sweep failed: " ++ error.message
  | .watchStarted .. => "sweep loop started"
  | .watchStopping => "sweep loop shutting down"
  | .internalFailure .. => "internal failure"
  | .undoFailed .. => "rollback after failed enqueue failed"

/-- The fields of what was undone. -/
def undone (summary : RollbackSummary) : List (String × Json) :=
  [("discarded", .nat summary.discarded), ("requeued", .nat summary.requeued),
    ("exhausted", .nat summary.exhausted)]

/-- The fields of an event. -/
def fields : Event → List (String × Json)
  | .queueCreated id name => [("id", .text id.display), ("name", .text name)]
  | .queueDeleted id name removed =>
      [("id", .text id.display), ("name", .text name), ("removed", .nat removed)]
  | .transactionStarted id expiry | .transactionExtended id expiry =>
      [("id", .text id.display), ("expiry", .text expiry.logged)]
  | .transactionCommitted id summary =>
      [("id", .text id.display), ("added", .nat summary.added), ("pulled", .nat summary.pulled)]
  | .transactionRolledBack id reason summary =>
      [("id", .text id.display), ("reason", .text reason)] ++ undone summary
  | .transactionLapsed id summary => [("id", .text id.display)] ++ undone summary
  | .messageEnqueued id queue owner priority =>
      [("id", .text id.display), ("queue", .text queue.display), ("owner", .text owner.display),
        ("priority", .int priority)]
  | .messageClaimed id queue owner attempts =>
      [("id", .text id.display), ("queue", .text queue.display), ("owner", .text owner.display),
        ("attempts", .nat attempts)]
  | .sweepStep step rows => [("step", .text step.label), ("rows", .nat rows)]
  | .sweepRepaired report => [("report", .text report.display)]
  | .watchStarted seconds => [("interval_secs", .nat seconds)]
  | .internalFailure error => [("error", .text error.message)]
  | .undoFailed transaction error =>
      [("transaction", .text transaction.display), ("error", .text error.message)]
  | .sweepFailed _ | .watchStopping => []

end Event

/-- An entry as a record of what was reported; amounts added to counters are not reported one by
one. -/
def Entry.toJson? : Entry → Option Json
  | .event happened =>
      some (.record [("event", .text happened.message), ("level", .text happened.level.word),
        ("fields", .record happened.fields)])
  | .sweepOpened now =>
      some (.record [("span", .text "txq.sweep"),
        ("fields", .record [("sweep.now", .text now.logged)])])
  | .sweepRecorded rows => some (.record [("record", .record [("sweep.rows", .nat rows)])])
  | .counted .. => none

/-- The word for what was done to a queue. -/
def QueueOperation.word : QueueOperation → String
  | .create => "create"
  | .delete => "delete"
  | .enqueue => "enqueue"
  | .dequeue => "dequeue"
  | .dequeueEmpty => "dequeue_empty"

/-- The word for a transaction's outcome. -/
def Outcome.word : Outcome → String
  | .started => "started"
  | .committed => "committed"
  | .rolledBack => "rolled_back"
  | .expired => "expired"

/-- The name of a counter, with its labels. -/
def Counter.label : Counter → String
  | .queueOperation operation queue =>
      "txq.queue.operations\x7boperation=" ++ operation.word ++ ",queue=" ++ queue ++ "\x7d"
  | .transactionOutcome outcome =>
      "txq.transaction.outcomes\x7boutcome=" ++ outcome.word ++ "\x7d"
  | .messageTransition target =>
      "txq.message.transitions\x7bfrom=in_transaction,to=" ++ target.word ++ "\x7d"
  | .sweepRows step => "txq.sweep.rows\x7bstep=" ++ step.label ++ "\x7d"
  | .timedSweeps => "txq.operation.duration_ms\x7boperation=sweep\x7d"

namespace Journal

/-- Everything that was reported, in order. -/
def reported (journal : Journal) : Json :=
  .array (journal.filterMap Entry.toJson?)

/-- The totals of all counters. -/
def totals (journal : Journal) : Json :=
  .record (journal.counters.map fun counter => (counter.label, .nat (journal.total counter)))

end Journal

end WorkQueue
