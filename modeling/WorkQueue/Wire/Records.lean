import WorkQueue.Message
import WorkQueue.Summary
import WorkQueue.Wire.Basic

/-!
# The wire form of records

Queues, transactions, messages, faults and reports as JSON: objects whose members are named after
the fields. Every reader accepts what its writer writes; `Json.Record` says what else it accepts.
-/

namespace WorkQueue

/-- A queue on the wire. -/
def Queue.toJson (queue : Queue) : Json :=
  .record [("id", queue.id.toJson), ("name", .text queue.name)]

/-- Read a queue. -/
def Queue.ofJson? (json : Json) : Option Queue := do
  let record ← json.record? ["id", "name"]
  let id ← record.required "id" QueueId.ofJson?
  let name ← record.required "name" Json.string?
  some { id, name }

/-- What clients are told about a queue, on the wire. -/
def QueueInfo.toJson (info : QueueInfo) : Json :=
  .record [("id", info.id.toJson), ("name", .text info.name)]

/-- Read what clients are told about a queue. -/
def QueueInfo.ofJson? (json : Json) : Option QueueInfo := do
  let record ← json.record? ["id", "name"]
  let id ← record.required "id" QueueId.ofJson?
  let name ← record.required "name" Json.string?
  some { id, name }

/-- A transaction on the wire. -/
def Transaction.toJson (transaction : Transaction) : Json :=
  .record [
    ("id", transaction.id.toJson),
    ("state", transaction.state.toJson),
    ("start_time", transaction.startTime.toJson),
    ("expiry_time", transaction.expiryTime.toJson),
    ("end_time", .optional Instant.toJson transaction.endTime),
    ("end_reason", .optional Json.text transaction.endReason)]

/-- Read a transaction. -/
def Transaction.ofJson? (json : Json) : Option Transaction := do
  let record ← json.record? ["id", "state", "start_time", "expiry_time", "end_time", "end_reason"]
  let id ← record.required "id" TransactionId.ofJson?
  let state ← record.required "state" TransactionState.ofJson?
  let startTime ← record.required "start_time" Instant.ofJson?
  let expiryTime ← record.required "expiry_time" Instant.ofJson?
  let endTime ← record.optional "end_time" Instant.ofJson?
  let endReason ← record.optional "end_reason" Json.string?
  some { id, state, startTime, expiryTime, endTime, endReason }

/-- A message on the wire. -/
def Message.toJson (message : Message) : Json :=
  .record [
    ("id", message.id.toJson),
    ("queue_id", message.queue.toJson),
    ("transaction_id", .optional TransactionId.toJson message.owner),
    ("transaction_action", .optional TransactionAction.toJson message.action),
    ("state", message.state.toJson),
    ("add_time", message.addTime.toJson),
    ("close_time", .optional Instant.toJson message.closeTime),
    ("priority", .int message.priority),
    ("max_attempts", .nat message.maxAttempts),
    ("attempts", .nat message.attempts),
    ("expiry_time", .optional Instant.toJson message.expiryTime),
    ("correlation_id", .int message.correlation),
    ("group_name", .optional Json.text message.group),
    ("metadata", .text message.metadata),
    ("payload", .bytes message.payload)]

/-- The fields of a message, in their order. -/
def Message.fieldNames : List String :=
  ["id", "queue_id", "transaction_id", "transaction_action", "state", "add_time", "close_time",
    "priority", "max_attempts", "attempts", "expiry_time", "correlation_id", "group_name",
    "metadata", "payload"]

/-- Read a message. -/
def Message.ofJson? (json : Json) : Option Message := do
  let record ← json.record? fieldNames
  let id ← record.required "id" MessageId.ofJson?
  let queue ← record.required "queue_id" QueueId.ofJson?
  let owner ← record.optional "transaction_id" TransactionId.ofJson?
  let action ← record.optional "transaction_action" TransactionAction.ofJson?
  let state ← record.required "state" MessageState.ofJson?
  let addTime ← record.required "add_time" Instant.ofJson?
  let closeTime ← record.optional "close_time" Instant.ofJson?
  let priority ← record.required "priority" Json.smallInt?
  let maxAttempts ← record.required "max_attempts" Json.smallCount?
  let attempts ← record.required "attempts" Json.smallCount?
  let expiryTime ← record.optional "expiry_time" Instant.ofJson?
  let correlation ← record.required "correlation_id" Json.wideInt?
  let group ← record.optional "group_name" Json.string?
  let metadata ← record.required "metadata" Json.string?
  let payload ← record.required "payload" Json.bytes?
  some
    { id, queue, owner, action, state, addTime, closeTime, priority, maxAttempts, attempts,
      expiryTime, correlation, group, metadata, payload }

/-- What clients are shown of a message, on the wire. -/
def MessageView.toJson (view : MessageView) : Json :=
  .record [
    ("id", view.id.toJson),
    ("queue_id", view.queue.toJson),
    ("transaction_id", .optional TransactionId.toJson view.owner),
    ("transaction_action", .optional TransactionAction.toJson view.action),
    ("state", view.state.toJson),
    ("add_time", view.addTime.toJson),
    ("close_time", .optional Instant.toJson view.closeTime),
    ("priority", .int view.priority),
    ("max_attempts", .nat view.maxAttempts),
    ("attempts", .nat view.attempts),
    ("expiry_time", .optional Instant.toJson view.expiryTime),
    ("correlation_id", .int view.correlation),
    ("group_name", .optional Json.text view.group),
    ("metadata", .text view.metadata),
    ("payload", .bytes view.payload)]

/-- The fields of what clients are shown of a message, in their order. -/
def MessageView.fieldNames : List String :=
  ["id", "queue_id", "transaction_id", "transaction_action", "state", "add_time", "close_time",
    "priority", "max_attempts", "attempts", "expiry_time", "correlation_id", "group_name",
    "metadata", "payload"]

/-- Read what clients are shown of a message. -/
def MessageView.ofJson? (json : Json) : Option MessageView := do
  let record ← json.record? fieldNames
  let id ← record.required "id" MessageId.ofJson?
  let queue ← record.required "queue_id" QueueId.ofJson?
  let owner ← record.optional "transaction_id" TransactionId.ofJson?
  let action ← record.optional "transaction_action" TransactionAction.ofJson?
  let state ← record.required "state" MessageState.ofJson?
  let addTime ← record.required "add_time" Instant.ofJson?
  let closeTime ← record.optional "close_time" Instant.ofJson?
  let priority ← record.required "priority" Json.smallInt?
  let maxAttempts ← record.required "max_attempts" Json.smallCount?
  let attempts ← record.required "attempts" Json.smallCount?
  let expiryTime ← record.optional "expiry_time" Instant.ofJson?
  let correlation ← record.required "correlation_id" Json.wideInt?
  let group ← record.optional "group_name" Json.string?
  let metadata ← record.required "metadata" Json.string?
  let payload ← record.required "payload" Json.bytes?
  some
    { id, queue, owner, action, state, addTime, closeTime, priority, maxAttempts, attempts,
      expiryTime, correlation, group, metadata, payload }

/-- A fault on the wire. -/
def Fault.toJson (fault : Fault) : Json :=
  .record [("code", fault.code.toJson), ("message", .text fault.message)]

/-- Read a fault. -/
def Fault.ofJson? (json : Json) : Option Fault := do
  let record ← json.record? ["code", "message"]
  let code ← record.required "code" ResultCode.ofJson?
  let message ← record.required "message" Json.string?
  some { code, message }

/-- What a commit made final, on the wire. -/
def CommitSummary.toJson (summary : CommitSummary) : Json :=
  .record [("added", .nat summary.added), ("pulled", .nat summary.pulled)]

/-- Read what a commit made final. -/
def CommitSummary.ofJson? (json : Json) : Option CommitSummary := do
  let record ← json.record? ["added", "pulled"]
  let added ← record.required "added" Json.count?
  let pulled ← record.required "pulled" Json.count?
  some { added, pulled }

/-- What a rollback undid, on the wire. -/
def RollbackSummary.toJson (summary : RollbackSummary) : Json :=
  .record [("discarded", .nat summary.discarded), ("requeued", .nat summary.requeued),
    ("exhausted", .nat summary.exhausted)]

/-- Read what a rollback undid. -/
def RollbackSummary.ofJson? (json : Json) : Option RollbackSummary := do
  let record ← json.record? ["discarded", "requeued", "exhausted"]
  let discarded ← record.required "discarded" Json.count?
  let requeued ← record.required "requeued" Json.count?
  let exhausted ← record.required "exhausted" Json.count?
  some { discarded, requeued, exhausted }

/-- The messages of a queue by state, on the wire. -/
def QueueStats.toJson (stats : QueueStats) : Json :=
  .record [("active", .nat stats.active), ("in_transaction", .nat stats.inTransaction),
    ("processed", .nat stats.processed), ("expired", .nat stats.expired),
    ("attempts_exceeded", .nat stats.attemptsExceeded)]

/-- Read the messages of a queue by state. -/
def QueueStats.ofJson? (json : Json) : Option QueueStats := do
  let record ← json.record?
    ["active", "in_transaction", "processed", "expired", "attempts_exceeded"]
  let active ← record.required "active" Json.count?
  let inTransaction ← record.required "in_transaction" Json.count?
  let processed ← record.required "processed" Json.count?
  let expired ← record.required "expired" Json.count?
  let attemptsExceeded ← record.required "attempts_exceeded" Json.count?
  some { active, inTransaction, processed, expired, attemptsExceeded }

/-- A sweep's report on the wire. -/
def SweepReport.toJson (report : SweepReport) : Json :=
  .record [
    ("transactions_expired", .nat report.transactionsExpired),
    ("adds_discarded", .nat report.addsDiscarded),
    ("pulls_requeued", .nat report.pullsRequeued),
    ("pulls_exhausted", .nat report.pullsExhausted),
    ("messages_expired", .nat report.messagesExpired),
    ("messages_exhausted", .nat report.messagesExhausted)]

/-- Read a sweep's report. -/
def SweepReport.ofJson? (json : Json) : Option SweepReport := do
  let record ← json.record? ["transactions_expired", "adds_discarded", "pulls_requeued",
    "pulls_exhausted", "messages_expired", "messages_exhausted"]
  let transactionsExpired ← record.required "transactions_expired" Json.count?
  let addsDiscarded ← record.required "adds_discarded" Json.count?
  let pullsRequeued ← record.required "pulls_requeued" Json.count?
  let pullsExhausted ← record.required "pulls_exhausted" Json.count?
  let messagesExpired ← record.required "messages_expired" Json.count?
  let messagesExhausted ← record.required "messages_exhausted" Json.count?
  some
    { transactionsExpired, addsDiscarded, pullsRequeued, pullsExhausted, messagesExpired,
      messagesExhausted }

end WorkQueue
