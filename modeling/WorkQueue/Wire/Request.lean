import WorkQueue.Message
import WorkQueue.Wire.Basic

/-!
# Requests to add a message

What a client sends to add a message under a transaction of its own. Only the transaction, the
queue and the payload have to be given.
-/

namespace WorkQueue

/-- A request to add a message. -/
structure MessageRequest where
  transaction : TransactionId
  queue : QueueId
  payload : List UInt8
  metadata : String := ""
  priority : Int := 0
  maxAttempts : Nat := 3
  /-- How many minutes the message lives; without them it does not expire. -/
  expiryMinutes : Option Int := none
  correlation : Int := 0
  group : Option String := none
  deriving DecidableEq, Repr

namespace MessageRequest

/-- The request on the wire. -/
def toJson (request : MessageRequest) : Json :=
  .record [
    ("transaction_id", request.transaction.toJson),
    ("queue_id", request.queue.toJson),
    ("payload", .bytes request.payload),
    ("metadata", .text request.metadata),
    ("priority", .int request.priority),
    ("max_attempts", .nat request.maxAttempts),
    ("expiry_minutes", .optional Json.int request.expiryMinutes),
    ("correlation_id", .int request.correlation),
    ("group_name", .optional Json.text request.group)]

/-- The fields of a request, in their order. -/
def fieldNames : List String :=
  ["transaction_id", "queue_id", "payload", "metadata", "priority", "max_attempts",
    "expiry_minutes", "correlation_id", "group_name"]

/-- Read a request. Fields after the payload need not be there. -/
def ofJson? (json : Json) : Option MessageRequest := do
  let record ← json.record? fieldNames
  let transaction ← record.required "transaction_id" TransactionId.ofJson?
  let queue ← record.required "queue_id" QueueId.ofJson?
  let payload ← record.required "payload" Json.bytes?
  let metadata ← record.defaulted "metadata" "" Json.string?
  let priority ← record.defaulted "priority" 0 Json.smallInt?
  let maxAttempts ← record.defaulted "max_attempts" 3 Json.smallCount?
  let expiryMinutes ← record.defaulted "expiry_minutes" none (Json.nullable? Json.wideInt?)
  let correlation ← record.defaulted "correlation_id" 0 Json.wideInt?
  let group ← record.defaulted "group_name" none (Json.nullable? Json.string?)
  some
    { transaction, queue, payload, metadata, priority, maxAttempts, expiryMinutes, correlation,
      group }

end MessageRequest

end WorkQueue
