import WorkQueue.Store.Basic
import WorkQueue.Wire.Records

/-!
# The wire form of the store

A snapshot of the store as JSON: its rows, and the last numbers given out, so that a store which is
read back goes on where the written one stopped.
-/

namespace WorkQueue.Store

/-- The store on the wire. -/
def toJson (store : Store) : Json :=
  .record [
    ("queues", .list Queue.toJson store.queues),
    ("transactions", .list Transaction.toJson store.transactions),
    ("messages", .list Message.toJson store.messages),
    ("last_queue", .nat store.lastQueue),
    ("last_transaction", .nat store.lastTransaction),
    ("last_message", .nat store.lastMessage)]

/-- Read a store. -/
def ofJson? (json : Json) : Option Store := do
  let record ← json.record? ["queues", "transactions", "messages", "last_queue",
    "last_transaction", "last_message"]
  let queues ← record.required "queues" (Json.list? Queue.ofJson?)
  let transactions ← record.required "transactions" (Json.list? Transaction.ofJson?)
  let messages ← record.required "messages" (Json.list? Message.ofJson?)
  let lastQueue ← record.required "last_queue" Json.count?
  let lastTransaction ← record.required "last_transaction" Json.count?
  let lastMessage ← record.required "last_message" Json.count?
  some { queues, transactions, messages, lastQueue, lastTransaction, lastMessage }

end WorkQueue.Store
