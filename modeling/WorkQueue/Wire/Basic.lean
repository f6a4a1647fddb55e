import WorkQueue.Error
import WorkQueue.Json.Reader
import WorkQueue.Json.Record
import WorkQueue.QueueName
import WorkQueue.State
import WorkQueue.Time.Reader
import WorkQueue.Time.Written
import WorkQueue.Width

/-!
# The wire form of simple values

Numbers, instants, states and addresses as JSON. Identifiers and counts are whole numbers below
`UInt64.size`, instants are RFC 3339 texts, states are words.
-/

namespace WorkQueue

/-- The value that a JSON text denotes, read by a decoder of JSON values. -/
def Json.decode? {α : Type} (ofJson? : Json → Option α) (text : String) : Option α :=
  (Json.parse? text).bind ofJson?

namespace Json

/-- A count or an identifier: a whole number of 64 bits without a sign. -/
def count? : Json → Option Nat :=
  natBelow? UInt64.size

/-- A whole number of 32 bits without a sign. -/
def smallCount? : Json → Option Nat :=
  natBelow? UInt32.size

/-- A whole number of 32 bits with a sign. -/
def smallInt? : Json → Option Int :=
  intIn? (-half32) (half32 - 1)

/-- A whole number of 64 bits with a sign. -/
def wideInt? : Json → Option Int :=
  intIn? (-half64) (half64 - 1)

end Json

/-- A queue's number on the wire. -/
def QueueId.toJson (id : QueueId) : Json :=
  .nat id.value

/-- Read a queue's number. -/
def QueueId.ofJson? (json : Json) : Option QueueId :=
  json.count?.map QueueId.mk

/-- A message's number on the wire. -/
def MessageId.toJson (id : MessageId) : Json :=
  .nat id.value

/-- Read a message's number. -/
def MessageId.ofJson? (json : Json) : Option MessageId :=
  json.count?.map MessageId.mk

/-- A transaction's number on the wire. -/
def TransactionId.toJson (id : TransactionId) : Json :=
  .nat id.value

/-- Read a transaction's number. -/
def TransactionId.ofJson? (json : Json) : Option TransactionId :=
  json.count?.map TransactionId.mk

/-- An instant on the wire. -/
def Instant.toJson (t : Instant) : Json :=
  .text t.rfc3339

/-- Read an instant. -/
def Instant.ofJson? (json : Json) : Option Instant :=
  json.string?.bind Instant.read?

/-- A message's state on the wire. -/
def MessageState.toJson (state : MessageState) : Json :=
  .text state.word

/-- Read a message's state. -/
def MessageState.ofJson? : Json → Option MessageState :=
  Json.word? ofWord?

/-- A transaction's state on the wire. -/
def TransactionState.toJson (state : TransactionState) : Json :=
  .text state.word

/-- Read a transaction's state. -/
def TransactionState.ofJson? : Json → Option TransactionState :=
  Json.word? ofWord?

/-- An action on the wire. -/
def TransactionAction.toJson (action : TransactionAction) : Json :=
  .text action.word

/-- Read an action. -/
def TransactionAction.ofJson? : Json → Option TransactionAction :=
  Json.word? ofWord?

/-- A result code on the wire. -/
def ResultCode.toJson (code : ResultCode) : Json :=
  .text code.word

/-- Read a result code. -/
def ResultCode.ofJson? : Json → Option ResultCode :=
  Json.word? ofWord?

/-- An address on the wire: an object with one member, which says what kind of address it is. -/
def QueueRef.toJson : QueueRef → Json
  | .byId id => .record [("id", id.toJson)]
  | .byName text => .record [("name", .text text)]

/-- Read an address. -/
def QueueRef.ofJson? : Json → Option QueueRef
  | .object [(some "id", id)] => (QueueId.ofJson? id).map .byId
  | .object [(some "name", text)] => text.string?.map .byName
  | _ => none

end WorkQueue
