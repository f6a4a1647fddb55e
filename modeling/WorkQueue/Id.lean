import WorkQueue.Width

/-!
# Identifiers

Queues, messages and transactions are known by numbers that the store gives out in ascending
order. The three kinds of number are kept apart. `ofSigned` and `toSigned` go between a number
below `UInt64.size` and the signed number with the same 64 bits.
-/

namespace WorkQueue

/-- The number of a queue. -/
structure QueueId where
  value : Nat
  deriving DecidableEq, Repr

/-- The number of a message. -/
structure MessageId where
  value : Nat
  deriving DecidableEq, Repr

/-- The number of a transaction. -/
structure TransactionId where
  value : Nat
  deriving DecidableEq, Repr

/-- The number that texts and the wire show for 64 bits read as a signed number. -/
def ofSigned (raw : Int) : Nat :=
  (raw % UInt64.size).toNat

/-- The 64 bits of a number read as a signed number. -/
def toSigned (value : Nat) : Int :=
  if value < half64 then value else (value : Int) - UInt64.size

/-- The name of a queue in messages. -/
def QueueId.display (id : QueueId) : String :=
  "queue#" ++ toString id.value

/-- The name of a message in messages. -/
def MessageId.display (id : MessageId) : String :=
  "message#" ++ toString id.value

/-- The name of a transaction in messages. -/
def TransactionId.display (id : TransactionId) : String :=
  "transaction#" ++ toString id.value

end WorkQueue
