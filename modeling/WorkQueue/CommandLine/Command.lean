import WorkQueue.CommandLine.Arguments
import WorkQueue.QueueName

/-!
# Commands

What the command line can be asked to do. A queue is addressed by its number, if the word is one,
and otherwise by its name.
-/

namespace WorkQueue.CommandLine

/-- What is sent, apart from the queue. -/
structure Sending where
  payload : String
  priority : Int
  maxAttempts : Nat
  expiryMinutes : Option Int
  metadata : String
  group : Option String
  correlation : Int
  deriving DecidableEq, Repr

/-- A request made on the command line. Queues are given by the words that address them. -/
inductive Command where
  | serve
  | sweep
  | createQueue (name : String)
  | deleteQueue (queue : String)
  | queueInfo (queue : String)
  | listQueues
  | queueStats (queue : String)
  | send (queue : String) (sending : Sending)
  | receive (queue : String) (rollback : Bool) (minutes : Int)
  | peekQueue (queue : String)
  | peekMessage (id : MessageId)
  | peekNothing
  deriving DecidableEq, Repr

/-- The address that a word is. -/
def queueRef (word : String) : QueueRef :=
  match natural word with
  | some number => .byId ⟨number⟩
  | none => .byName word

/-- Words without options, of which there are exactly one. -/
def onlyWord (words : List String) : Option String := do
  let arguments ← Arguments.of? [] words
  match arguments.positional with
  | [word] => some word
  | _ => none

/-- No words at all. -/
def noWords (words : List String) : Option Unit := do
  let arguments ← Arguments.of? [] words
  if arguments.positional.isEmpty then some () else none

namespace Command

/-- The command to send a message. -/
def ofSendWords? (words : List String) : Option Command := do
  let arguments ← Arguments.of? [⟨"priority", true⟩, ⟨"max-attempts", true⟩,
    ⟨"expiry-minutes", true⟩, ⟨"metadata", true⟩, ⟨"group", true⟩, ⟨"correlation-id", true⟩] words
  match arguments.positional with
  | [queue, payload] =>
      let priority ← arguments.read "priority" 0 (integerIn (-half32) (half32 - 1))
      let maxAttempts ← arguments.read "max-attempts" 3 (integerIn 0 (UInt32.size - 1))
      let expiryMinutes ← arguments.read "expiry-minutes" none
        fun text => (integerIn (-half64) (half64 - 1) text).map some
      let correlation ← arguments.read "correlation-id" 0 (integerIn (-half64) (half64 - 1))
      some (.send queue {
        payload
        priority
        maxAttempts := maxAttempts.toNat
        expiryMinutes
        metadata := (arguments.value? "metadata").getD ""
        group := arguments.value? "group"
        correlation })
  | _ => none

/-- The command to receive a message. -/
def ofReceiveWords? (words : List String) : Option Command := do
  let arguments ← Arguments.of? [⟨"rollback", false⟩, ⟨"ttl-minutes", true⟩] words
  match arguments.positional with
  | [queue] =>
      let minutes ← arguments.read "ttl-minutes" 5 (integerIn (-half64) (half64 - 1))
      some (.receive queue (arguments.has "rollback") minutes)
  | _ => none

/-- The command to show a message: the next one of a queue, or one by its number. -/
def ofPeekWords? (words : List String) : Option Command := do
  let arguments ← Arguments.of? [⟨"id", true⟩] words
  let id ← arguments.read "id" none fun text => (natural text).map some
  match arguments.positional, id with
  | [], some id => some (.peekMessage ⟨id⟩)
  | [queue], none => some (.peekQueue queue)
  | [], none => some .peekNothing
  | _, _ => none

/-- The command to administer queues. -/
def ofQueueWords? : List String → Option Command
  | "create" :: words => (onlyWord words).map .createQueue
  | "delete" :: words => (onlyWord words).map .deleteQueue
  | "info" :: words => (onlyWord words).map .queueInfo
  | "stats" :: words => (onlyWord words).map .queueStats
  | "list" :: words => (noWords words).map fun _ => .listQueues
  | _ => none

/-- The command that the words after the program's name make, if they make one. -/
def ofWords? : List String → Option Command
  | "serve" :: words => (noWords words).map fun _ => .serve
  | "sweep" :: words => (noWords words).map fun _ => .sweep
  | "queue" :: words => ofQueueWords? words
  | "send" :: words => ofSendWords? words
  | "receive" :: words => ofReceiveWords? words
  | "peek" :: words => ofPeekWords? words
  | _ => none

end Command

end WorkQueue.CommandLine
