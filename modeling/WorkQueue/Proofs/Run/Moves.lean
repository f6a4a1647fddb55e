import WorkQueue.Broker.Queues
import WorkQueue.Broker.Sweep

/-!
# Runs of the broker

A move is a call of the broker that takes at most one storage transaction. Clients make moves, a
sweep makes one for each of its stages, and the world makes two of its own: it sets the clock,
forwards or backwards, and decides which storage transactions cannot be begun. A run is any list of
moves. Since each of them ends where its storage transaction ends, runs are what comes of any
number of clients and sweeps whose storage transactions are interleaved in any order, and what
holds after every run holds at every end of a storage transaction. A call that looked at the clock
before others were served is one that is made when the clock has been set back. A sweep that is
broken off is one whose later stages are missing from the run, and sending a message is the moves
of starting, adding, and then committing or rolling back.
-/

namespace WorkQueue

/-- What can happen to the broker with at most one storage transaction. -/
inductive Move where
  | createQueue (text : String)
  | deleteQueue (ref : QueueRef)
  | findQueue (ref : QueueRef)
  | listQueues
  | start (lifetime : Duration)
  | findTransaction (id : TransactionId)
  | extend (id : TransactionId) (lifetime : Duration)
  | commit (id : TransactionId)
  | rollback (id : TransactionId) (reason : String)
  | enqueue (owner : TransactionId) (queue : QueueId) (new : NewMessage)
  | dequeue (owner : TransactionId) (queue : QueueId)
  | peek (queue : QueueId)
  | findMessage (id : MessageId)
  | count (queue : QueueId) (state : Option MessageState)
  | stats (ref : QueueRef)
  /-- One stage of a sweep that sweeps as if the clock stood at an instant. -/
  | sweep (stage : SweepStage) (instant : Instant)
  /-- The clock is set, forwards or backwards. -/
  | setClock (now : Instant)
  /-- Some of the storage transactions to come cannot be begun. -/
  | setOutages (outages : Outages)
  deriving DecidableEq, Repr

namespace Move

/-- What a move answers. -/
abbrev Answer : Move → Type
  | .createQueue _ => QueueId
  | .deleteQueue _ => Nat
  | .findQueue _ => Queue
  | .listQueues => List Queue
  | .start _ => TransactionId
  | .findTransaction _ => Transaction
  | .extend _ _ => Instant
  | .commit _ => CommitSummary
  | .rollback _ _ => RollbackSummary
  | .enqueue _ _ _ => MessageId
  | .dequeue _ _ => Option Message
  | .peek _ => Option Message
  | .findMessage _ => Message
  | .count _ _ => Nat
  | .stats _ => QueueStats
  | .sweep _ _ => List (SweepStep × Nat)
  | .setClock _ => Unit
  | .setOutages _ => Unit

/-- The call of the broker that a move is. -/
def call : (move : Move) → Call move.Answer
  | .createQueue text => Broker.createQueue text
  | .deleteQueue ref => Broker.deleteQueue ref
  | .findQueue ref => Broker.findQueue ref
  | .listQueues => Broker.listQueues
  | .start lifetime => Broker.start lifetime
  | .findTransaction id => Broker.findTransaction id
  | .extend id lifetime => Broker.extend id lifetime
  | .commit id => Broker.commit id
  | .rollback id reason => Broker.rollback id reason
  | .enqueue owner queue new => Broker.enqueue owner queue new
  | .dequeue owner queue => Broker.dequeue owner queue
  | .peek queue => Broker.peek queue
  | .findMessage id => Broker.findMessage id
  | .count queue state => Broker.count queue state
  | .stats ref => Broker.stats ref
  | .sweep stage instant => Broker.sweepStages instant [stage]
  | .setClock now => modify fun broker => { broker with clock := now }
  | .setOutages outages => modify fun broker => { broker with outages }

/-- What a move answers when it is made on a broker. -/
def answer (move : Move) (broker : Broker) : Except Error move.Answer :=
  (move.call.run broker).1

/-- The broker after a move. -/
def after (move : Move) (broker : Broker) : Broker :=
  (move.call.run broker).2

/-- The message that a move delivers by its answer, with the transaction that takes it. -/
def delivery? : (move : Move) → Except Error move.Answer → Option (MessageId × TransactionId)
  | .dequeue owner _, .ok (some message) => some (message.id, owner)
  | _, _ => none

/-- The message that a move adds by its answer, with the transaction that adds it. -/
def addition? : (move : Move) → Except Error move.Answer → Option (MessageId × TransactionId)
  | .enqueue owner _ _, .ok id => some (id, owner)
  | _, _ => none

end Move

/-- A move and the broker on which it is made. -/
structure Step where
  before : Broker
  move : Move
  deriving DecidableEq, Repr

namespace Step

/-- The broker after the step. -/
def after (step : Step) : Broker :=
  step.move.after step.before

/-- The message that the step delivers, with the transaction that takes it. -/
def delivery? (step : Step) : Option (MessageId × TransactionId) :=
  step.move.delivery? (step.move.answer step.before)

/-- The message that the step adds, with the transaction that adds it. -/
def addition? (step : Step) : Option (MessageId × TransactionId) :=
  step.move.addition? (step.move.answer step.before)

end Step

namespace Broker

/-- A broker whose store is empty, whatever else is so about it. -/
def emptied (broker : Broker) : Broker :=
  { broker with store := {} }

/-- The broker after a run. -/
def play : List Move → Broker → Broker
  | [], broker => broker
  | move :: rest, broker => play rest (move.after broker)

/-- The steps of a run. -/
def trace : List Move → Broker → List Step
  | [], _ => []
  | move :: rest, broker => ⟨broker, move⟩ :: trace rest (move.after broker)

/-- A run that goes on continues from where it was. -/
theorem play_append (first second : List Move) (broker : Broker) :
    play (first ++ second) broker = play second (play first broker) := by
  induction first generalizing broker with
  | nil => rfl
  | cons move rest ih => exact ih (move.after broker)

/-- The steps of a run that goes on are those of its parts. -/
theorem trace_append (first second : List Move) (broker : Broker) :
    trace (first ++ second) broker = trace first broker ++ trace second (play first broker) := by
  induction first generalizing broker with
  | nil => rfl
  | cons move rest ih => exact congrArg _ (ih (move.after broker))

/-- A step of a run stands between the moves made before it and those made after it. -/
theorem exists_moves_of_mem_trace {moves : List Move} {broker : Broker} {step : Step}
    (hstep : step ∈ trace moves broker) :
    ∃ earlier later, moves = earlier ++ step.move :: later ∧
      step.before = play earlier broker := by
  induction moves generalizing broker with
  | nil => cases hstep
  | cons move rest ih =>
      rcases List.mem_cons.1 hstep with rfl | hrest
      · exact ⟨[], rest, rfl, rfl⟩
      · obtain ⟨earlier, later, rfl, hbefore⟩ := ih hrest
        exact ⟨move :: earlier, later, rfl, hbefore⟩

/-- What holds at the start and is kept by every step holds after every run, of the steps made and
the broker reached. -/
theorem play_invariant (Holds : List Step → Broker → Prop) {broker : Broker}
    (hstart : Holds [] broker)
    (hstep : ∀ steps before move, Holds steps before →
      Holds (steps ++ [⟨before, move⟩]) (move.after before))
    (moves : List Move) : Holds (trace moves broker) (play moves broker) := by
  -- The run is taken apart from its front while steps are added at the back, so the induction is
  -- for any steps made before.
  suffices hmore : ∀ steps, Holds steps broker →
      Holds (steps ++ trace moves broker) (play moves broker) from hmore [] hstart
  clear hstart
  induction moves generalizing broker with
  | nil => intro steps h; simpa [trace, play] using h
  | cons move rest ih =>
      intro steps h
      have hrest := ih (steps ++ [⟨broker, move⟩]) (hstep steps broker move h)
      simpa [trace, play] using hrest

end Broker

end WorkQueue
