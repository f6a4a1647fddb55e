import WorkQueue.Proofs.Locks.Line
import WorkQueue.Proofs.Store.Coupling

/-!
# Calls whose steps are interleaved

A call that takes a message asks for the claim lock of the queue, waits until it holds the lock,
makes one storage transaction and gives the lock back; it may be abandoned at any point before or
after its storage transaction. A call that deletes a queue makes one storage transaction and forgets
the claim lock afterwards. These steps are turns here, and so is every call of another kind, which
makes one storage transaction without a claim lock. Traffic is what any list of turns comes to, so
that it is any number of calls in any interleaving of their steps. A turn for which the time has not
come does nothing: a storage transaction of a call that does not hold its lock or has made its
storage transaction already, and forgetting a lock whose queue has not been deleted.
-/

namespace WorkQueue

/-- A call that takes a message, and the transaction under which it does. -/
structure Taker where
  number : Nat
  owner : TransactionId
  deriving DecidableEq, Repr

/-- The broker and the calls under way. -/
structure Traffic where
  /-- The broker. Its own claim locks are those of calls that are made one at a time. -/
  broker : Broker
  /-- The claim locks, with the calls that hold them or wait for them. -/
  locks : LockTable Taker
  /-- The number of calls that have asked for a lock so far. -/
  calls : Nat := 0
  /-- What calls that have made their storage transaction answer, in the order in which they made
  it. -/
  answers : List (Taker × Except Error (Option Message)) := []
  /-- The queues that calls have deleted and whose locks they have still to forget, each with the
  number of messages that went with it. -/
  deleted : List (Queue × Nat) := []
  deriving DecidableEq

/-- A step of a call. -/
inductive Turn where
  /-- A new call asks for the claim lock of a queue, to take a message under a transaction. -/
  | ask (owner : TransactionId) (queue : QueueId)
  /-- A call that holds its lock makes its storage transaction. -/
  | take (taker : Taker)
  /-- A call gives its lock back, or gives up waiting for it. -/
  | leave (taker : Taker)
  /-- A call deletes a queue in its storage transaction. -/
  | delete (ref : QueueRef)
  /-- A call that has deleted a queue forgets its lock. -/
  | evict (queue : QueueId)
  /-- A call of another kind, or a change of the clock or of the outages. -/
  | other (move : Move)
  deriving DecidableEq, Repr

/-- Is the move a call whose steps are turns of their own? -/
def Move.usesLocks : Move → Bool
  | .dequeue _ _ | .deleteQueue _ => true
  | _ => false

namespace Traffic

/-- The place in line of a call that holds its lock and has not made its storage transaction. -/
def ready? (traffic : Traffic) (taker : Taker) : Option (LockHandle Taker) :=
  traffic.locks.held.find? fun h =>
    h.handle = taker && !traffic.answers.any fun answer => answer.1 = taker

/-- A new call asks for the lock of a queue. -/
def ask (traffic : Traffic) (owner : TransactionId) (queue : QueueId) : Traffic :=
  { traffic with
    calls := traffic.calls + 1
    locks := traffic.locks.acquire ⟨traffic.calls, owner⟩ queue }

/-- A call makes its storage transaction, if it is ready. -/
def take (traffic : Traffic) (taker : Taker) : Traffic :=
  match traffic.ready? taker with
  | none => traffic
  | some h =>
      let (answer, broker) := (Broker.takeNext taker.owner h.queue).run traffic.broker
      { traffic with broker, answers := traffic.answers ++ [(taker, answer)] }

/-- A call leaves the line for its lock. -/
def leave (traffic : Traffic) (taker : Taker) : Traffic :=
  { traffic with locks := traffic.locks.release taker }

/-- A call deletes a queue, and has its lock still to forget. -/
def delete (traffic : Traffic) (ref : QueueRef) : Traffic :=
  let (answer, broker) := (Broker.dropQueue ref).run traffic.broker
  { traffic with broker, deleted := traffic.deleted ++ answer.toOption.toList }

/-- A call forgets the lock of a queue that it has deleted. -/
def evict (traffic : Traffic) (queue : QueueId) : Traffic :=
  match traffic.deleted.find? fun deleted => deleted.1.id = queue with
  | none => traffic
  | some (row, removed) =>
      { traffic with
        broker := ((Broker.forgetQueue row removed).run traffic.broker).2
        locks := traffic.locks.evict row.id
        deleted := traffic.deleted.erase (row, removed) }

/-- A call of another kind is made. -/
def make (traffic : Traffic) (move : Move) : Traffic :=
  if move.usesLocks then traffic else { traffic with broker := move.after traffic.broker }

/-- The traffic after a turn. -/
def after (traffic : Traffic) : Turn → Traffic
  | .ask owner queue => traffic.ask owner queue
  | .take taker => traffic.take taker
  | .leave taker => traffic.leave taker
  | .delete ref => traffic.delete ref
  | .evict queue => traffic.evict queue
  | .other move => traffic.make move

/-- The traffic after some turns. -/
def run : List Turn → Traffic → Traffic
  | [], traffic => traffic
  | turn :: rest, traffic => run rest (traffic.after turn)

/-- Traffic that goes on continues from where it was. -/
theorem run_append (first second : List Turn) (traffic : Traffic) :
    run (first ++ second) traffic = run second (run first traffic) := by
  induction first generalizing traffic with
  | nil => rfl
  | cons turn rest ih => exact ih (traffic.after turn)

variable {traffic : Traffic}

/-- What a turn can come to. -/
inductive TurnsTo (traffic : Traffic) : Turn → Traffic → Prop where
  | nothing (turn : Turn) : TurnsTo traffic turn traffic
  | asked (owner : TransactionId) (queue : QueueId) :
      TurnsTo traffic (.ask owner queue) (traffic.ask owner queue)
  /-- A call that holds its lock and has not answered yet answers. -/
  | took (h : LockHandle Taker) (answer : Except Error (Option Message)) (broker : Broker) :
      h ∈ traffic.locks.held → (∀ given ∈ traffic.answers, given.1 ≠ h.handle) →
      (Broker.takeNext h.handle.owner h.queue).run traffic.broker = (answer, broker) →
      TurnsTo traffic (.take h.handle)
        { traffic with broker, answers := traffic.answers ++ [(h.handle, answer)] }
  | left (taker : Taker) : TurnsTo traffic (.leave taker) (traffic.leave taker)
  | refused (ref : QueueRef) (broker : Broker) :
      broker.store = traffic.broker.store →
      TurnsTo traffic (.delete ref) { traffic with broker }
  /-- A call has deleted a queue and has its lock still to forget. -/
  | deleted (ref : QueueRef) (row : Queue) (removed : Nat) (broker : Broker) :
      (Broker.dropQueue ref).run traffic.broker = (.ok (row, removed), broker) →
      (Change.dropQueue row.id).Allowed traffic.broker.store →
      broker.store = (Change.dropQueue row.id).apply traffic.broker.store →
      TurnsTo traffic (.delete ref)
        { traffic with broker, deleted := traffic.deleted ++ [(row, removed)] }
  | evicted (row : Queue) (removed : Nat) (broker : Broker) :
      (row, removed) ∈ traffic.deleted → broker.store = traffic.broker.store →
      TurnsTo traffic (.evict row.id)
        { traffic with
          broker
          locks := traffic.locks.evict row.id
          deleted := traffic.deleted.erase (row, removed) }
  | made (move : Move) :
      TurnsTo traffic (.other move) { traffic with broker := move.after traffic.broker }

/-- The one place that says what a turn can do. -/
theorem turnsTo (traffic : Traffic) (turn : Turn) : TurnsTo traffic turn (traffic.after turn) := by
  cases turn with
  | ask owner queue => exact .asked owner queue
  | leave taker => exact .left taker
  | take taker =>
      rw [after, take]
      cases hready : traffic.ready? taker with
      | none => exact .nothing _
      | some h =>
          have hcall := List.find?_some hready
          simp only [Bool.and_eq_true, decide_eq_true_eq, Bool.not_eq_true', List.any_eq_false]
            at hcall
          obtain ⟨rfl, hnew⟩ := hcall
          exact .took h _ _ (List.mem_of_find?_eq_some hready) hnew rfl
  | delete ref =>
      rw [after, delete]
      rcases Broker.dropQueue_cases ref traffic.broker with
        ⟨error, broker, hrun, hstore⟩ | ⟨row, broker, hallowed, hrun, hstore⟩
      · rw [hrun]
        simp only [Except.toOption, Option.toList, List.append_nil]
        exact .refused ref broker hstore
      · rw [hrun]
        exact .deleted ref row _ broker hrun hallowed hstore
  | evict queue =>
      rw [after, evict]
      cases hfind : traffic.deleted.find? fun deleted => deleted.1.id = queue with
      | none => exact .nothing _
      | some deleted =>
          have hid : deleted.1.id = queue := by simpa using List.find?_some hfind
          subst hid
          exact .evicted deleted.1 deleted.2 _ (List.mem_of_find?_eq_some hfind) rfl
  | other move =>
      rw [after, make]
      split
      · exact .nothing _
      · exact .made move

/-- A turn makes at most one change of the store. -/
theorem TurnsTo.exists_change {turn : Turn} {next : Traffic} (h : TurnsTo traffic turn next) :
    ∃ change : Change, change.Allowed traffic.broker.store ∧
      next.broker.store = change.apply traffic.broker.store := by
  have hsame {store : Store} (hstore : store = traffic.broker.store) :
      ∃ change : Change, change.Allowed traffic.broker.store ∧
        store = change.apply traffic.broker.store :=
    ⟨.nothing, trivial, hstore.trans (Change.apply_nothing _).symm⟩
  cases h with
  | nothing | asked | left => exact hsame rfl
  | refused _ _ hstore | evicted _ _ _ _ hstore => exact hsame hstore
  | took h answer broker _ _ hrun =>
      obtain ⟨change, hallowed, _, hstore⟩ :=
        Move.explained_takeNext traffic.broker h.handle.owner h.queue
      rw [hrun] at hstore
      exact ⟨change, hallowed, hstore⟩
  | deleted _ _ _ _ _ hallowed hstore => exact ⟨_, hallowed, hstore⟩
  | made move =>
      obtain ⟨change, hallowed, _, hstore⟩ := move.explained traffic.broker
      exact ⟨change, hallowed, hstore⟩

/-- A property of the store that every change keeps is kept by all traffic. -/
theorem run_store (Holds : Store → Prop)
    (hchange : ∀ change store, Change.Allowed store change → Holds store →
      Holds (change.apply store))
    (turns : List Turn) (hstart : Holds traffic.broker.store) :
    Holds (run turns traffic).broker.store := by
  induction turns generalizing traffic with
  | nil => exact hstart
  | cons turn rest ih =>
      obtain ⟨change, hallowed, hstore⟩ := (turnsTo traffic turn).exists_change
      refine ih ?_
      rw [hstore]
      exact hchange change _ hallowed hstart

/-! ## Calls made one at a time -/

/-- Does the call go on in the same way whatever locks the broker knows? -/
def IgnoresLocks {α : Type} (call : Call α) : Prop :=
  ∀ (broker : Broker) (locks : LockTable Unit),
    call.run { broker with locks } =
      ((call.run broker).1, { (call.run broker).2 with locks })

/-- A call made of calls that ignore the locks ignores them. -/
theorem IgnoresLocks.bind {α β : Type} {call : Call α} {next : α → Call β}
    (hcall : IgnoresLocks call) (hnext : ∀ answer, IgnoresLocks (next answer)) :
    IgnoresLocks (call >>= next) := by
  intro broker locks
  have hlocked := hcall broker locks
  rcases hrun : call.run broker with ⟨error | answer, after⟩
  · rw [hrun] at hlocked
    rw [Broker.run_bind_of_error hrun, Broker.run_bind_of_error hlocked]
  · rw [hrun] at hlocked
    rw [Broker.run_bind_of_ok hrun, Broker.run_bind_of_ok hlocked]
    exact hnext answer after locks

/-- A storage transaction ignores the locks. -/
theorem ignoresLocks_inStorage {α : Type} (work : Work α) :
    IgnoresLocks (Broker.inStorage work) := by
  intro broker locks
  simp only [Broker.inStorage, ExceptT.run_mk]
  split <;> rfl

/-- What a call does that takes a message, but for holding its lock, ignores the locks. -/
theorem ignoresLocks_takeNext (owner : TransactionId) (queue : QueueId) :
    IgnoresLocks (Broker.takeNext owner queue) := by
  have hnow : IgnoresLocks Broker.now := fun _ _ => rfl
  refine hnow.bind fun now => .bind (.bind (ignoresLocks_inStorage _) ?_) ?_
  · intro admitted
    cases admitted <;> exact fun _ _ => rfl
  · intro message
    cases message <;> exact fun _ _ => rfl

/-- A call that takes a message and is not interleaved with others is its three turns. -/
theorem run_dequeue_alone (broker : Broker) (capacity : Nat) (owner : TransactionId)
    (queue : QueueId) :
    let alone := run [.ask owner queue, .take ⟨0, owner⟩, .leave ⟨0, owner⟩]
      { broker, locks := .ofCapacity capacity }
    alone.answers = [(⟨0, owner⟩, (Move.dequeue owner queue).answer broker)] ∧
      alone.broker.store = ((Move.dequeue owner queue).after broker).store ∧
      alone.locks.line = [] := by
  intro alone
  let asked := Traffic.ask { broker, locks := .ofCapacity capacity } owner queue
  let lock := (LockTable.ofCapacity capacity : LockTable Taker).lockFor queue
  have hline : asked.locks.line = [⟨⟨0, owner⟩, queue, lock⟩] :=
    LockTable.line_acquire _ _ queue
  have hready : asked.ready? ⟨0, owner⟩ = some ⟨⟨0, owner⟩, queue, lock⟩ := by
    rw [ready?, LockTable.held, hline]
    simp [LockTable.splitLine, asked, ask]
  have htaken : asked.take ⟨0, owner⟩ =
      { asked with
        broker := ((Broker.takeNext owner queue).run broker).2
        answers := [(⟨0, owner⟩, ((Broker.takeNext owner queue).run broker).1)] } := by
    rw [take, hready]
    rfl
  have halone : alone = (asked.take ⟨0, owner⟩).leave ⟨0, owner⟩ := rfl
  have hcall : (Move.dequeue owner queue).answer broker =
        ((Broker.takeNext owner queue).run broker).1 ∧
      ((Move.dequeue owner queue).after broker).store =
        ((Broker.takeNext owner queue).run broker).2.store := by
    have hlocked := ignoresLocks_takeNext owner queue broker (broker.locks.acquire () queue)
    rw [Move.answer, Move.after, Move.call, Broker.dequeue_eq, Broker.holdingClaim, ExceptT.run_mk]
    split
    · exact ⟨rfl, rfl⟩
    · rw [hlocked]
      exact ⟨rfl, rfl⟩
  rw [halone, htaken, hcall.1, hcall.2]
  refine ⟨rfl, rfl, ?_⟩
  show asked.locks.line.filter _ = []
  rw [hline]
  simp

/-- A call that deletes a queue and is not interleaved with others is its two turns. -/
theorem run_deleteQueue_alone (broker : Broker) (locks : LockTable Taker) (ref : QueueRef) :
    ∃ queue, (run [.delete ref, .evict queue] { broker, locks }).broker =
      (Move.deleteQueue ref).after broker := by
  rw [Move.after, Move.call, Broker.deleteQueue_eq]
  rcases hrun : (Broker.dropQueue ref).run broker with ⟨error | ⟨row, removed⟩, after⟩
  · refine ⟨⟨0⟩, ?_⟩
    rw [Broker.run_bind_of_error hrun, run, run, run, Traffic.after, Traffic.after, delete, hrun]
    rfl
  · refine ⟨row.id, ?_⟩
    rw [Broker.run_bind_of_ok hrun, run, run, run, Traffic.after, Traffic.after, delete, hrun]
    simp [evict, Except.toOption]

end Traffic

end WorkQueue
