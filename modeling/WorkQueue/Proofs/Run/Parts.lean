import WorkQueue.Proofs.Run.Outcomes

/-!
# The parts of calls

Calls are made of a few parts: they look at the clock, check what they are given, make entries in
the journal, and make storage transactions; some hold a claim lock meanwhile, and some forget one.
`Move.relates` goes through all calls once: what relates the broker before and after each part, and
can be composed, relates the broker before and after every call, whether it answers or fails.
-/

namespace WorkQueue

namespace Broker

/-- Is the broker before the call related to the broker after it, whether it answers or fails? -/
def Relates {ε α : Type} (R : Broker → Broker → Prop) (call : ExceptT ε (StateM Broker) α) :
    Prop :=
  ∀ broker, R broker (call.run broker).2

/-- The relation can be composed, and holds across storage transactions and entries in the
journal. -/
structure AcrossStorage (R : Broker → Broker → Prop) : Prop where
  refl : ∀ broker, R broker broker
  trans : ∀ {before between after}, R before between → R between after → R before after
  storage : ∀ (broker : Broker) (store : Store) (outages : Outages),
    R broker { broker with store, outages }
  entry : ∀ (broker : Broker) (journal : Journal), R broker { broker with journal }

/-- The relation holds also across what calls do with the claim locks. -/
structure AcrossCalls (R : Broker → Broker → Prop) : Prop extends AcrossStorage R where
  hold : ∀ (broker after : Broker) (queue : QueueId),
    after.locks = broker.locks.acquire () queue →
    R { broker with locks := broker.locks.acquire () queue } after →
    R broker { after with locks := after.locks.release () }
  forget : ∀ (broker : Broker) (queue : QueueId),
    R broker { broker with locks := broker.locks.evict queue }

namespace AcrossStorage

variable {ε α β : Type} {R : Broker → Broker → Prop} (h : AcrossStorage R)
include h

/-- What relates the parts of a call relates the call. -/
theorem bind {call : ExceptT ε (StateM Broker) α} {next : α → ExceptT ε (StateM Broker) β}
    (hcall : Relates R call) (hnext : ∀ answer, Relates R (next answer)) :
    Relates R (call >>= next) := by
  intro broker
  have hfirst := hcall broker
  rcases hrun : call.run broker with ⟨error | answer, after⟩
  · rw [run_bind_of_error hrun]
    rwa [hrun] at hfirst
  · rw [run_bind_of_ok hrun]
    rw [hrun] at hfirst
    exact h.trans hfirst (hnext answer after)

/-- An answer leaves the broker as it is. -/
theorem pure (answer : α) : Relates R (Pure.pure answer : ExceptT ε (StateM Broker) α) :=
  h.refl

/-- The answer of a call can be put in other words. -/
theorem map {call : ExceptT ε (StateM Broker) α} (hcall : Relates R call) (f : α → β) :
    Relates R (f <$> call) := by
  rw [map_eq_pure_bind]
  exact h.bind hcall fun _ => h.pure _

/-- A check leaves the broker as it is. -/
theorem check_bind {result : Except Error α} {next : α → Call β}
    (hnext : ∀ answer, Relates R (next answer)) : Relates R (check result >>= next) :=
  h.bind (fun broker => h.refl broker) hnext

/-- Looking at the clock leaves the broker as it is. -/
theorem now_bind {next : Instant → Call β} (hnext : ∀ now, Relates R (next now)) :
    Relates R (now >>= next) :=
  h.bind (fun broker => h.refl broker) hnext

/-- Entries are made in the journal before the call answers. -/
theorem note_pure (entries : List Entry) (answer : α) :
    Relates R (do note entries; Pure.pure answer : Call α) :=
  fun broker => h.entry broker _

/-- A storage transaction changes the store and the outages to come. -/
theorem inStorage (work : Work α) : Relates R (inStorage work) := by
  intro broker
  simp only [Broker.inStorage, ExceptT.run_mk]
  split
  · exact h.storage broker broker.store _
  · exact h.storage broker _ _

/-- Work under a transaction is a storage transaction, and what is entered if the transaction has
lapsed. -/
theorem under (id : TransactionId) (now : Instant) (work : Work α) :
    Relates R (under id now work) := by
  refine h.bind (h.inStorage _) fun admitted => ?_
  cases admitted with
  | done answer => exact h.pure answer
  | lapsed undone => exact fun broker => h.entry broker _

/-- Stages of a sweep are storage transactions, with what is entered about them. -/
theorem sweepStages (instant : Instant) (stages : List SweepStage) :
    Relates R (sweepStages instant stages) := by
  induction stages with
  | nil => exact h.pure _
  | cons stage rest ih =>
      exact h.bind (h.inStorage _) fun rows => h.bind (fun broker => h.entry broker _) fun _ =>
        h.bind ih fun more => h.pure _

/-- What a call does that takes a message is work under a transaction. -/
theorem takeNext (owner : TransactionId) (queue : QueueId) :
    Relates R (takeNext owner queue) := by
  refine h.now_bind fun now => h.bind (h.under _ _ _) fun found => ?_
  cases found <;> exact h.note_pure _ _

end AcrossStorage

/-- What a call does that takes a message leaves the claim locks as they are. -/
theorem locks_takeNext (owner : TransactionId) (queue : QueueId) (broker : Broker) :
    ((takeNext owner queue).run broker).2.locks = broker.locks :=
  have hlocks : AcrossStorage fun before after => after.locks = before.locks :=
    ⟨fun _ => rfl, fun hfirst hsecond => hsecond.trans hfirst, fun _ _ _ => rfl, fun _ _ => rfl⟩
  hlocks.takeNext owner queue broker

namespace AcrossCalls

variable {R : Broker → Broker → Prop}

/-- A call that takes a message holds the claim lock meanwhile. -/
theorem dequeue (h : AcrossCalls R) (owner : TransactionId) (queue : QueueId) :
    Relates R (dequeue owner queue) := by
  intro broker
  rw [dequeue_eq, holdingClaim, ExceptT.run_mk]
  split
  · exact h.takeNext owner queue broker
  · exact h.hold broker _ queue (locks_takeNext owner queue _) (h.takeNext owner queue _)

/-- A call that has deleted a queue forgets its lock. -/
theorem deleteQueue (h : AcrossCalls R) (ref : QueueRef) : Relates R (deleteQueue ref) := by
  rw [deleteQueue_eq]
  refine h.bind (h.check_bind fun address => h.inStorage _) fun (queue, removed) broker => ?_
  exact h.trans (h.forget broker queue.id) (h.entry _ _)

end AcrossCalls

end Broker

open Broker

/-- What relates the broker before and after the parts of calls relates it before and after every
move, but that the world may set the clock. -/
theorem Move.relates {R : Broker → Broker → Prop} (h : AcrossCalls R) (move : Move)
    (hclock : ∀ now, move = .setClock now → ∀ broker : Broker,
      R broker { broker with clock := now }) : Relates R move.call := by
  cases move with
  | createQueue text =>
      exact h.check_bind fun _ => h.bind (h.inStorage _) fun _ => h.note_pure _ _
  | deleteQueue ref => exact h.deleteQueue ref
  | start lifetime =>
      exact h.now_bind fun _ => h.check_bind fun _ => h.bind (h.inStorage _) fun _ =>
        h.note_pure _ _
  | extend id lifetime =>
      exact h.now_bind fun _ => h.check_bind fun _ => h.bind (h.under _ _ _) fun _ =>
        h.note_pure _ _
  | commit id | rollback id reason =>
      exact h.now_bind fun _ => h.bind (h.under _ _ _) fun _ => h.note_pure _ _
  | enqueue owner queue new =>
      exact h.check_bind fun _ => h.now_bind fun _ => h.check_bind fun _ =>
        h.bind (h.under _ _ _) fun _ => h.note_pure _ _
  | dequeue owner queue => exact h.dequeue owner queue
  | findQueue ref | stats ref => exact h.check_bind fun _ => h.inStorage _
  | peek queue => exact h.now_bind fun _ => h.inStorage _
  | listQueues | findTransaction id | findMessage id | count queue state => exact h.inStorage _
  | sweep stage instant => exact h.sweepStages instant [stage]
  | setClock now => exact hclock now rfl
  | setOutages outages => exact fun broker => h.storage broker broker.store outages

end WorkQueue
