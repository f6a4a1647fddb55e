import WorkQueue.Proofs.Lifetime.Endings
import WorkQueue.Proofs.Run.Admission

/-!
# What a failed call leaves behind

A call that fails leaves the store as it was, with one exception: a call that comes upon a lapsed
transaction says that it has expired, and has undone it by then. Which of the two it was cannot be
told by where the call failed, since it may fail before its transaction is looked at, when it is
looked at, and behind that; but only calls under a transaction say that one has expired, and they
say it only when it is looked at: `failures_leave_store`.
-/

namespace WorkQueue

namespace Work

/-- A queue that is not there is another error. -/
theorem neverExpires_findQueue (address : QueueAddress) : NeverExpires (findQueue address) := by
  refine neverExpires_get.bind fun store => ?_
  dsimp only
  split
  · exact neverExpires_pure _
  · exact neverExpires_throw fun _ => by simp

/-- Adding a queue may fail for its name or for lack of numbers. -/
theorem neverExpires_insertQueue (name : QueueName) : NeverExpires (Store.insertQueue name) := by
  refine neverExpires_get.bind fun store => ?_
  have hadded : NeverExpires (nextNumber store.lastQueue >>= fun number => do
      let queue : Queue := ⟨⟨number⟩, name.display⟩
      set { store with queues := store.queues ++ [queue], lastQueue := number }
      pure queue.id : Work QueueId) :=
    (neverExpires_nextNumber _).bind fun _ => (neverExpires_set _).bind fun _ =>
      neverExpires_pure _
  exact .ite ((neverExpires_throw fun _ => by simp).bind fun _ => hadded) hadded

/-- Deleting a queue fails only when it is not there. -/
theorem neverExpires_deleteQueue (address : QueueAddress) :
    NeverExpires (deleteQueue address) := by
  refine (neverExpires_findQueue address).bind fun queue =>
    (neverExpires_modifyGet _).bind fun removed => ?_
  cases removed with
  | none => exact neverExpires_throw fun _ => by simp
  | some removed => exact neverExpires_pure _

/-- Adding a transaction may fail for lack of numbers only. -/
theorem neverExpires_insertTransaction (now expiry : Instant) :
    NeverExpires (Store.insertTransaction now expiry) :=
  neverExpires_get.bind fun _ => (neverExpires_nextNumber _).bind fun _ =>
    (neverExpires_set _).bind fun _ => neverExpires_pure _

/-- A transaction that is not there is another error. -/
theorem neverExpires_findTransaction (id : TransactionId) : NeverExpires (findTransaction id) := by
  refine neverExpires_get.bind fun store => ?_
  cases store.transaction? id with
  | none => exact neverExpires_throw fun _ => by simp
  | some t => exact neverExpires_pure _

/-- A message that is not there is another error. -/
theorem neverExpires_findMessage (id : MessageId) : NeverExpires (findMessage id) := by
  refine neverExpires_get.bind fun store => ?_
  cases store.message? id with
  | none => exact neverExpires_throw fun _ => by simp
  | some m => exact neverExpires_pure _

/-- What is seen of the store under a queue fails only when the queue is not there. -/
theorem neverExpires_requireQueue_get {α : Type} (queue : QueueId) (look : Store → α) :
    NeverExpires (do requireQueue queue; return look (← get)) :=
  (neverExpires_requireQueue queue).bind fun _ => neverExpires_get.bind fun _ =>
    neverExpires_pure _

/-- Counting messages by state fails only when the queue is not there. -/
theorem neverExpires_stats (address : QueueAddress) : NeverExpires (stats address) :=
  (neverExpires_findQueue address).bind fun _ => neverExpires_get.bind fun _ => neverExpires_pure _

end Work

namespace Broker

variable {α β : Type} {call : Call α}

/-- Whatever the call fails with, it is not that a transaction has expired. -/
def NeverExpires (call : Call α) : Prop :=
  ∀ broker id, (call.run broker).1 ≠ .error (.expired id)

/-- A call in two parts says nothing that neither part says. -/
theorem NeverExpires.bind {next : α → Call β} (h : NeverExpires call)
    (hnext : ∀ answer, NeverExpires (next answer)) : NeverExpires (call >>= next) := by
  intro broker id hsaid
  cases hrun : call.run broker with
  | mk result after =>
      cases result with
      | error error =>
          rw [run_bind_of_error hrun] at hsaid
          refine h broker id ?_
          rw [hrun]
          cases hsaid
          rfl
      | ok answer =>
          rw [run_bind_of_ok hrun] at hsaid
          exact hnext answer after id hsaid

/-- A step that cannot fail says nothing. -/
theorem neverExpires_lift (step : StateM Broker α) : NeverExpires (liftM step : Call α) := by
  intro broker id hsaid
  cases hsaid

/-- An answer is not an error. -/
theorem neverExpires_pure (answer : α) : NeverExpires (pure answer) := by
  intro broker id hsaid
  cases hsaid

/-- Looking at the clock does not fail. -/
theorem neverExpires_now : NeverExpires now := by
  intro broker id hsaid
  cases hsaid

/-- A check says what it has found. -/
theorem neverExpires_check {result : Except Error α} (h : ∀ id, result ≠ .error (.expired id)) :
    NeverExpires (check result) := by
  intro broker id hsaid
  exact h id hsaid

/-- A storage transaction says what its work says, or that it cannot be begun. -/
theorem neverExpires_inStorage {work : Work α} (h : work.NeverExpires) :
    NeverExpires (inStorage work) := by
  intro broker id hsaid
  cases hbegin : broker.outages.hitsNext with
  | true =>
      rw [run_inStorage_of_outage hbegin] at hsaid
      cases hsaid
  | false =>
      cases hwork : work.run broker.store with
      | error error =>
          rw [run_inStorage_of_error hbegin hwork] at hsaid
          cases hsaid
          exact h broker.store id hwork
      | ok result =>
          obtain ⟨answer, changed⟩ := result
          rw [run_inStorage_of_ok hbegin hwork] at hsaid
          cases hsaid

/-- A text that is no name is another error. -/
theorem ofText_ne_expired (text : String) (id : TransactionId) :
    QueueName.ofText text ≠ .error (.expired id) := by
  unfold QueueName.ofText
  dsimp only
  split
  · simp
  · split <;> simp

/-- A reference that writes no address is another error. -/
theorem ofRef_ne_expired (ref : QueueRef) (id : TransactionId) :
    QueueAddress.ofRef ref ≠ .error (.expired id) := by
  cases ref with
  | byId queue => simp [QueueAddress.ofRef]
  | byName text =>
      have hname := ofText_ne_expired text id
      show (QueueName.ofText text).map QueueAddress.named ≠ .error (.expired id)
      cases hread : QueueName.ofText text with
      | error error =>
          rw [hread] at hname
          intro hsaid
          cases hsaid
          exact hname rfl
      | ok name => simp [Except.map]

/-- A lifetime that ends nowhere is another error. -/
theorem expiryAfter_ne_expired (now : Instant) (lifetime : Duration) (id : TransactionId) :
    expiryAfter now lifetime ≠ .error (.expired id) := by
  intro hsaid
  rcases Move.expiryAfter_cases now lifetime with ⟨expiry, hexpiry⟩ | ⟨why, hwhy⟩
  · cases hexpiry.symm.trans hsaid
  · cases hwhy.symm.trans hsaid

end Broker

namespace Move

open Broker

variable {broker : Broker} {move : Move} {id : TransactionId}

/-- Only calls under a transaction say that a transaction has expired. -/
theorem neverExpires (howner : move.owner? = none) : NeverExpires move.call := by
  cases move with
  | createQueue text =>
      exact (neverExpires_check (ofText_ne_expired text)).bind fun name =>
        (neverExpires_inStorage (Work.neverExpires_insertQueue name)).bind fun _ =>
          (neverExpires_lift _).bind fun _ => neverExpires_pure _
  | deleteQueue ref =>
      rw [call, deleteQueue_eq]
      have hdropped : NeverExpires (dropQueue ref) :=
        (neverExpires_check (ofRef_ne_expired ref)).bind fun address =>
          neverExpires_inStorage (Work.neverExpires_deleteQueue address)
      exact hdropped.bind fun _ => (neverExpires_lift _).bind fun _ =>
        (neverExpires_lift _).bind fun _ => neverExpires_pure _
  | findQueue ref =>
      exact (neverExpires_check (ofRef_ne_expired ref)).bind fun address =>
        neverExpires_inStorage (Work.neverExpires_findQueue address)
  | listQueues =>
      exact neverExpires_inStorage (Work.neverExpires_get.bind fun _ => Work.neverExpires_pure _)
  | start lifetime =>
      exact neverExpires_now.bind fun now =>
        (neverExpires_check (expiryAfter_ne_expired now lifetime)).bind fun expiry =>
          (neverExpires_inStorage (Work.neverExpires_insertTransaction now expiry)).bind fun _ =>
            (neverExpires_lift _).bind fun _ => neverExpires_pure _
  | findTransaction id => exact neverExpires_inStorage (Work.neverExpires_findTransaction id)
  | peek queue =>
      exact neverExpires_now.bind fun now =>
        neverExpires_inStorage (Work.neverExpires_requireQueue_get queue _)
  | findMessage id => exact neverExpires_inStorage (Work.neverExpires_findMessage id)
  | count queue state => exact neverExpires_inStorage (Work.neverExpires_requireQueue_get queue _)
  | stats ref =>
      exact (neverExpires_check (ofRef_ne_expired ref)).bind fun address =>
        neverExpires_inStorage (Work.neverExpires_stats address)
  | sweep stage instant =>
      exact (neverExpires_inStorage (Work.neverExpires_modifyGet _)).bind fun _ =>
        (neverExpires_lift _).bind fun _ => (neverExpires_pure _).bind fun _ => neverExpires_pure _
  | setClock now => exact neverExpires_lift _
  | setOutages outages => exact neverExpires_lift _
  | extend | commit | rollback | enqueue | dequeue => cases howner

/-- A call that says that a transaction has expired is a call under that transaction, which was
known to have expired, so that the store is as it was, or which the call has found lapsed and has
undone. -/
theorem of_expired (hsaid : move.answer broker = .error (.expired id)) :
    move.owner? = some id ∧
      ((∃ t, broker.store.transaction? id = some t ∧ t.state = .expired) ∧
          (move.after broker).store = broker.store ∨
        broker.store.HasLapsed id broker.clock ∧
          (move.after broker).store =
            (Change.undo id .expired expiredReason broker.clock).apply broker.store) := by
  cases howner : move.owner? with
  | none => exact absurd hsaid (neverExpires howner broker id)
  | some owner =>
      obtain ⟨hid, hcases⟩ := expiry_cases howner hsaid
      subst hid
      exact ⟨rfl, hcases⟩

/-- A call that fails otherwise leaves the store as it was. -/
theorem store_after_of_error {error : Error} (hfailed : move.answer broker = .error error)
    (hother : ∀ id, error ≠ .expired id) : (move.after broker).store = broker.store := by
  obtain ⟨change, _, hcomes, hstore⟩ := move.explained broker
  have hanswer : (move.call.run broker).1 = .error error := hfailed
  rw [hanswer] at hcomes
  show (move.call.run broker).2.store = broker.store
  rw [hstore]
  cases hcomes with
  | refused => exact Change.apply_nothing broker.store
  | lapsed _ id _ => exact absurd rfl (hother id)

end Move

namespace Broker

/-- After every run, whatever the clock shows and whether or not a storage transaction can be begun:
a call that fails, but not because a transaction has expired, leaves the store as it was, with the
last numbers given out. One that fails because a transaction has expired is a call under that
transaction. Either the transaction was known to have expired, and the store is as it was, or it was
active until the end of its lifetime, and the store is the one in which it has been undone. -/
theorem failures_leave_store (broker : Broker) (moves : List Move) (move : Move) (error : Error)
    (hfailed : move.answer (play moves broker.emptied) = .error error) :
    let found := play moves broker.emptied
    let left := (move.after found).store
    ((∀ id, error ≠ .expired id) → left = found.store) ∧
      ∀ id, error = .expired id →
        move.owner? = some id ∧
          ∃ t, found.store.transaction? id = some t ∧
            (t.state = .expired ∧ left = found.store ∨
              t.state = .active ∧ t.expiryTime ≤ found.clock ∧
                left = found.store.undone id .expired expiredReason found.clock) := by
  intro found left
  have hsound : found.store.Sound := play_sound broker moves
  refine ⟨fun hother => Move.store_after_of_error hfailed hother, fun id herror => ?_⟩
  subst herror
  obtain ⟨howner, hcases⟩ := Move.of_expired hfailed
  refine ⟨howner, ?_⟩
  rcases hcases with ⟨⟨t, hfind, hexpired⟩, hkept⟩ | ⟨hlapsed, hundone⟩
  · exact ⟨t, hfind, .inl ⟨hexpired, hkept⟩⟩
  · rw [hsound.apply_undo hlapsed.exists_active] at hundone
    obtain ⟨t, hfind, hactive, hpassed⟩ := hlapsed
    exact ⟨t, hfind, .inr ⟨hactive, of_decide_eq_true hpassed, hundone⟩⟩

/-- When the minute of the transactions has passed, a call that would extend the second of them
undoes what it holds, and a later call under it leaves the store as it is, like one about a queue
that is not there. -/
theorem failures_leave_store_mixedHolds :
    let late := mixedHolds ++ [.setClock ⟨60, 0⟩]
    let found := play late (emptied { clock := ⟨0, 0⟩ })
    let later := play (late ++ [.commit ⟨2⟩]) (emptied { clock := ⟨0, 0⟩ })
    ((Move.extend ⟨2⟩ (.ofSeconds 60)).after found).store =
        found.store.undone ⟨2⟩ .expired "Expired" ⟨60, 0⟩ ∧
      ((Move.dequeue ⟨2⟩ ⟨1⟩).after later).store = later.store ∧
      ((Move.peek ⟨9⟩).after found).store = found.store := by
  intro late found later
  have hextend := failures_leave_store { clock := ⟨0, 0⟩ } late (.extend ⟨2⟩ (.ofSeconds 60))
    (.expired ⟨2⟩) (by decide +kernel)
  have hdequeue := failures_leave_store { clock := ⟨0, 0⟩ } (late ++ [.commit ⟨2⟩])
    (.dequeue ⟨2⟩ ⟨1⟩) (.expired ⟨2⟩) (by decide +kernel)
  have hpeek := failures_leave_store { clock := ⟨0, 0⟩ } late (.peek ⟨9⟩) (.notFound "queue#9")
    (by decide +kernel)
  have hactive : (found.store.transaction? ⟨2⟩).map Transaction.state = some .active := by
    decide +kernel
  have hexpired : (later.store.transaction? ⟨2⟩).map Transaction.state = some .expired := by
    decide +kernel
  refine ⟨?_, ?_, hpeek.1 nofun⟩
  · obtain ⟨_, t, hfind, ⟨hstate, _⟩ | ⟨_, _, hundone⟩⟩ := hextend.2 ⟨2⟩ rfl
    · rw [hfind, Option.map_some, hstate] at hactive
      cases hactive
    · exact hundone
  · obtain ⟨_, t, hfind, ⟨_, hkept⟩ | ⟨hstate, _, _⟩⟩ := hdequeue.2 ⟨2⟩ rfl
    · exact hkept
    · rw [hfind, Option.map_some, hstate] at hexpired
      cases hexpired

end Broker

end WorkQueue
