import WorkQueue.Proofs.Run.Admission
import WorkQueue.Proofs.Statements.Scripts

/-!
# Moves as scripts

A move whose storage transaction can be begun does what its script says: it answers what the script
comes to, and leaves the store that the script leaves. A script that ends with an error leaves the
store as it was, and so does one that fails a check before it issues a statement. That a transaction
has lapsed is an error which its script answers, so that what was undone stays undone.
-/

namespace WorkQueue

/-- What a move asks of the store in its storage transaction, and answers. -/
def Move.script (now : Instant) : (move : Move) → Script (Except Error move.Answer)
  | .createQueue text => do
      let name ← .check (QueueName.ofText text)
      .ok <$> .addQueue name
  | .deleteQueue ref => do
      let address ← .check (QueueAddress.ofRef ref)
      (fun (_, removed) => .ok removed) <$> .deleteQueue address
  | .findQueue ref => do
      let address ← .check (QueueAddress.ofRef ref)
      .ok <$> .findQueue address
  | .listQueues => .ok <$> .ask .listQueues
  | .start lifetime => do
      let expiry ← .check (Broker.expiryAfter now lifetime)
      .ok <$> .ask (.insertTransaction now expiry)
  | .findTransaction id => .ok <$> .findTransaction id
  | .extend id lifetime => do
      let expiry ← .check (Broker.expiryAfter now lifetime)
      Admitted.answer id (fun _ => expiry) <$> .under id now (.extend id expiry)
  | .commit id => Admitted.answer id (fun summary => summary) <$> .under id now (.commit id now)
  | .rollback id reason =>
      Admitted.answer id (fun undone => undone) <$>
        .under id now (.unwind id .rolledBack reason now)
  | .enqueue owner queue new => do
      .check new.check
      let expiry ← .check (Broker.messageExpiry new now)
      Admitted.answer owner (fun id => id) <$>
        .under owner now (.enqueue (new.draft queue owner now expiry))
  | .dequeue owner queue =>
      Admitted.answer owner (fun message => message) <$>
        .under owner now (.dequeue owner queue now)
  | .peek queue => .ok <$> .peek queue now
  | .findMessage id => .ok <$> .findMessage id
  | .count queue state => .ok <$> .count queue state
  | .stats ref => do
      let address ← .check (QueueAddress.ofRef ref)
      .ok <$> .stats address
  | .sweep stage instant => .ok <$> .repair instant stage
  | .setClock _ | .setOutages _ => pure (.ok ())

namespace Script

variable {α : Type}

/-- What a script comes to: its answer and the store after it, or its error and the store before
it. -/
def finish (script : Script (Except Error α)) (store : Store) : Except Error α × Store :=
  match script.work.run store with
  | .ok result => result
  | .error error => (.error error, store)

end Script

namespace Broker

variable {broker : Broker} {α β : Type} {script : Script α} {work : Work α}

/-- Does a call come to what the script says? -/
def Follows (result : Except Error β × Broker) (script : Script (Except Error β)) (store : Store) :
    Prop :=
  (result.1, result.2.store) = script.finish store

/-- A call that fails a check comes to nothing else. -/
theorem follows_check {result : Except Error α} {next : α → Call β}
    {script : α → Script (Except Error β)}
    (h : ∀ value, Follows ((next value).run broker) (script value) broker.store) :
    Follows ((check result >>= next).run broker) (Script.check result >>= script)
      broker.store := by
  cases result with
  | error error =>
      rw [run_bind_of_error (run_check_of_error rfl)]
      rfl
  | ok value =>
      rw [run_bind_of_ok (run_check_of_ok rfl)]
      exact h value

/-- A call that does its work in a storage transaction comes to what its script says, if what comes
after the work leaves the store alone. -/
theorem follows_inStorage {finish : α → Call β} (hbegin : broker.outages.hitsNext = false)
    (hwork : script.work = work) (conclude : α → Except Error β)
    (hfinish : ∀ answer broker, ∃ after,
      (finish answer).run broker = (conclude answer, after) ∧ after.store = broker.store) :
    Follows ((inStorage work >>= finish).run broker) (conclude <$> script) broker.store := by
  rw [Follows, Script.finish, Script.work_map, hwork, StateT.run_map]
  cases hrun : work.run broker.store with
  | error error =>
      rw [run_bind_of_error (run_inStorage_of_error hbegin hrun)]
      rfl
  | ok result =>
      obtain ⟨answer, changed⟩ := result
      obtain ⟨after, hafter, hstore⟩ := hfinish answer { broker.begun with store := changed }
      rw [run_bind_of_ok (run_inStorage_of_ok hbegin hrun), hafter]
      exact congrArg _ hstore

/-- A call that is its work in a storage transaction comes to what its script says. -/
theorem follows_work (hbegin : broker.outages.hitsNext = false) (hwork : script.work = work) :
    Follows ((inStorage work).run broker) (Except.ok <$> script) broker.store := by
  rw [← bind_pure (inStorage work)]
  exact follows_inStorage hbegin hwork Except.ok fun _ _ => ⟨_, rfl, rfl⟩

/-- A call that does its work under a transaction comes to what its script says under the
transaction. -/
theorem follows_under {id : TransactionId} {finish : α → Call β}
    (hbegin : broker.outages.hitsNext = false) (hwork : script.work = work) (conclude : α → β)
    (hfinish : ∀ answer broker, ∃ after,
      (finish answer).run broker = (.ok (conclude answer), after) ∧ after.store = broker.store) :
    Follows ((under id broker.clock work >>= finish).run broker)
      (Admitted.answer id conclude <$> Script.under id broker.clock script) broker.store := by
  rw [under, bind_assoc]
  refine follows_inStorage hbegin ((Script.work_under id _ script).trans (by rw [hwork])) _ ?_
  intro admitted broker
  cases admitted with
  | done answer => exact hfinish answer broker
  | lapsed undone => exact ⟨_, rfl, rfl⟩

/-- Holding a claim lock makes no difference to what a call comes to. -/
theorem follows_holdingClaim {queue : QueueId} {call : Call β}
    {script : Script (Except Error β)}
    (h : ∀ locks, Follows (call.run { broker with locks }) script broker.store) :
    Follows ((holdingClaim queue call).run broker) script broker.store := by
  unfold holdingClaim
  simp only [ExceptT.run_mk]
  split
  · exact h broker.locks
  · exact h (broker.locks.acquire () queue)

/-- A call that takes a message comes to what its script says. -/
theorem follows_takeNext (broker : Broker) (hbegin : broker.outages.hitsNext = false)
    (owner : TransactionId) (queue : QueueId) :
    Follows ((takeNext owner queue).run broker)
      ((Move.dequeue owner queue).script broker.clock) broker.store := by
  rw [takeNext, run_now_bind]
  refine follows_under hbegin (Script.work_dequeue owner queue _) _ fun answer _ => ?_
  cases answer <;> exact ⟨_, rfl, rfl⟩

/-- A stage of a sweep comes to what its script says. -/
theorem follows_sweep (hbegin : broker.outages.hitsNext = false) (stage : SweepStage)
    (instant : Instant) :
    Follows ((sweepStages instant [stage]).run broker)
      (Except.ok <$> Script.repair instant stage) broker.store := by
  have hrows : (fun rows => .ok (rows ++ []) :
      List (SweepStep × Nat) → Except Error (List (SweepStep × Nat))) = .ok :=
    funext fun rows => by rw [List.append_nil]
  rw [← hrows]
  exact follows_inStorage hbegin (Script.work_repair instant stage) _ fun _ _ => ⟨_, rfl, rfl⟩

/-- Every move whose storage transaction can be begun comes to what its script says. -/
theorem follows_script (move : Move) (hbegin : broker.outages.hitsNext = false) :
    Follows (move.call.run broker) (move.script broker.clock) broker.store := by
  cases move with
  | createQueue text =>
      exact follows_check fun name =>
        follows_inStorage hbegin (Script.work_addQueue name) .ok fun _ _ => ⟨_, rfl, rfl⟩
  | deleteQueue ref =>
      exact follows_check fun address =>
        follows_inStorage hbegin (Script.work_deleteQueue address) _ fun _ _ => ⟨_, rfl, rfl⟩
  | findQueue ref =>
      exact follows_check fun address => follows_work hbegin (Script.work_findQueue address)
  | listQueues => exact follows_work hbegin (Script.work_ask .listQueues)
  | start lifetime =>
      rw [Move.call, start, run_now_bind]
      exact follows_check fun expiry =>
        follows_inStorage hbegin (Script.work_ask (.insertTransaction _ expiry)) .ok
          fun _ _ => ⟨_, rfl, rfl⟩
  | findTransaction id => exact follows_work hbegin (Script.work_findTransaction id)
  | extend id lifetime =>
      rw [Move.call, extend, run_now_bind]
      exact follows_check fun expiry =>
        follows_under hbegin (Script.work_extend id expiry) _ fun _ _ => ⟨_, rfl, rfl⟩
  | commit id =>
      rw [Move.call, commit, run_now_bind]
      exact follows_under hbegin (Script.work_commit id _) _ fun _ _ => ⟨_, rfl, rfl⟩
  | rollback id reason =>
      rw [Move.call, rollback, run_now_bind]
      exact follows_under hbegin (Script.work_unwind id _ reason _) _ fun _ _ => ⟨_, rfl, rfl⟩
  | enqueue owner queue new =>
      refine follows_check fun _ => ?_
      rw [run_now_bind]
      exact follows_check fun expiry =>
        follows_under hbegin (Script.work_enqueue _) _ fun _ _ => ⟨_, rfl, rfl⟩
  | dequeue owner queue =>
      rw [Move.call, dequeue_eq]
      exact follows_holdingClaim fun locks =>
        follows_takeNext { broker with locks } hbegin owner queue
  | peek queue =>
      rw [Move.call, peek, run_now_bind]
      exact follows_work hbegin (Script.work_peek queue _)
  | findMessage id => exact follows_work hbegin (Script.work_findMessage id)
  | count queue state => exact follows_work hbegin (Script.work_count queue state)
  | stats ref =>
      exact follows_check fun address => follows_work hbegin (Script.work_stats address)
  | sweep stage instant => exact follows_sweep hbegin stage instant
  | setClock now => rfl
  | setOutages outages => rfl

end Broker

end WorkQueue
