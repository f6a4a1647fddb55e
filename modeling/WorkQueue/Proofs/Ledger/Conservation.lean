import Mathlib.Algebra.GroupWithZero.Nat
import WorkQueue.Proofs.Ledger.Deposits

/-!
# Messages are conserved

No message is lost or made twice. Over the whole history, what was added is stored, or was discarded
while it was being added, or went with its queue. And what was added to a queue that is there, under
transactions that are committed, is found in it: active, processed, expired, out of attempts, or in
the hands of a transaction that has taken it. The first is a balance that every step keeps. For the
second, deposits and messages are matched by their numbers: `messages_conserved`.
-/

namespace WorkQueue

namespace Store

/-- The number of messages that a transaction holds for an action. -/
def countHeld (store : Store) (id : TransactionId) (action : TransactionAction) : Nat :=
  store.messages.countP fun m => m.isHeldBy id action

/-- Is the transaction there, and committed? -/
def hasCommitted (store : Store) (id : TransactionId) : Bool :=
  store.transactions.any fun t => t.id = id && t.state = .committed

end Store

/-- The messages that a move discards by its answer, of those that were being added. -/
def Move.discarded : (move : Move) → Except Error move.Answer → Nat
  | .rollback _ _, .ok undone => undone.discarded
  | .sweep _ _, .ok rows => SweepReport.rowsOf rows .discardOrphanedAdds
  | _, _ => 0

/-- The messages that a move removes by its answer, with the queue that they were in. -/
def Move.removed : (move : Move) → Except Error move.Answer → Nat
  | .deleteQueue _, .ok removed => removed
  | _, _ => 0

namespace Step

/-- The messages that a call discards because it finds their transaction lapsed. The call says that
the transaction has expired, and the store tells how many there were. -/
def lapsed (step : Step) : Nat :=
  match step.move.answer step.before with
  | .error (.expired id) =>
      step.before.store.countHeld id .add - step.after.store.countHeld id .add
  | _ => 0

/-- The messages that a step discards, of those that were being added. -/
def discarded (step : Step) : Nat :=
  step.move.discarded (step.move.answer step.before) + step.lapsed

/-- The messages that a step removes with their queue. -/
def removed (step : Step) : Nat :=
  step.move.removed (step.move.answer step.before)

end Step

namespace Change

variable {store : Store}

/-- The number of messages that a change deletes. -/
def losses (change : Change) (store : Store) : Nat :=
  store.messages.countP fun m => (change.messageAfter store m).isNone

/-- A change deletes some messages and deposits some. -/
theorem length_messages_apply (change : Change) (store : Store) :
    (change.apply store).messages.length + change.losses store =
      store.messages.length + (change.deposit? store).toList.length := by
  have hnew : (change.newMessages store).length = (change.deposit? store).toList.length := by
    cases change <;> rfl
  have hlost : change.losses store =
      store.messages.countP fun m => ¬ (change.messageAfter store m).isSome := by
    refine List.countP_congr fun m _ => ?_
    cases change.messageAfter store m <;> simp
  have hsplit := store.messages.length_eq_countP_add_countP
    (fun m => (change.messageAfter store m).isSome)
  rw [apply, List.length_append, List.length_filterMap_eq_countP, hnew, hlost]
  omega

/-- A change has no losses but by dropping a queue, undoing a transaction, or repairing. -/
theorem losses_eq_zero {change : Change} (hdrop : ∀ id, change ≠ .dropQueue id)
    (hundo : ∀ id target reason now, change ≠ .undo id target reason now)
    (hrepair : ∀ now, change ≠ .repair .orphanedAdds now) : change.losses store = 0 := by
  refine List.countP_eq_zero.2 fun m _ hlost => ?_
  rcases deletion_cases (Option.isNone_iff_eq_none.1 hlost) with
    rfl | ⟨id, target, reason, now, rfl, _⟩ | ⟨now, rfl, _⟩
  · exact hdrop _ rfl
  · exact hundo id target reason now rfl
  · exact hrepair now rfl

/-- A dropped queue takes its messages with it. -/
theorem losses_dropQueue (id : QueueId) :
    (dropQueue id).losses store = store.messages.countP fun m => m.queue = id := by
  refine List.countP_congr fun m _ => ?_
  by_cases hm : m.queue = id <;> simp [messageAfter, hm]

/-- A transaction that is undone loses the messages that it was adding. -/
theorem losses_undo (id : TransactionId) (target : TransactionState) (reason : String)
    (now : Instant) : (undo id target reason now).losses store = store.countHeld id .add := by
  refine List.countP_congr fun m _ => ?_
  cases hadd : m.isHeldBy id .add <;> cases hpull : m.isHeldBy id .pull <;>
    simp [messageAfter, hadd, hpull]

/-- Of the stages of a sweep, one deletes messages. -/
theorem losses_repair (stage : SweepStage) (now : Instant) :
    (repair stage now).losses store =
      SweepReport.rowsOf (stage.repair now store).1 .discardOrphanedAdds := by
  cases stage with
  | orphanedAdds =>
      show _ = store.messages.countP (store.isOrphan .add) + 0
      refine List.countP_congr fun m _ => ?_
      cases hm : store.isOrphan .add m <;> simp [messageAfter, hm]
  | transactions | orphanedPulls | lifetimes | attempts =>
      exact losses_eq_zero (by simp) (by simp) (by simp)

/-- A transaction that is undone holds no message. -/
theorem countHeld_undo (id : TransactionId) (target : TransactionState) (reason : String)
    (now : Instant) : ((undo id target reason now).apply store).countHeld id .add = 0 := by
  refine List.countP_eq_zero.2 fun m hm => ?_
  rcases mem_messages_apply.1 hm with ⟨old, _, hkept⟩ | hnew
  · simp only [messageAfter] at hkept
    split at hkept
    · cases hkept
    · next hnot =>
        split at hkept <;> cases hkept
        · simp [Message.isHeldBy, old.owner_giveBack]
        · exact hnot
  · cases hnew

end Change

namespace Step

/-- A step that answers otherwise has not come upon a lapsed transaction. -/
theorem lapsed_of_ok {step : Step} {answer : step.move.Answer}
    (h : step.move.answer step.before = .ok answer) : step.lapsed = 0 := by
  rw [lapsed, h]

/-- A step that leaves the store alone has not come upon a lapsed transaction. -/
theorem lapsed_of_store_eq {step : Step} (h : step.after.store = step.before.store) :
    step.lapsed = 0 := by
  rw [lapsed, h]
  split
  · exact Nat.sub_self _
  · rfl

/-- What a step's change deletes is what the step discards and removes. -/
theorem losses_eq {step : Step} {change : Change}
    (hcomes : ComesTo step.before.store step.before.clock step.move
      (step.move.answer step.before) change)
    (hstore : step.after.store = change.apply step.before.store) :
    change.losses step.before.store = step.discarded + step.removed := by
  obtain ⟨before, move⟩ := step
  simp only [discarded, removed] at hcomes ⊢
  generalize hanswer : move.answer before = answer at hcomes ⊢
  have hok {given : move.Answer} (h : answer = .ok given) : lapsed ⟨before, move⟩ = 0 :=
    lapsed_of_ok (hanswer.trans h)
  have hzero := @Change.losses_eq_zero before.store change
  cases hcomes with
  | refused _ error =>
      rw [lapsed_of_store_eq (hstore.trans (Change.apply_nothing _)),
        hzero (by simp) (by simp) (by simp)]
      cases move <;> rfl
  | lapsed _ id howner =>
      have hlapsed : lapsed ⟨before, move⟩ = before.store.countHeld id .add := by
        simp only [lapsed, hanswer, hstore, Change.countHeld_undo, Nat.sub_zero]
      rw [hlapsed, Change.losses_undo]
      cases move <;> simp [Move.discarded, Move.removed]
  | looked _ answer hlook =>
      rw [hok rfl, hzero (by simp) (by simp) (by simp)]
      cases move <;> first | rfl | cases hlook
  | queueDeleted ref id =>
      rw [hok rfl, Change.losses_dropQueue]
      simp [Move.discarded, Move.removed]
  | rolledBack id reason =>
      rw [hok rfl, Change.losses_undo]
      rfl
  | repaired stage instant =>
      rw [hok rfl, Change.losses_repair]
      rfl
  | _ =>
      rw [hok rfl, hzero (by simp) (by simp) (by simp)]
      rfl

end Step

namespace Store

variable {store : Store} {books : List Deposit} {queue : QueueId}

/-- What it is for a transaction to have been committed. -/
theorem hasCommitted_iff {id : TransactionId} :
    store.hasCommitted id = true ↔
      ∃ t ∈ store.transactions, t.id = id ∧ t.state = .committed := by
  simp only [hasCommitted, List.any_eq_true, Bool.and_eq_true, decide_eq_true_eq]

/-- What was deposited in a queue that is there, under transactions that are committed, is what the
queue has in it, but for the messages that are being added. -/
theorem settled_perm (hsound : store.Sound) (hbooks : store.Books books)
    (hbarrier : ∀ d ∈ books, Barrier d.message d.owner store)
    (hqueue : (store.queue? queue).isSome) :
    ((books.filter fun d => d.queue = queue && store.hasCommitted d.owner).map
        Deposit.message).Perm
      ((store.messages.filter fun m => m.queue = queue && m.action ≠ some .add).map
        Message.id) := by
  have hdeposits := (hbooks.numbered.filter fun d =>
    d.queue = queue && store.hasCommitted d.owner).nodup_map
      fun a b (h : a.message = b.message) => congrArg MessageId.value h
  have hmessages := (hsound.numbered.messages.filter fun m =>
    m.queue = queue && m.action ≠ some .add).nodup_map
      fun a b (h : a.id = b.id) => congrArg MessageId.value h
  refine (List.perm_ext_iff_of_nodup hdeposits hmessages).2 fun id => ?_
  simp only [List.mem_map, List.mem_filter, Bool.and_eq_true, decide_eq_true_eq]
  constructor
  · rintro ⟨d, ⟨hd, rfl, hcommitted⟩, rfl⟩
    obtain ⟨t, ht, hid, hstate⟩ := hasCommitted_iff.1 hcommitted
    rcases hbooks.kept d hd with ⟨_, hnone⟩ | ⟨found, hfound, hsame, hkept⟩
    · rw [hnone] at hqueue
      cases hqueue
    · rw [hsound.numbered.transaction_eq hfound ht (hsame.trans hid.symm), hstate] at hkept
      obtain ⟨m, hm, hnumber, hplace, haction⟩ := hkept
      exact ⟨m, ⟨hm, hplace, haction⟩, hnumber⟩
  · rintro ⟨m, ⟨hm, rfl, haction⟩, rfl⟩
    obtain ⟨d, hd, hnumber, hplace⟩ := hbooks.entered m hm
    obtain ⟨t, ht, hid, htells⟩ := hbarrier d hd
    have hnot : m.isHeldBy d.owner .add = false := by
      simp [Message.isHeldBy, haction]
    have hcommitted := (htells.told m hm hnumber.symm).committed_of_not_held hnot
    exact ⟨d, ⟨hd, hplace, hasCommitted_iff.2 ⟨t, ht, hid, hcommitted⟩⟩, hnumber⟩

end Store

/-- Messages that are not being added are counted by their states, and by who has taken them. -/
theorem countP_settled {messages : List Message} (h : ∀ m ∈ messages, m.Coupled)
    (queue : QueueId) :
    messages.countP (fun m => m.queue = queue && m.action ≠ some .add) =
      messages.countP (fun m => m.queue = queue && m.state = .active) +
      messages.countP (fun m => m.queue = queue && m.state = .processed) +
      messages.countP (fun m => m.queue = queue && m.state = .expired) +
      messages.countP (fun m => m.queue = queue && m.state = .attemptsExceeded) +
      messages.countP (fun m => m.queue = queue && m.isTaken) := by
  induction messages with
  | nil => rfl
  | cons m rest ih =>
      have haction := (h m List.mem_cons_self).action_iff
      simp only [List.countP_cons, ih fun other hother => h other (List.mem_cons_of_mem m hother)]
      by_cases hqueue : m.queue = queue
      · cases hstate : m.state with
        | inTransaction =>
            cases hheld : m.action with
            | none => simp [hheld, hstate] at haction
            | some action =>
                cases action <;>
                  simp [hqueue, hstate, hheld, Message.isTaken, Nat.add_assoc]
        | active | processed | expired | attemptsExceeded =>
            have hfree : m.action = none := by simpa [hstate] using haction
            simp [hqueue, hstate, hfree, Message.isTaken]
            omega
      · simp [hqueue]

namespace Broker

/-- After every run what was deposited is stored, or was discarded or removed. -/
theorem play_balance (broker : Broker) (moves : List Move) :
    (deposits (trace moves broker.emptied)).length =
      (play moves broker.emptied).store.messages.length +
        ((trace moves broker.emptied).map Step.discarded).sum +
        ((trace moves broker.emptied).map Step.removed).sum := by
  refine play_invariant (fun steps broker => (deposits steps).length =
    broker.store.messages.length + (steps.map Step.discarded).sum +
      (steps.map Step.removed).sum) rfl ?_ moves
  intro steps before move h
  obtain ⟨change, _, hcomes, hstore⟩ := Step.explained ⟨before, move⟩
  have hlength := change.length_messages_apply before.store
  have hlosses : change.losses before.store =
      Step.discarded ⟨before, move⟩ + Step.removed ⟨before, move⟩ := Step.losses_eq hcomes hstore
  replace hstore : (move.after before).store = change.apply before.store := hstore
  rw [deposits_append_singleton, Step.deposit?, hcomes.deposit_eq, hstore]
  simp only [List.length_append, List.map_append, List.sum_append, List.map_singleton,
    List.sum_singleton]
  omega

/-- After every run the messages that were added are those that are stored, that were discarded
while they were being added (by rollbacks, by calls under lapsed transactions, and by sweeps), and
that were removed with their queues; and of every queue that is there the messages that were added
under transactions that are committed are those that the queue counts as active, processed, expired
or out of attempts, and those that transactions have taken from it. -/
theorem messages_conserved (broker : Broker) (moves : List Move) :
    let steps := trace moves broker.emptied
    let store := (play moves broker.emptied).store
    (deposits steps).length =
        store.messages.length + (steps.map Step.discarded).sum + (steps.map Step.removed).sum ∧
      ∀ queue, (store.queue? queue).isSome →
        (deposits steps).countP (fun d => d.queue = queue && store.hasCommitted d.owner) =
          store.countMessages queue (some .active) + store.countMessages queue (some .processed) +
          store.countMessages queue (some .expired) +
          store.countMessages queue (some .attemptsExceeded) +
          store.messages.countP (fun m => m.queue = queue && m.isTaken) := by
  intro steps store
  have hsound : store.Sound := play_sound broker moves
  have hbarrier : ∀ d ∈ deposits steps, Barrier d.message d.owner store := by
    intro d hd
    obtain ⟨step, hstep, hdeposit⟩ := List.mem_filterMap.1 hd
    exact play_barrier broker moves step hstep _ _ (Step.addition_of_deposit hdeposit)
  refine ⟨play_balance broker moves, fun queue hqueue => ?_⟩
  have hperm := Store.settled_perm hsound (play_books broker moves) hbarrier hqueue
  have hlength := hperm.length_eq
  rw [List.length_map, List.length_map, ← List.countP_eq_length_filter,
    ← List.countP_eq_length_filter] at hlength
  rw [hlength]
  exact countP_settled hsound.coupled.messages queue

end Broker

end WorkQueue
