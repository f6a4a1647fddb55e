import WorkQueue.Proofs.Run.Calls
import WorkQueue.Proofs.Run.Clock
import WorkQueue.Proofs.Store.Coupling

/-!
# What sending a message comes to

Sending a message takes three storage transactions: its transaction is started, the message is
added, and the transaction is committed, or rolled back if the message could not be added. Each of
them can fail. `Service.sendsTo` says what the store is then: the one before with the transaction
and the message behind its rows, or with what is left of them. Whatever happens, rows that were
there stay as they were, since nothing in them belongs to a transaction that is new. When nothing is
in the way, the message is sent: `Service.CanSend.answer`.
-/

namespace WorkQueue

/-- The store with further rows, numbered on. -/
def Store.plus (store : Store) (opened : List Transaction) (added : List Message) : Store :=
  { store with
    transactions := store.transactions ++ opened
    messages := store.messages ++ added
    lastTransaction := store.lastTransaction + opened.length
    lastMessage := store.lastMessage + added.length }

/-- Without further rows it is the same store. -/
theorem Store.plus_nil (store : Store) : store.plus [] [] = store := by
  simp [plus]

/-- The row of the next transaction that is started. -/
def Store.opening (store : Store) (now expiry : Instant) : Transaction :=
  ⟨⟨store.lastTransaction + 1⟩, .active, now, expiry, none, none⟩

namespace Change

variable {store : Store} {change : Change}

/-- A change that does not touch the rows of a store changes the rows behind them. -/
theorem apply_plus {opened closed : List Transaction} {added left : List Message}
    (hkeeps : ∀ queue, change.keepsQueue queue = true)
    (hqueues : ∀ store, change.newQueues store = [])
    (hnew : ∀ store, change.newTransactions store = [])
    (hadds : ∀ store, change.newMessages store = [])
    (htransactions : ∀ t ∈ store.transactions, change.transactionAfter t = t)
    (hmessages : ∀ m ∈ store.messages,
      change.messageAfter (store.plus opened added) m = some m)
    (hclosed : opened.map change.transactionAfter = closed)
    (hleft : added.filterMap (change.messageAfter (store.plus opened added)) = left)
    (hlength : left.length = added.length) :
    change.apply (store.plus opened added) = store.plus closed left := by
  have hold : store.transactions.map change.transactionAfter = store.transactions :=
    (List.map_congr_left htransactions).trans (List.map_id' _)
  have hkept : store.messages.filterMap (change.messageAfter (store.plus opened added)) =
      store.messages := by
    rw [List.filterMap_congr hmessages, List.filterMap_some]
  rw [apply_of_no_new hkeeps (hqueues _) (hnew _) (hadds _)]
  simp only [Store.plus, List.map_append, List.filterMap_append] at hkept hleft ⊢
  rw [hold, hkept, hclosed, hleft, ← hclosed, List.length_map, hlength]

variable {now expiry : Instant}

/-- Starting a transaction puts its row behind the others. -/
theorem apply_start (store : Store) (now expiry : Instant) :
    (start now expiry).apply store = store.plus [store.opening now expiry] [] := by
  rw [apply_of_no_loss (fun _ => rfl) (fun _ => rfl) (fun _ => rfl)]
  simp [newQueues, newTransactions, newMessages, Store.plus, Store.opening]

/-- Adding a message puts its row behind the others. -/
theorem apply_add (store : Store) (opened : List Transaction) (draft : MessageDraft) :
    (add draft).apply (store.plus opened []) =
      store.plus opened [draft.row ⟨store.lastMessage + 1⟩] := by
  rw [apply_of_no_loss (fun _ => rfl) (fun _ => rfl) (fun _ => rfl)]
  simp [newQueues, newTransactions, newMessages, Store.plus]

/-- No transaction that was there has the number of the next. -/
theorem id_ne_opening (hnumbered : store.Numbered) {t : Transaction}
    (ht : t ∈ store.transactions) : t.id ≠ (store.opening now expiry).id := by
  rintro hsame
  have hle := hnumbered.transactions.le_last t ht
  rw [hsame] at hle
  exact Nat.not_succ_le_self _ hle

/-- No message that was there is held by the next transaction. -/
theorem not_isHeldBy_opening (hsound : store.Sound) {m : Message} (hm : m ∈ store.messages)
    (action : TransactionAction) :
    m.isHeldBy (store.opening now expiry).id action = false := by
  rw [Bool.eq_false_iff]
  intro hheld
  obtain ⟨t, ht, hid, _⟩ := hsound.coupled.owners m hm _ (Message.isHeldBy_iff.1 hheld).1
  exact id_ne_opening hsound.numbered ht hid

/-- Committing the new transaction closes it and lets its message go. -/
theorem apply_commit_plus (hsound : store.Sound) {row : Message}
    (hrow : row.isHeldBy (store.opening now expiry).id .add = true) :
    (commit (store.opening now expiry).id now).apply
        (store.plus [store.opening now expiry] [row]) =
      store.plus [(store.opening now expiry).close .committed now committedReason]
        [row.moveTo .active now] := by
  refine apply_plus (fun _ => rfl) (fun _ => rfl) (fun _ => rfl) (fun _ => rfl) ?_ ?_ ?_ ?_ rfl
  · intro t ht
    simp [transactionAfter, id_ne_opening hsound.numbered ht]
  · intro m hm
    simp [messageAfter, not_isHeldBy_opening hsound hm]
  · simp [transactionAfter, Transaction.isActive, Store.opening]
  · simp [messageAfter, hrow]

/-- Undoing the new transaction closes it. -/
theorem apply_undo_plus (hsound : store.Sound) {target : TransactionState} (reason : String) :
    (undo (store.opening now expiry).id target reason now).apply
        (store.plus [store.opening now expiry] []) =
      store.plus [(store.opening now expiry).close target now reason] [] := by
  refine apply_plus (fun _ => rfl) (fun _ => rfl) (fun _ => rfl) (fun _ => rfl) ?_ ?_ ?_ rfl rfl
  · intro t ht
    simp [transactionAfter, id_ne_opening hsound.numbered ht]
  · intro m hm
    simp [messageAfter, not_isHeldBy_opening hsound hm]
  · simp [transactionAfter, Transaction.isActive, Store.opening]

end Change

/-- A minute has not passed when it begins. -/
theorem Broker.not_le_of_expiryAfter {now expiry : Instant}
    (hexpiry : expiryAfter now (Duration.ofSeconds 60) = .ok expiry) : ¬ expiry ≤ now := by
  have hlater : now.second < (now.shift (Duration.ofSeconds 60)).second := by
    have hlong : 1_000_000_000 ≤ (Duration.ofSeconds 60).nanos := by decide
    unfold Instant.shift
    split
    · simp only [Instant.ofSinceEpoch, Instant.sinceEpoch, Duration.ofSeconds]
      omega
    · rw [if_pos (.inl hlong)]
      simp only [Instant.ofSinceEpoch, Instant.sinceEpoch, Duration.ofSeconds]
      omega
  have hshift : expiry = now.shift (Duration.ofSeconds 60) := by
    simp only [expiryAfter, Instant.shift?] at hexpiry
    split at hexpiry
    · cases hexpiry
    · split at hexpiry
      · next hmoved =>
          split at hmoved
          · cases hmoved; cases hexpiry; rfl
          · cases hmoved
      · cases hexpiry
  rw [hshift, Instant.le_iff]
  omega

namespace Store

variable {store : Store} {now expiry : Instant}

/-- The new transaction is found by its number. -/
theorem transaction?_plus (hnumbered : store.Numbered) (added : List Message) :
    (store.plus [store.opening now expiry] added).transaction? (store.opening now expiry).id =
      some (store.opening now expiry) := by
  have hnone : store.transactions.find? (fun t => t.id = (store.opening now expiry).id) = none := by
    refine List.find?_eq_none.2 fun t ht => ?_
    simpa using Change.id_ne_opening hnumbered ht
  rw [transaction?, plus, List.find?_append, hnone]
  simp

/-- The new transaction is open until its time. -/
theorem isOpen_plus (hnumbered : store.Numbered) (hlater : ¬ expiry ≤ now)
    (added : List Message) :
    (store.plus [store.opening now expiry] added).IsOpen (store.opening now expiry).id now :=
  ⟨store.opening now expiry, transaction?_plus hnumbered added, rfl, decide_eq_false hlater⟩

end Store

/-- The row of a message that is added under the next transaction. -/
def Store.adding (store : Store) (now expiry : Instant) (lives : Option Instant) (queue : QueueId)
    (new : NewMessage) : Message :=
  (new.draft queue (store.opening now expiry).id now lives).row ⟨store.lastMessage + 1⟩

namespace Move

variable {broker : Broker} {store : Store} {expiry : Instant}

/-- Starting a transaction fails and does nothing, or puts a row behind the others. -/
theorem start_cases (lifetime : Duration) (broker : Broker) :
    (∃ error after, (Broker.start lifetime).run broker = (.error error, after) ∧
      after.store = broker.store) ∨
      ∃ expiry after, Broker.expiryAfter broker.clock lifetime = .ok expiry ∧
        (Broker.start lifetime).run broker =
          (.ok (broker.store.opening broker.clock expiry).id, after) ∧
        after.store = broker.store.plus [broker.store.opening broker.clock expiry] [] ∧
        after.clock = broker.clock := by
  have hclock := (Move.start lifetime).clock_after broker
  obtain ⟨change, _, hcomes, hstore⟩ := (Move.start lifetime).explained broker
  rw [after] at hclock
  rcases hrun : (Move.start lifetime).call.run broker with ⟨answer, after⟩
  rw [hrun] at hclock hcomes hstore
  cases hcomes with
  | refused _ error => exact .inl ⟨error, after, hrun, hstore.trans (Change.apply_nothing _)⟩
  | looked _ _ hlook => cases hlook
  | lapsed _ _ howner => cases howner
  | started _ expiry hexpiry =>
      exact .inr ⟨expiry, after, hexpiry, hrun, hstore.trans (Change.apply_start _ _ _), hclock⟩

/-- A call under a transaction that has not lapsed fails and does nothing, or answers. -/
theorem cases_of_not_lapsed {move : Move} {id : TransactionId} (howner : move.owner? = some id)
    (hlapsed : ¬ broker.store.HasLapsed id broker.clock) :
    (∃ error after, move.call.run broker = (.error error, after) ∧ after.store = broker.store ∧
      after.clock = move.clock?.getD broker.clock) ∨
      ∃ answer after change, move.call.run broker = (.ok answer, after) ∧
        ComesTo broker.store broker.clock move (.ok answer) change ∧
        after.store = change.apply broker.store ∧
        after.clock = move.clock?.getD broker.clock := by
  have hclock := move.clock_after broker
  obtain ⟨change, hallowed, hcomes, hstore⟩ := move.explained broker
  rw [after] at hclock
  rcases hrun : move.call.run broker with ⟨error | answer, after⟩
  all_goals rw [hrun] at hclock hcomes hstore
  · refine .inl ⟨error, after, rfl, ?_, hclock⟩
    cases hcomes with
    | refused => exact hstore.trans (Change.apply_nothing _)
    | lapsed _ other hother =>
        cases howner.symm.trans hother
        rcases hallowed with ⟨htarget, _⟩ | ⟨_, _, hpast⟩
        · cases htarget
        · exact absurd hpast hlapsed
  · exact .inr ⟨answer, after, change, rfl, hcomes, hstore, hclock⟩

end Move

namespace Broker

variable {broker : Broker} {owner : TransactionId} {queue : QueueId} {new : NewMessage}
  {expiry : Instant} {lives : Option Instant}

/-- A transaction is started when a number is free. -/
theorem exists_run_start {lifetime : Duration} (hbegin : broker.outages.hitsNext = false)
    (hexpiry : expiryAfter broker.clock lifetime = .ok expiry)
    (hnumber : broker.store.lastTransaction + 1 < half64) :
    ∃ after, (start lifetime).run broker =
        (.ok (broker.store.opening broker.clock expiry).id, after) ∧
      after.store = broker.store.plus [broker.store.opening broker.clock expiry] [] ∧
        after.clock = broker.clock ∧ after.outages = broker.outages.pass := by
  have hallowed : (Change.start broker.clock expiry).Allowed broker.store := hnumber
  rw [start, run_now_bind, run_bind_of_ok (run_check_of_ok hexpiry),
    run_bind_of_ok (run_inStorage_of_ok hbegin (Work.run_insertTransaction_of_allowed hallowed))]
  exact ⟨_, rfl, Change.apply_start _ _ _, rfl, rfl⟩

/-- A message is added under an open transaction when its queue is there and a number is free. -/
theorem exists_run_enqueue (hbegin : broker.outages.hitsNext = false)
    (hcheck : new.check = .ok ()) (hlives : messageExpiry new broker.clock = .ok lives)
    (hallowed : (Change.add (new.draft queue owner broker.clock lives)).Allowed broker.store) :
    ∃ after, (enqueue owner queue new).run broker =
        (.ok ⟨broker.store.lastMessage + 1⟩, after) ∧
      after.store =
          (Change.add (new.draft queue owner broker.clock lives)).apply broker.store ∧
        after.clock = broker.clock ∧ after.outages = broker.outages.pass := by
  have hopen : broker.store.IsOpen owner broker.clock := hallowed.2.1
  rw [enqueue, run_bind_of_ok (run_check_of_ok hcheck), run_now_bind,
    run_bind_of_ok (run_check_of_ok hlives),
    run_bind_of_ok (run_under_of_ok hbegin hopen (Work.run_enqueue_of_allowed hallowed))]
  exact ⟨_, rfl, rfl, rfl, rfl⟩

/-- A message that was added had no fault in it, and could be added. -/
theorem allowed_of_run_enqueue {id : MessageId} {after : Broker}
    (h : (enqueue owner queue new).run broker = (.ok id, after)) :
    new.check = .ok () ∧ ∃ lives, messageExpiry new broker.clock = .ok lives ∧
      (Change.add (new.draft queue owner broker.clock lives)).Allowed broker.store := by
  obtain ⟨change, hallowed, hcomes, _⟩ := (Move.enqueue owner queue new).explained broker
  rw [Move.call, h] at hcomes
  cases hcomes with
  | looked _ _ hlook => cases hlook
  | added _ _ _ lives hlives =>
      refine ⟨?_, lives, hlives, hallowed⟩
      cases hcheck : new.check with
      | ok _ => rfl
      | error error =>
          rw [enqueue, run_bind_of_error (run_check_of_error hcheck)] at h
          cases h

/-- An open transaction is committed. -/
theorem exists_run_commit (hbegin : broker.outages.hitsNext = false)
    (hopen : broker.store.IsOpen owner broker.clock) :
    ∃ summary after, (commit owner).run broker = (.ok summary, after) := by
  rw [commit, run_now_bind, run_bind_of_ok (run_under_of_ok hbegin hopen (Work.run_commit hopen))]
  exact ⟨_, _, rfl⟩

end Broker

namespace Service

open Broker

/-- What sending a message can come to: the answer, and the store that is left. -/
inductive SendsTo (store : Store) (now : Instant) (queue : QueueId) (new : NewMessage) :
    Except Fault MessageId → Store → Prop where
  /-- The transaction was not started. -/
  | unstarted (fault : Fault) : SendsTo store now queue new (.error fault) store
  /-- The message was not added, and the transaction was rolled back. -/
  | rolledBack (fault : Fault) (expiry : Instant) :
      expiryAfter now (.ofSeconds 60) = .ok expiry →
      SendsTo store now queue new (.error fault)
        (store.plus [(store.opening now expiry).close .rolledBack now "enqueue failed"] [])
  /-- The message was not added, and the transaction was not rolled back either. -/
  | leftOpen (fault : Fault) (expiry : Instant) :
      expiryAfter now (.ofSeconds 60) = .ok expiry →
      SendsTo store now queue new (.error fault) (store.plus [store.opening now expiry] [])
  /-- The message was added, and the transaction was not committed. -/
  | uncommitted (fault : Fault) (expiry : Instant) (lives : Option Instant) :
      expiryAfter now (.ofSeconds 60) = .ok expiry → messageExpiry new now = .ok lives →
      SendsTo store now queue new (.error fault)
        (store.plus [store.opening now expiry] [store.adding now expiry lives queue new])
  /-- The message was added, and the transaction was committed. -/
  | sent (expiry : Instant) (lives : Option Instant) :
      expiryAfter now (.ofSeconds 60) = .ok expiry → messageExpiry new now = .ok lives →
      SendsTo store now queue new (.ok ⟨store.lastMessage + 1⟩)
        (store.plus [(store.opening now expiry).close .committed now committedReason]
          [(store.adding now expiry lives queue new).moveTo .active now])

variable {store : Store} {expiry : Instant} {broker : Broker} {queue : QueueId} {new : NewMessage}
  {owner : TransactionId}

/-- A message that could not be added leaves its transaction rolled back, or open. -/
theorem sendsTo_undone (hsound : store.Sound)
    (hexpiry : expiryAfter broker.clock (.ofSeconds 60) = .ok expiry)
    (howner : (store.opening broker.clock expiry).id = owner)
    (hopen : broker.store = store.plus [store.opening broker.clock expiry] []) (fault : Fault) :
    SendsTo store broker.clock queue new (.error fault)
      ((Move.rollback owner "enqueue failed").after broker).store := by
  have hlapsed : ¬ broker.store.HasLapsed owner broker.clock := by
    rw [hopen, ← howner]
    exact (Store.isOpen_plus hsound.numbered (not_le_of_expiryAfter hexpiry) []).not_hasLapsed
  rcases Move.cases_of_not_lapsed
    (rfl : (Move.rollback owner "enqueue failed").owner? = some owner) hlapsed with
    ⟨error, after, hrun, hleft, _⟩ | ⟨undone, after, change, hrun, hcomes, hleft, _⟩
  · rw [Move.after, hrun, hleft, hopen]
    exact .leftOpen fault expiry hexpiry
  · rw [Move.after, hrun, hleft, hopen]
    cases hcomes with
    | looked _ _ hlook => cases hlook
    | rolledBack =>
        rw [← howner, Change.apply_undo_plus hsound]
        exact .rolledBack fault expiry hexpiry

/-- A message that was added is sent when its transaction can be committed. -/
theorem sendsTo_added (hsound : store.Sound) {lives : Option Instant}
    (hexpiry : expiryAfter broker.clock (.ofSeconds 60) = .ok expiry)
    (hlives : messageExpiry new broker.clock = .ok lives)
    (howner : (store.opening broker.clock expiry).id = owner)
    (hadded : broker.store = store.plus [store.opening broker.clock expiry]
      [store.adding broker.clock expiry lives queue new]) {result : Except Fault MessageId × Broker}
    (hresult : (reply (Broker.commit owner) >>= fun _ =>
      pure ⟨store.lastMessage + 1⟩ : Reply MessageId).run broker = result) :
    SendsTo store broker.clock queue new result.1 result.2.store := by
  have hlapsed : ¬ broker.store.HasLapsed owner broker.clock := by
    rw [hadded, ← howner]
    exact (Store.isOpen_plus hsound.numbered (not_le_of_expiryAfter hexpiry) _).not_hasLapsed
  rcases Move.cases_of_not_lapsed (rfl : (Move.commit owner).owner? = some owner) hlapsed with
    ⟨error, after, hrun, hleft, _⟩ | ⟨summary, after, change, hrun, hcomes, hleft, _⟩
  · replace hrun : (Broker.commit owner).run broker = (.error error, after) := hrun
    rw [← hresult, run_bind_of_error (run_reply_of_error hrun)]
    show SendsTo _ _ _ _ _ after.store
    rw [hleft, hadded]
    exact .uncommitted _ expiry lives hexpiry hlives
  · replace hrun : (Broker.commit owner).run broker = (.ok summary, after) := hrun
    rw [← hresult, run_bind_of_ok (run_reply_of_ok hrun)]
    show SendsTo _ _ _ _ _ after.store
    rw [hleft, hadded]
    cases hcomes with
    | looked _ _ hlook => cases hlook
    | committed =>
        rw [← howner, Change.apply_commit_plus hsound]
        · exact .sent expiry lives hexpiry hlives
        · exact Message.isHeldBy_iff.2 ⟨rfl, rfl, rfl⟩

/-- Sending a message comes to one of these. -/
theorem sendsTo (hsound : broker.store.Sound) (queue : QueueId) (new : NewMessage) :
    SendsTo broker.store broker.clock queue new ((send queue new).run broker).1
      ((send queue new).run broker).2.store := by
  rw [send]
  rcases Move.start_cases (Duration.ofSeconds 60) broker with
    ⟨error, begun, hstart, hstore⟩ | ⟨expiry, begun, hexpiry, hstart, hopened, hclock⟩
  · rw [run_bind_of_error (run_reply_of_error hstart)]
    show SendsTo _ _ _ _ _ begun.store
    rw [hstore]
    exact .unstarted _
  rw [run_bind_of_ok (run_reply_of_ok hstart)]
  generalize howner : (broker.store.opening broker.clock expiry).id = owner
  have hlapsed : ¬ begun.store.HasLapsed owner begun.clock := by
    rw [hopened, hclock, ← howner]
    exact (Store.isOpen_plus hsound.numbered (not_le_of_expiryAfter hexpiry) []).not_hasLapsed
  rcases Move.cases_of_not_lapsed (rfl : (Move.enqueue owner queue new).owner? = some owner)
    hlapsed with
    ⟨error, filled, hadd, hsame, hstill⟩ | ⟨id, filled, change, hadd, hcomes, hfilled, hstill⟩
  · replace hadd : (Broker.enqueue owner queue new).run begun = (.error error, filled) := hadd
    replace hstill : filled.clock = broker.clock := hstill.trans hclock
    obtain ⟨last, hundo⟩ := exists_run_undo owner error filled
    rw [(run_lift_bind hadd).trans hundo, ← hstill]
    rw [← hstill] at hexpiry hopened howner
    exact sendsTo_undone hsound hexpiry howner (hsame.trans hopened) _
  · replace hadd : (Broker.enqueue owner queue new).run begun = (.ok id, filled) := hadd
    replace hstill : filled.clock = broker.clock := hstill.trans hclock
    rw [run_lift_bind hadd]
    cases hcomes with
    | looked _ _ hlook => cases hlook
    | added _ _ _ lives hlives =>
        have hnumber : begun.store.lastMessage = broker.store.lastMessage := by
          rw [hopened]
          rfl
        rw [hopened, hclock, ← howner, Change.apply_add] at hfilled
        rw [hclock] at hlives
        rw [← hstill] at hexpiry hlives howner hfilled ⊢
        rw [hnumber]
        exact sendsTo_added hsound hexpiry hlives howner hfilled rfl

/-- Is there nothing in the way of sending the message? -/
structure CanSend (broker : Broker) (queue : QueueId) (new : NewMessage) : Prop where
  queue_found : (broker.store.queue? queue).isSome
  checked : new.check = .ok ()
  ends : ∃ expiry, expiryAfter broker.clock (.ofSeconds 60) = .ok expiry
  lives : ∃ lives, messageExpiry new broker.clock = .ok lives
  transactions_left : broker.store.lastTransaction + 1 < half64
  messages_left : broker.store.lastMessage + 1 < half64
  begins : broker.outages.hitsNext = false ∧ broker.outages.pass.hitsNext = false ∧
    broker.outages.pass.pass.hitsNext = false

/-- A message is sent when there is nothing in the way. -/
theorem CanSend.answer (h : CanSend broker queue new) (hsound : broker.store.Sound) :
    ((send queue new).run broker).1 = .ok ⟨broker.store.lastMessage + 1⟩ := by
  obtain ⟨hfirst, hsecond, hthird⟩ := h.begins
  obtain ⟨expiry, hexpiry⟩ := h.ends
  obtain ⟨lives, hlives⟩ := h.lives
  obtain ⟨begun, hstart, hopened, hclock, houtages⟩ :=
    exists_run_start hfirst hexpiry h.transactions_left
  have hopen := Store.isOpen_plus hsound.numbered (not_le_of_expiryAfter hexpiry) []
  rw [← hopened] at hopen
  have hallowed : (Change.add (new.draft queue (broker.store.opening broker.clock expiry).id
      begun.clock lives)).Allowed begun.store := by
    refine ⟨?_, hclock ▸ hopen, NewMessage.maxAttempts_pos h.checked, ?_⟩
    · rw [hopened]
      exact h.queue_found
    · rw [hopened]
      exact h.messages_left
  obtain ⟨filled, hadd, hadded, hclock', houtages'⟩ := exists_run_enqueue
    (by rw [houtages]; exact hsecond) h.checked (by rw [hclock]; exact hlives) hallowed
  have hstill : filled.store.IsOpen (broker.store.opening broker.clock expiry).id filled.clock := by
    rw [hadded, hopened, Change.apply_add, hclock', hclock]
    exact Store.isOpen_plus hsound.numbered (not_le_of_expiryAfter hexpiry) _
  obtain ⟨summary, after, hcommit⟩ :=
    exists_run_commit (by rw [houtages', houtages]; exact hthird) hstill
  have hnumber : begun.store.lastMessage = broker.store.lastMessage := by
    rw [hopened]
    rfl
  rw [send, run_bind_of_ok (run_reply_of_ok hstart), ← hnumber]
  refine (congrArg Prod.fst (run_lift_bind hadd)).trans ?_
  exact congrArg Prod.fst (run_bind_of_ok (run_reply_of_ok hcommit))

end Service

end WorkQueue
