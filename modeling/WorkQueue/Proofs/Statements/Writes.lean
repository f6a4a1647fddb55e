import WorkQueue.Proofs.Delivery.Ranking
import WorkQueue.Proofs.Statements.Schema

/-!
# Statements write by write

A statement asks the tables for one write, for two, or for none, and the tables refuse a write that
would break their rules: `Landed`. Nobody else looks after the store: any statement may come next,
with any arguments. Even so messages keep more than the tables ask for. A message has a close time
exactly when it is at the end of its life, it has had no more attempts than it may have, and one
that has been taken has an attempt left.

A statement of two writes is never refused its second, and nothing but the first write of a
statement is ever refused: `Statement.exists_course`. Which statements fail is seen from the rows
alone.
-/

namespace WorkQueue

/-- What every statement keeps of a message, though the tables have no rule for it. -/
structure Message.Regular (m : Message) : Prop where
  closeTime_iff : m.closeTime.isSome = true ↔ m.state.isTerminal = true
  attempts_le : m.attempts ≤ m.maxAttempts
  attempts_lt : m.action = some .pull → m.attempts < m.maxAttempts

namespace Message.Regular

variable {m : Message} (h : m.Regular)
include h

/-- A message that is not at its end has no close time. -/
theorem closeTime_eq_none (hstate : m.state.isTerminal = false) : m.closeTime = none := by
  cases hclosed : m.closeTime with
  | none => rfl
  | some instant => cases hstate.symm.trans (h.closeTime_iff.1 (by simp [hclosed]))

/-- An active message that has an attempt left may be taken. -/
theorem take {owner : TransactionId} (hstate : m.state = .active)
    (hattempts : m.attempts < m.maxAttempts) : (m.take owner).Regular where
  closeTime_iff := by
    have hopen := h.closeTime_eq_none (by rw [hstate]; rfl)
    simp [Message.take, hopen, MessageState.isTerminal]
  attempts_le := h.attempts_le
  attempts_lt _ := hattempts

/-- A message may be moved to any state. -/
theorem moveTo (target : MessageState) (now : Instant) : (m.moveTo target now).Regular where
  closeTime_iff := by
    cases hterminal : target.isTerminal <;> simp [Message.moveTo, hterminal]
  attempts_le := h.attempts_le
  attempts_lt := nofun

/-- A message that has been taken may be given back for the last time. -/
theorem exhaust (haction : m.action = some .pull) (now : Instant) : (m.exhaust now).Regular where
  closeTime_iff := by simp [Message.exhaust, MessageState.isTerminal]
  attempts_le := h.attempts_lt haction
  attempts_lt := nofun

/-- A message that has been taken may be given back. -/
theorem requeue (haction : m.action = some .pull) (hstate : m.state = .inTransaction) :
    m.requeue.Regular where
  closeTime_iff := by
    have hopen := h.closeTime_eq_none (by rw [hstate]; rfl)
    simp [Message.requeue, hopen, MessageState.isTerminal]
  attempts_le := h.attempts_lt haction
  attempts_lt := nofun

/-- A message may be closed. -/
theorem close {target : MessageState} (htarget : target.isTerminal = true) (now : Instant) :
    (m.close target now).Regular where
  closeTime_iff := by simp [Message.close, htarget]
  attempts_le := h.attempts_le
  attempts_lt := h.attempts_lt

end Message.Regular

/-- A message is regular when it is stored, however few attempts it may have. -/
theorem MessageDraft.regular_row (draft : MessageDraft) (id : MessageId) :
    (draft.row id).Regular where
  closeTime_iff := by simp [row, MessageState.isTerminal]
  attempts_le := Nat.zero_le _
  attempts_lt := nofun

/-- Storing a message adds its row. -/
theorem Change.apply_add_eq (draft : MessageDraft) (store : Store) :
    (Change.add draft).apply store =
      { store with
        messages := store.messages ++ [draft.row ⟨store.lastMessage + 1⟩]
        lastMessage := store.lastMessage + 1 } := by
  rw [apply_of_no_loss (fun _ => rfl) (fun _ => rfl) fun _ => rfl]
  simp [newQueues, newTransactions, newMessages]

namespace Store

/-- Do the tables accept these rows? They are lawful, and the numbers given out fit in 64 bits with
a sign. -/
structure Valid (store : Store) : Prop where
  lawful : store.Lawful
  lastQueue_lt : store.lastQueue < half64
  lastTransaction_lt : store.lastTransaction < half64
  lastMessage_lt : store.lastMessage < half64

/-- Are the rows accepted, and all messages regular? -/
structure Proper (store : Store) : Prop where
  valid : store.Valid
  regular : ∀ m ∈ store.messages, m.Regular

/-- The empty store is proper. -/
theorem proper_empty : Proper {} where
  valid :=
    have hroom : 0 < half64 := by decide
    ⟨sound_empty.lawful named_empty, hroom, hroom, hroom⟩
  regular m hm := by cases hm

namespace Proper

variable {store : Store} (h : store.Proper)
include h

/-- Messages may change if their rows stay lawful and regular and keep their numbers. -/
theorem updateMessages {selected : Message → Bool} {change : Message → Message}
    (hid : ∀ m, (change m).id = m.id)
    (hchange : ∀ m ∈ store.messages, selected m = true →
      (change m).Lawful store.queues store.transactions ∧ (change m).Regular) :
    (store.updateMessages selected change).2.Proper where
  valid :=
    { h.valid with
      lawful := h.valid.lawful.updateMessages hid fun m hm hsel => (hchange m hm hsel).1 }
  regular kept hkept := by
    obtain ⟨m, hm, rfl⟩ := List.mem_map.1 hkept
    split
    · next hselected => exact (hchange m hm hselected).2
    · exact h.regular m hm

/-- Messages may go. -/
theorem removeMessages (selected : Message → Bool) : (store.removeMessages selected).2.Proper where
  valid := { h.valid with lawful := h.valid.lawful.removeMessages selected }
  regular m hm := h.regular m (List.mem_filter.1 hm).1

/-- Transactions may change as long as they keep their numbers. -/
theorem updateTransactions {selected : Transaction → Bool} {change : Transaction → Transaction}
    (hid : ∀ t, (change t).id = t.id) : (store.updateTransactions selected change).2.Proper where
  valid := { h.valid with lawful := h.valid.lawful.updateTransactions hid }
  regular := h.regular

/-- A queue may go, if its messages go with it. -/
theorem deleteQueue (id : QueueId) : (store.deleteQueue id).2.Proper where
  valid := { h.valid with lawful := h.valid.lawful.deleteQueue id }
  regular m hm := h.regular m (List.mem_filter.1 hm).1

/-- A queue may be added whose name no other has. -/
theorem addQueue {name : QueueName} (hallowed : (Change.addQueue name).Allowed store) :
    ((Change.addQueue name).apply store).Proper := by
  have hlawful := h.valid.lawful.addQueue hallowed.1
  rw [Change.apply_of_no_loss (fun _ => rfl) (fun _ => rfl) fun _ => rfl] at hlawful ⊢
  exact ⟨⟨hlawful, hallowed.2, h.valid.lastTransaction_lt, h.valid.lastMessage_lt⟩,
    by simpa [Change.newMessages] using h.regular⟩

/-- A transaction may be added. -/
theorem addTransaction {now expiry : Instant} (hallowed : (Change.start now expiry).Allowed store) :
    ((Change.start now expiry).apply store).Proper := by
  have hlawful := h.valid.lawful.addTransaction now expiry
  rw [Change.apply_of_no_loss (fun _ => rfl) (fun _ => rfl) fun _ => rfl] at hlawful ⊢
  exact ⟨⟨hlawful, h.valid.lastQueue_lt, hallowed, h.valid.lastMessage_lt⟩,
    by simpa [Change.newMessages] using h.regular⟩

/-- A message may be stored in a queue and under a transaction that are there. -/
theorem addMessage {draft : MessageDraft} (hqueue : ∃ queue ∈ store.queues, queue.id = draft.queue)
    (howner : ∃ t ∈ store.transactions, t.id = draft.owner)
    (hnumber : store.lastMessage + 1 < half64) : ((Change.add draft).apply store).Proper := by
  have hrow : (draft.row ⟨store.lastMessage + 1⟩).Lawful store.queues store.transactions := by
    refine ⟨by simp [MessageDraft.row], by simp [MessageDraft.row], hqueue, ?_⟩
    rintro _ ⟨⟩
    exact howner
  have hlawful := h.valid.lawful.addMessage rfl hrow
  rw [Change.apply_add_eq]
  refine ⟨⟨hlawful, h.valid.lastQueue_lt, h.valid.lastTransaction_lt, hnumber⟩, ?_⟩
  intro m hm
  rcases List.mem_append.1 hm with hold | hnew
  · exact h.regular m hold
  · exact List.mem_singleton.1 hnew ▸ draft.regular_row _

end Proper

end Store

/-! ## Rows that are not there -/

namespace Store

variable {store : Store}

/-- No queue is found by a number that none has. -/
theorem queue?_eq_none {id : QueueId} :
    store.queue? id = none ↔ ∀ queue ∈ store.queues, queue.id ≠ id := by
  simp [queue?]

/-- No queue is found by a name that none has, in any case of letters. -/
theorem queueNamed?_eq_none {name : QueueName} :
    store.queueNamed? name = none ↔ ∀ queue ∈ store.queues, foldCase queue.name ≠ name.key := by
  simp [queueNamed?]

/-- No transaction is found by a number that none has. -/
theorem transaction?_eq_none {id : TransactionId} :
    store.transaction? id = none ↔ ∀ t ∈ store.transactions, t.id ≠ id := by
  simp [transaction?]

/-- No message is next if none is eligible. -/
theorem nextMessage?_eq_none {queue : QueueId} {now : Instant} :
    store.nextMessage? queue now = none ↔
      ∀ m ∈ store.messages, ¬ m.isEligible queue now = true := by
  rw [nextMessage?, firstMessage_eq_none, List.filter_eq_nil_iff]

end Store

/-! ## What a statement writes -/

namespace Statement

/-- The writes that close the messages whose last attempt this is, and make the others active. -/
def givingBack (selected : Store → Message → Bool) (instant : Instant) : List (Store → Store) :=
  [fun store => (store.updateMessages (fun m => selected store m && m.isLastAttempt)
      fun m => m.exhaust instant).2,
    fun store => (store.updateMessages (selected store) Message.requeue).2]

/-- The writes that a statement asks for one after the other, whether or not the tables accept
them. -/
def writes (store : Store) : Statement → List (Store → Store)
  | .insertQueue name => [(Change.addQueue name).apply]
  | .deleteQueue id =>
      [fun store => (store.removeMessages fun m => m.queue = id).2, (Change.dropQueue id).apply]
  | .insertTransaction startTime expiryTime => [(Change.start startTime expiryTime).apply]
  | .setTransactionExpiry id expiryTime =>
      [fun store => (store.setTransactionExpiry id expiryTime).2]
  | .closeTransaction id target instant reason =>
      [fun store => (store.closeTransaction id target instant reason).2]
  | .expireTransactions now => [fun store => (store.expireTransactions now).2]
  | .insertMessage draft => [(Change.add draft).apply]
  | .claimMessage queue owner now =>
      match store.nextMessage? queue now with
      | none => []
      | some next =>
          [fun store => (store.updateMessages (fun m => m.id = next.id && m.state = .active)
            fun m => m.take owner).2]
  | .transitionOwned owner action target instant =>
      [fun store => (store.updateMessages (fun m => m.isHeldBy owner action)
        fun m => m.moveTo target instant).2]
  | .discardOwned owner action => [fun store => (store.discardOwned owner action).2]
  | .returnOwned owner instant => givingBack (fun _ m => m.isHeldBy owner .pull) instant
  | .discardOrphanedAdds => [fun store => store.discardOrphanedAdds.2]
  | .returnOrphanedPulls instant => givingBack (fun store => store.isOrphan .pull) instant
  | .expireMessages now => [fun store => (store.expireMessages now).2]
  | .closeExhaustedMessages now => [fun store => (store.closeExhaustedMessages now).2]
  | .findQueue _ | .findQueueNamed _ | .listQueues | .findTransaction _ | .findMessage _
  | .peekMessage _ _ | .countMessages _ _ | .messageStats _ => []

/-- When a statement fails, as seen from the rows. -/
def Fails (store : Store) : Statement → Prop
  | .insertQueue name =>
      (∃ queue ∈ store.queues, foldCase queue.name = name.key) ∨ half64 ≤ store.lastQueue + 1
  | .insertTransaction _ _ => half64 ≤ store.lastTransaction + 1
  | .insertMessage draft =>
      (∀ queue ∈ store.queues, queue.id ≠ draft.queue) ∨
        (∀ t ∈ store.transactions, t.id ≠ draft.owner) ∨ half64 ≤ store.lastMessage + 1
  | .claimMessage queue owner now =>
      (∃ m ∈ store.messages, m.isEligible queue now = true) ∧
        ∀ t ∈ store.transactions, t.id ≠ owner
  | .transitionOwned owner action target _ =>
      target = .inTransaction ∧ ∃ m ∈ store.messages, m.isHeldBy owner action = true
  | _ => False

end Statement

namespace Store

/-- The stores that writes pass through if none is refused. -/
def through : List (Store → Store) → Store → List Store
  | [], _ => []
  | write :: rest, store => write store :: through rest (write store)

/-- The tables make the writes that they accept, up to the first that they refuse: which stores the
writes pass through, and whether all of them are made. -/
inductive Landed : List (Store → Store) → Store → List Store → Bool → Prop where
  | done (store : Store) : Landed [] store [] true
  | made (write : Store → Store) (rest : List (Store → Store)) (store : Store)
      (passed : List Store) (all : Bool) :
      (write store).Valid → Landed rest (write store) passed all →
      Landed (write :: rest) store (write store :: passed) all
  | refused (write : Store → Store) (rest : List (Store → Store)) (store : Store) :
      ¬ (write store).Valid → Landed (write :: rest) store [] false

/-- Writes are all made if the tables accept each. -/
theorem landed_of_valid {writes : List (Store → Store)} {store : Store}
    (h : ∀ passed ∈ through writes store, passed.Valid) :
    Landed writes store (through writes store) true := by
  induction writes generalizing store with
  | nil => exact .done store
  | cons write rest ih =>
      obtain ⟨hfirst, hrest⟩ := List.forall_mem_cons.1 h
      exact .made write rest store _ true hfirst (ih hrest)

end Store

namespace Store.Proper

variable {store : Store} (h : store.Proper)
include h

/-- Messages that have been taken may be given back, in two writes. -/
theorem givingBack {selected : Store → Message → Bool}
    (htaken : ∀ store m, selected store m = true → m.isTaken = true) (instant : Instant) :
    ∀ passed ∈ through (Statement.givingBack selected instant) store, passed.Proper := by
  have hexhausted : (store.updateMessages (fun m => selected store m && m.isLastAttempt)
      fun m => m.exhaust instant).2.Proper :=
    h.updateMessages (fun _ => rfl) fun m hm hselected =>
      have htaken' := htaken store m (Bool.and_eq_true_iff.1 hselected).1
      have haction := (Message.isTaken_iff.1 htaken').2
      ⟨(h.valid.lawful.messages m hm).release rfl rfl rfl (by simp [Message.exhaust]),
        (h.regular m hm).exhaust haction instant⟩
  refine List.forall_mem_cons.2 ⟨hexhausted, List.forall_mem_singleton.2 ?_⟩
  refine hexhausted.updateMessages (fun _ => rfl) fun m hm hselected => ?_
  obtain ⟨hstate, haction⟩ := Message.isTaken_iff.1 (htaken _ m hselected)
  exact ⟨(hexhausted.valid.lawful.messages m hm).release rfl rfl rfl (by simp [Message.requeue]),
    (hexhausted.regular m hm).requeue haction hstate⟩

/-- Active messages may be closed. -/
theorem closing {selected : Message → Bool} (hactive : ∀ m, selected m = true → m.state = .active)
    {target : MessageState} (htarget : target.isTerminal = true) (now : Instant) :
    (store.updateMessages selected fun m => m.close target now).2.Proper := by
  refine h.updateMessages (fun _ => rfl) fun m hm hselected => ?_
  have hfree : m.state ≠ .inTransaction := by simp [hactive m hselected]
  have hout : target ≠ .inTransaction := by
    rintro rfl
    cases htarget
  exact ⟨(h.valid.lawful.messages m hm).close hfree hout, (h.regular m hm).close htarget now⟩

/-- The next message of a queue may be taken by a transaction that is there. -/
theorem claiming {queue : QueueId} {now : Instant} {next : Message}
    (hnext : store.nextMessage? queue now = some next) {owner : TransactionId}
    (howner : ∃ t ∈ store.transactions, t.id = owner) :
    (store.updateMessages (fun m => m.id = next.id) fun m => m.take owner).2.Proper := by
  obtain ⟨hthere, heligible⟩ := nextMessage?_eq_some hnext
  refine h.updateMessages (fun _ => rfl) fun m hm hselected => ?_
  have hsame : m = next :=
    h.valid.lawful.numbered.message_eq hm hthere (of_decide_eq_true hselected)
  obtain ⟨_, hstate, hattempts, _⟩ := Message.isEligible_iff.1 (hsame ▸ heligible)
  exact ⟨(h.valid.lawful.messages m hm).take howner, (h.regular m hm).take hstate hattempts⟩

end Store.Proper

/-- The next message is active, so that asking for that changes nothing. -/
theorem Store.updateMessages_next {store : Store} (h : store.Lawful) {queue : QueueId}
    {now : Instant} {next : Message} (hnext : store.nextMessage? queue now = some next)
    {change : Message → Message} :
    store.updateMessages (fun m => m.id = next.id && m.state = .active) change =
      store.updateMessages (fun m => m.id = next.id) change := by
  obtain ⟨hthere, heligible⟩ := nextMessage?_eq_some hnext
  have hsame : ∀ m ∈ store.messages,
      (decide (m.id = next.id) && decide (m.state = .active)) = decide (m.id = next.id) := by
    intro m hm
    by_cases hid : m.id = next.id
    · cases h.numbered.message_eq hm hthere hid
      simp [(Message.isEligible_iff.1 heligible).2.1]
    · simp [hid]
  simp only [updateMessages, Prod.mk.injEq, Store.mk.injEq, true_and, and_true]
  refine ⟨List.countP_congr fun m hm => by rw [hsame m hm], List.map_congr_left fun m hm => ?_⟩
  simp only [hsame m hm]

namespace Statement

open Store

variable {store : Store}

/-- Nothing is written when there is no message to take. -/
theorem writes_claimMessage_of_none {queue : QueueId} {owner : TransactionId} {now : Instant}
    (h : store.nextMessage? queue now = none) :
    (claimMessage queue owner now).writes store = [] := by
  simp only [writes, h]

/-- The next message is written when there is one to take. -/
theorem writes_claimMessage_of_some {queue : QueueId} {owner : TransactionId} {now : Instant}
    {next : Message} (h : store.nextMessage? queue now = some next) :
    (claimMessage queue owner now).writes store =
      [fun store => (store.updateMessages (fun m => m.id = next.id && m.state = .active)
        fun m => m.take owner).2] := by
  simp only [writes, h]

/-- A statement that does not fail as seen from the rows makes all its writes, and every store that
they pass through is proper. -/
theorem run_of_not_fails (h : store.Proper) (statement : Statement)
    (hfails : ¬ statement.Fails store) :
    (∃ reply, statement.effect.run store =
        .ok (reply, (through (statement.writes store) store).getLastD store)) ∧
      ∀ passed ∈ through (statement.writes store) store, passed.Proper := by
  cases statement with
  | findQueue | findQueueNamed | listQueues | findTransaction | findMessage | peekMessage
  | countMessages | messageStats => exact ⟨⟨_, rfl⟩, List.forall_mem_nil _⟩
  | setTransactionExpiry | closeTransaction | expireTransactions =>
      exact ⟨⟨_, rfl⟩, List.forall_mem_singleton.2 (h.updateTransactions fun _ => rfl)⟩
  | discardOwned | discardOrphanedAdds =>
      exact ⟨⟨_, rfl⟩, List.forall_mem_singleton.2 (h.removeMessages _)⟩
  | returnOwned owner instant =>
      exact ⟨⟨_, rfl⟩, h.givingBack (fun _ _ => Message.isTaken_of_isHeldBy) instant⟩
  | returnOrphanedPulls instant =>
      exact ⟨⟨_, rfl⟩, h.givingBack (fun _ _ => Message.isTaken_of_isOrphan) instant⟩
  | expireMessages now | closeExhaustedMessages now =>
      refine ⟨⟨_, rfl⟩, List.forall_mem_singleton.2 (h.closing (fun m hselected => ?_) rfl now)⟩
      exact of_decide_eq_true (Bool.and_eq_true_iff.1 hselected).1
  | deleteQueue id =>
      -- Two writes: the messages go first, so that none is left whose queue is missing.
      have hdropped : (Change.dropQueue id).apply (store.removeMessages fun m => m.queue = id).2 =
          (store.deleteQueue id).2 := by
        simp [Change.apply_dropQueue, Store.removeMessages, Store.deleteQueue]
      have hrun : (deleteQueue id).effect.run store = .ok ((store.deleteQueue id).1,
          (Change.dropQueue id).apply (store.removeMessages fun m => m.queue = id).2) := by
        rw [hdropped]
        rfl
      refine ⟨⟨_, hrun⟩, List.forall_mem_cons.2 ⟨h.removeMessages _, ?_⟩⟩
      exact List.forall_mem_singleton.2 (hdropped ▸ h.deleteQueue id)
  | insertQueue name =>
      obtain ⟨hfree, hnumber⟩ := not_or.1 hfails
      have hallowed : (Change.addQueue name).Allowed store :=
        ⟨queueNamed?_eq_none.2 fun queue hqueue hname => hfree ⟨queue, hqueue, hname⟩,
          Nat.lt_of_not_le hnumber⟩
      exact ⟨⟨_, Work.run_insertQueue_of_allowed hallowed⟩,
        List.forall_mem_singleton.2 (h.addQueue hallowed)⟩
  | insertTransaction start expiry =>
      have hallowed : (Change.start start expiry).Allowed store := Nat.lt_of_not_le hfails
      exact ⟨⟨_, Work.run_insertTransaction_of_allowed hallowed⟩,
        List.forall_mem_singleton.2 (h.addTransaction hallowed)⟩
  | insertMessage draft =>
      obtain ⟨hqueue, hrest⟩ := not_or.1 hfails
      obtain ⟨howner, hnumber⟩ := not_or.1 hrest
      have hroom : store.lastMessage + 1 < half64 := Nat.lt_of_not_le hnumber
      have hrun := Work.run_insertMessage_of_room
        (Option.isSome_iff_ne_none.2 fun hnone => hqueue (queue?_eq_none.1 hnone))
        (Option.isSome_iff_ne_none.2 fun hnone => howner (transaction?_eq_none.1 hnone)) hroom
      rw [← Change.apply_add_eq] at hrun
      push Not at hqueue howner
      exact ⟨⟨_, hrun⟩, List.forall_mem_singleton.2 (h.addMessage hqueue howner hroom)⟩
  | claimMessage queue owner now =>
      rcases Work.run_claimMessage_cases store queue owner now with
        ⟨hnone, hrun⟩ | ⟨next, hnext, ⟨hmissing, _⟩ | ⟨⟨t, ht⟩, hrun⟩⟩
      · rw [writes_claimMessage_of_none hnone]
        exact ⟨⟨_, hrun⟩, List.forall_mem_nil _⟩
      · obtain ⟨hthere, heligible⟩ := nextMessage?_eq_some hnext
        exact absurd ⟨⟨next, hthere, heligible⟩, transaction?_eq_none.1 hmissing⟩ hfails
      · have hclaimed := h.claiming hnext ⟨t, transaction?_eq_some ht⟩
        -- The write asks once more for an active message; the next message is one.
        rw [← updateMessages_next h.valid.lawful hnext] at hrun hclaimed
        rw [writes_claimMessage_of_some hnext]
        exact ⟨⟨_, hrun⟩, List.forall_mem_singleton.2 hclaimed⟩
  | transitionOwned owner action target instant =>
      have hmoved : (store.updateMessages (fun m => m.isHeldBy owner action)
          fun m => m.moveTo target instant).2.Proper := by
        refine h.updateMessages (fun _ => rfl) fun m hm hheld => ?_
        have htarget : target ≠ .inTransaction := fun heq => hfails ⟨heq, m, hm, hheld⟩
        exact ⟨(h.valid.lawful.messages m hm).release rfl rfl rfl htarget,
          (h.regular m hm).moveTo target instant⟩
      by_cases htarget : target = .inTransaction
      · subst htarget
        have hrun := Work.run_transitionOwned_inTransaction store owner action instant
        rw [if_pos (List.countP_eq_zero.2 fun m hm hheld => hfails ⟨rfl, m, hm, hheld⟩)] at hrun
        exact ⟨⟨_, hrun⟩, List.forall_mem_singleton.2 hmoved⟩
      · exact ⟨⟨_, Work.run_transitionOwned htarget⟩, List.forall_mem_singleton.2 hmoved⟩

/-- A queue is not accepted if another has its name or there is no number for it. -/
theorem not_valid_addQueue {name : QueueName} (hfails : (insertQueue name).Fails store) :
    ¬ ((Change.addQueue name).apply store).Valid := by
  intro hvalid
  rcases hfails with ⟨queue, hqueue, hname⟩ | hnumber
  · have hdistinct := hvalid.lawful.distinct
    rw [Change.queues_addQueue, List.map_append, List.nodup_append] at hdistinct
    exact hdistinct.2.2 _ (List.mem_map_of_mem hqueue) _ (List.mem_singleton.2 rfl) hname
  · exact absurd hvalid.lastQueue_lt (Nat.not_lt_of_le hnumber)

/-- A message is not accepted if its queue or its transaction is missing or there is no number for
it. -/
theorem not_valid_addMessage {draft : MessageDraft} (hfails : (insertMessage draft).Fails store) :
    ¬ ((Change.add draft).apply store).Valid := by
  intro hvalid
  rw [Change.apply_add_eq] at hvalid
  have hrow := hvalid.lawful.messages _ (List.mem_append_right _ (List.mem_singleton.2 rfl))
  rcases hfails with hqueue | howner | hnumber
  · obtain ⟨queue, hthere, hid⟩ := hrow.queue
    exact hqueue queue hthere hid
  · obtain ⟨t, hthere, hid⟩ := hrow.owner _ rfl
    exact howner t hthere hid
  · exact absurd hvalid.lastMessage_lt (Nat.not_lt_of_le hnumber)

/-- Messages do not pass into the hands of a transaction that is missing. -/
theorem not_valid_take {selected : Message → Bool} {owner : TransactionId}
    (hsome : ∃ m ∈ store.messages, selected m = true)
    (hmissing : ∀ t ∈ store.transactions, t.id ≠ owner) :
    ¬ (store.updateMessages selected fun m => m.take owner).2.Valid := by
  intro hvalid
  obtain ⟨m, hm, hselected⟩ := hsome
  have hrow := hvalid.lawful.messages (m.take owner)
    (List.mem_map.2 ⟨m, hm, if_pos hselected⟩)
  obtain ⟨t, hthere, hid⟩ := hrow.owner owner rfl
  exact hmissing t hthere hid

/-- Messages are not accepted in a transaction and out of all hands. -/
theorem not_valid_moveTo {selected : Message → Bool} {now : Instant}
    (hsome : ∃ m ∈ store.messages, selected m = true) :
    ¬ (store.updateMessages selected fun m => m.moveTo .inTransaction now).2.Valid := by
  intro hvalid
  obtain ⟨m, hm, hselected⟩ := hsome
  have hrow := hvalid.lawful.messages (m.moveTo .inTransaction now)
    (List.mem_map.2 ⟨m, hm, if_pos hselected⟩)
  cases hrow.state_iff.1 rfl

/-- A statement that fails as seen from the rows asks for one write, which the tables refuse. -/
theorem run_of_fails (h : store.Proper) (statement : Statement) (hfails : statement.Fails store) :
    ∃ error write, statement.effect.run store = .error error ∧
      statement.writes store = [write] ∧ ¬ (write store).Valid := by
  cases statement with
  | insertQueue name =>
      have hrefused := not_valid_addQueue hfails
      rcases Work.run_insertQueue name with ⟨error, herror⟩ | ⟨hallowed, _⟩
      · exact ⟨error, _, herror, rfl, hrefused⟩
      · exact absurd (h.addQueue hallowed).valid hrefused
  | insertTransaction start expiry =>
      have hnumber : ¬ store.lastTransaction + 1 < half64 := Nat.not_lt_of_le hfails
      rcases Work.run_insertTransaction expiry with ⟨error, herror⟩ | ⟨hallowed, _⟩
      · exact ⟨error, _, herror, rfl, fun hvalid => hnumber hvalid.lastTransaction_lt⟩
      · exact absurd hallowed hnumber
  | insertMessage draft =>
      have hrefused := not_valid_addMessage hfails
      rcases Work.run_insertMessage_cases store draft with
        ⟨error, herror⟩ | ⟨⟨queue, hqueue⟩, ⟨t, howner⟩, _⟩
      · exact ⟨error, _, herror, rfl, hrefused⟩
      · -- The references are there, so that it is the number that is missing.
        have hnumber : ¬ store.lastMessage + 1 < half64 := fun hroom => hrefused
          (h.addMessage ⟨queue, queue?_eq_some hqueue⟩ ⟨t, transaction?_eq_some howner⟩ hroom).valid
        have hrun := Work.run_insertMessage
          (Option.isSome_of_eq_some hqueue) (Option.isSome_of_eq_some howner)
        rw [Work.run_bind_of_error (Work.run_nextNumber_of_last hnumber)] at hrun
        exact ⟨_, _, hrun, rfl, hrefused⟩
  | claimMessage queue owner now =>
      obtain ⟨⟨m, hm, heligible⟩, hmissing⟩ := hfails
      rcases Work.run_claimMessage_cases store queue owner now with
        ⟨hnone, _⟩ | ⟨next, hnext, ⟨_, herror⟩ | ⟨⟨t, ht⟩, _⟩⟩
      · exact absurd heligible (nextMessage?_eq_none.1 hnone m hm)
      · refine ⟨_, _, herror, writes_claimMessage_of_some hnext, ?_⟩
        rw [updateMessages_next h.valid.lawful hnext]
        exact not_valid_take ⟨next, (nextMessage?_eq_some hnext).1, by simp⟩ hmissing
      · obtain ⟨hthere, hid⟩ := transaction?_eq_some ht
        exact absurd hid (hmissing t hthere)
  | transitionOwned owner action target instant =>
      obtain ⟨rfl, hheld⟩ := hfails
      have hrun := Work.run_transitionOwned_inTransaction store owner action instant
      rw [if_neg (Nat.ne_of_gt (List.countP_pos_iff.2 hheld))] at hrun
      exact ⟨_, _, hrun, rfl, not_valid_moveTo hheld⟩
  | _ => exact hfails.elim

/-! ## The course of a statement -/

/-- What becomes of the writes of a statement that passes through these stores. -/
structure Course (store : Store) (statement : Statement) (passed : List Store) : Prop where
  landed : Landed (statement.writes store) store passed (statement.work.finish store).1.isOk
  proper : ∀ between ∈ passed, between.Proper
  store_eq : (statement.work.finish store).2 = passed.getLastD store
  /-- Not even the first write of a statement that fails is made. -/
  untouched : (statement.work.finish store).1.isOk = false → passed = []
  fails_iff : (statement.work.finish store).1.isOk = false ↔ statement.Fails store

/-- A statement that is made answers what it replies. -/
theorem finish_of_ok {statement : Statement} {reply : statement.Reply} {changed : Store}
    (h : statement.effect.run store = .ok (reply, changed)) :
    statement.work.finish store = (.ok (statement.told reply), changed) := by
  have hrun : statement.work.run store = .ok (statement.told reply, changed) := by
    rw [work_eq, StateT.run_map, h]
    rfl
  rw [Work.finish, hrun]

/-- A statement that is not made answers its error. -/
theorem finish_of_error {statement : Statement} {error : Error}
    (h : statement.effect.run store = .error error) :
    statement.work.finish store = (.error error, store) := by
  have hrun : statement.work.run store = .error error := by
    rw [work_eq, StateT.run_map, h]
    rfl
  rw [Work.finish, hrun]

/-- Every statement takes its course: it makes all its writes or is refused its first, and the rows
are as they were or proper again, also between two writes. -/
theorem exists_course (h : store.Proper) (statement : Statement) :
    ∃ passed, Course store statement passed := by
  by_cases hfails : statement.Fails store
  · obtain ⟨error, write, hrun, hwrites, hinvalid⟩ := run_of_fails h statement hfails
    have hfinish := finish_of_error hrun
    refine ⟨[], ?_, nofun, by rw [hfinish]; rfl, fun _ => rfl, iff_of_true ?_ hfails⟩
    · rw [hwrites, hfinish]
      exact .refused write [] store hinvalid
    · rw [hfinish]
      rfl
  · obtain ⟨⟨reply, hrun⟩, hproper⟩ := run_of_not_fails h statement hfails
    have hfinish := finish_of_ok hrun
    have hmade : (statement.work.finish store).1.isOk = true := by rw [hfinish]; rfl
    refine ⟨through (statement.writes store) store, ?_, hproper, by rw [hfinish], ?_, ?_⟩
    · rw [hmade]
      exact landed_of_valid fun between hbetween => (hproper between hbetween).valid
    · exact fun hfailed => nomatch hfailed.symm.trans hmade
    · exact iff_of_false (fun hfailed => nomatch hfailed.symm.trans hmade) hfails

/-- A statement leaves the rows proper. -/
theorem proper_finish (h : store.Proper) (statement : Statement) :
    (statement.work.finish store).2.Proper := by
  obtain ⟨passed, hcourse⟩ := exists_course h statement
  rw [hcourse.store_eq]
  cases hlast : passed.getLast? with
  | none => simpa [List.getLastD_eq_getLast?, hlast] using h
  | some between =>
      simpa [List.getLastD_eq_getLast?, hlast] using
        hcourse.proper between (List.mem_of_getLast? hlast)

end Statement

/-! ## Statements one after the other -/

namespace Store

/-- The store after storage transactions, each of which makes its statements and is then kept or
dropped. -/
def afterTransactions : List (List Statement × Bool) → Store → Store
  | [], store => store
  | (statements, keep) :: rest, store =>
      afterTransactions rest ((runTransaction statements keep).finish store).2

variable {store : Store}

/-- Statements leave the rows proper. -/
theorem Proper.runStatements (h : store.Proper) (statements : List Statement) :
    (runStatements statements store).2.Proper := by
  induction statements generalizing store with
  | nil => exact h
  | cons statement rest ih => exact ih (statement.proper_finish h)

/-- Storage transactions leave the rows proper, kept or dropped. -/
theorem Proper.afterTransactions (h : store.Proper)
    (transactions : List (List Statement × Bool)) :
    (afterTransactions transactions store).Proper := by
  induction transactions generalizing store with
  | nil => exact h
  | cons first rest ih =>
      obtain ⟨statements, keep⟩ := first
      refine ih ?_
      cases keep with
      | true => exact h.runStatements statements
      | false => exact h

end Store

/-- In whatever order and with whatever arguments statements are made, in storage transactions that
are kept or dropped and in the one that is open: the tables keep their rules, and messages are
regular. The next statement, whichever it is, makes all its writes and leaves the rows proper after
each, or fails without having made one, exactly when the rows say so. -/
theorem statements_keep_rows (transactions : List (List Statement × Bool))
    (statements : List Statement) :
    let store := (runStatements statements (Store.afterTransactions transactions {})).2
    store.Proper ∧ ∀ statement : Statement, ∃ passed, statement.Course store passed :=
  have hproper := (Store.proper_empty.afterTransactions transactions).runStatements statements
  ⟨hproper, fun statement => statement.exists_course hproper⟩

end WorkQueue
