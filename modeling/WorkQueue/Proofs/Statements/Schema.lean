import WorkQueue.Proofs.Queues.Identity
import WorkQueue.Proofs.Statements.Scripts

/-!
# The rules of the tables

The tables have rules of their own, whatever is done with them: rows of a kind have different
numbers and queues different names, in any case of letters; a message names a transaction exactly
when it names what that does with it, and exactly while it is in a transaction; and the queue and
the transaction that a message names are there. No statement that is made breaks these rules, in
whatever order and with whatever arguments statements are made: `Statement.lawful_effect`. One that
would is not made, but fails.
-/

namespace WorkQueue

/-- The rules for the row of a message, among these queues and transactions. -/
structure Message.Lawful (m : Message) (queues : List Queue) (transactions : List Transaction) :
    Prop where
  action_iff : m.owner.isNone = true ↔ m.action.isNone = true
  state_iff : m.state = .inTransaction ↔ m.owner.isSome = true
  queue : ∃ queue ∈ queues, queue.id = m.queue
  owner : ∀ id, m.owner = some id → ∃ t ∈ transactions, t.id = id

/-- The rules for all rows. -/
structure Store.Lawful (store : Store) : Prop where
  numbered : store.Numbered
  distinct : (store.queues.map fun queue => foldCase queue.name).Nodup
  messages : ∀ m ∈ store.messages, m.Lawful store.queues store.transactions

namespace Message.Lawful

variable {m : Message} {queues : List Queue} {transactions : List Transaction}
  (h : m.Lawful queues transactions)
include h

/-- A message may be put in the hands of a transaction that is there. -/
theorem take {owner : TransactionId} (howner : ∃ t ∈ transactions, t.id = owner) :
    (m.take owner).Lawful queues transactions where
  action_iff := by simp [Message.take]
  state_iff := by simp [Message.take]
  queue := h.queue
  owner := by
    rintro _ ⟨⟩
    exact howner

/-- A message may be taken out of all hands, in a state that is not in a transaction. -/
theorem release {kept : Message} (hqueue : kept.queue = m.queue) (howner : kept.owner = none)
    (haction : kept.action = none) (hstate : kept.state ≠ .inTransaction) :
    kept.Lawful queues transactions where
  action_iff := by simp [howner, haction]
  state_iff := by simp [howner, hstate]
  queue := hqueue ▸ h.queue
  owner := by simp [howner]

/-- A message that is not in a transaction may be closed. -/
theorem close {target : MessageState} {now : Instant} (hstate : m.state ≠ .inTransaction)
    (htarget : target ≠ .inTransaction) : (m.close target now).Lawful queues transactions := by
  have hfree : m.owner = none := by
    cases howner : m.owner with
    | none => rfl
    | some owner => exact absurd (h.state_iff.2 (by simp [howner])) hstate
  have haction : m.action = none := by simpa [hfree] using h.action_iff
  exact h.release rfl hfree haction htarget

/-- Further queues and transactions do no harm, and others may change or go that the message does
not name. -/
theorem mono {others : List Queue} {changed : List Transaction}
    (hqueues : ∀ queue ∈ queues, queue.id = m.queue → ∃ other ∈ others, other.id = queue.id)
    (htransactions : ∀ t ∈ transactions, ∃ other ∈ changed, other.id = t.id) :
    m.Lawful others changed where
  action_iff := h.action_iff
  state_iff := h.state_iff
  queue := by
    obtain ⟨queue, hqueue, hid⟩ := h.queue
    obtain ⟨other, hother, hsame⟩ := hqueues queue hqueue hid
    exact ⟨other, hother, hsame.trans hid⟩
  owner := by
    intro id howner
    obtain ⟨t, ht, hid⟩ := h.owner id howner
    obtain ⟨other, hother, hsame⟩ := htransactions t ht
    exact ⟨other, hother, hsame.trans hid⟩

end Message.Lawful

namespace Store

variable {store : Store}

/-- What runs keep of names and rows implies the rules of the tables. -/
theorem Sound.lawful (h : store.Sound) (hnamed : store.Named) : store.Lawful where
  numbered := h.numbered
  distinct := hnamed.distinct
  messages m hm := by
    have hcoupled := h.coupled.messages m hm
    refine ⟨?_, hcoupled.owner_iff.symm, h.coupled.queues m hm, fun id howner => ?_⟩
    · have hboth := hcoupled.owner_iff.trans hcoupled.action_iff.symm
      simpa [Option.isNone_iff_eq_none, Option.isSome_iff_ne_none, not_iff_not] using hboth
    · obtain ⟨t, ht, hid, _⟩ := h.coupled.owners m hm id howner
      exact ⟨t, ht, hid⟩

namespace Lawful

variable (h : store.Lawful)
include h

/-- Messages may change if their rows stay lawful and keep their numbers. -/
theorem updateMessages {selected : Message → Bool} {change : Message → Message}
    (hid : ∀ m, (change m).id = m.id)
    (hchange : ∀ m ∈ store.messages, selected m = true →
      (change m).Lawful store.queues store.transactions) :
    (store.updateMessages selected change).2.Lawful where
  numbered := by
    refine ⟨h.numbered.queues, h.numbered.transactions, h.numbered.messages.map fun m => ?_⟩
    split
    · rw [hid]
    · rfl
  distinct := h.distinct
  messages kept hkept := by
    obtain ⟨m, hm, rfl⟩ := List.mem_map.1 hkept
    split
    · next hselected => exact hchange m hm hselected
    · exact h.messages m hm

/-- Messages may go. -/
theorem removeMessages (selected : Message → Bool) :
    (store.removeMessages selected).2.Lawful where
  numbered := ⟨h.numbered.queues, h.numbered.transactions, h.numbered.messages.filter _⟩
  distinct := h.distinct
  messages m hm := h.messages m (List.mem_filter.1 hm).1

/-- Messages may be given back. -/
theorem giveBack (selected : Message → Bool) (now : Instant) :
    (store.giveBack selected now).2.Lawful := by
  -- The rules hold between the two statements, too.
  have hexhausted : (store.updateMessages (fun m => selected m && m.isLastAttempt)
      fun m => m.exhaust now).2.Lawful :=
    h.updateMessages (fun _ => rfl) fun m hm _ =>
      (h.messages m hm).release rfl rfl rfl (by simp [Message.exhaust])
  exact hexhausted.updateMessages (fun _ => rfl) fun m hm _ =>
    (hexhausted.messages m hm).release rfl rfl rfl (by simp [Message.requeue])

/-- A message may be stored that keeps the rules. -/
theorem addMessage {m : Message} (hid : m.id = ⟨store.lastMessage + 1⟩)
    (hm : m.Lawful store.queues store.transactions) :
    Lawful { store with
      messages := store.messages ++ [m], lastMessage := store.lastMessage + 1 } where
  numbered := ⟨h.numbered.queues, h.numbered.transactions,
    h.numbered.messages.append (congrArg MessageId.value hid)⟩
  distinct := h.distinct
  messages row hrow := by
    rcases List.mem_append.1 hrow with hold | hnew
    · exact h.messages row hold
    · exact List.mem_singleton.1 hnew ▸ hm

/-- Transactions may change as long as they keep their numbers. -/
theorem updateTransactions {selected : Transaction → Bool} {change : Transaction → Transaction}
    (hid : ∀ t, (change t).id = t.id) : (store.updateTransactions selected change).2.Lawful where
  numbered := by
    refine ⟨h.numbered.queues, h.numbered.transactions.map fun t => ?_, h.numbered.messages⟩
    split
    · rw [hid]
    · rfl
  distinct := h.distinct
  messages m hm := by
    refine (h.messages m hm).mono (fun queue hqueue _ => ⟨queue, hqueue, rfl⟩) fun t ht => ?_
    refine ⟨_, List.mem_map_of_mem ht, ?_⟩
    split
    · exact hid t
    · rfl

/-- A queue may go, if its messages go with it. -/
theorem deleteQueue (id : QueueId) : (store.deleteQueue id).2.Lawful where
  numbered := ⟨h.numbered.queues.filter _, h.numbered.transactions, h.numbered.messages.filter _⟩
  distinct := h.distinct.sublist (List.filter_sublist.map _)
  messages m hm := by
    obtain ⟨hold, hother⟩ := List.mem_filter.1 hm
    refine (h.messages m hold).mono (fun queue hqueue hid => ?_) fun t ht => ⟨t, ht, rfl⟩
    exact ⟨queue, List.mem_filter.2 ⟨hqueue, by simpa [hid] using hother⟩, rfl⟩

/-- Queues and transactions may be added, as long as the queues have different names. -/
theorem grow {change : Change} (hkeeps : ∀ queue, change.keepsQueue queue = true)
    (htransactions : ∀ t, change.transactionAfter t = t)
    (hmessages : ∀ m, change.messageAfter store m = some m) (hnone : change.newMessages store = [])
    (hdistinct : ((change.apply store).queues.map fun queue => foldCase queue.name).Nodup) :
    (change.apply store).Lawful where
  numbered := change.numbered_apply h.numbered
  distinct := hdistinct
  messages m hm := by
    rw [Change.apply_of_no_loss hkeeps htransactions hmessages] at hm ⊢
    refine (h.messages m (by simpa [hnone] using hm)).mono ?_ ?_
    · exact fun queue hqueue _ => ⟨queue, List.mem_append_left _ hqueue, rfl⟩
    · exact fun t ht => ⟨t, List.mem_append_left _ ht, rfl⟩

/-- A queue may be added whose name no other has. -/
theorem addQueue {name : QueueName} (hfree : store.queueNamed? name = none) :
    ((Change.addQueue name).apply store).Lawful :=
  h.grow (fun _ => rfl) (fun _ => rfl) (fun _ => rfl) rfl
    (Change.distinct_addQueue h.distinct hfree)

/-- A transaction may be added. -/
theorem addTransaction (now expiry : Instant) :
    ((Change.start now expiry).apply store).Lawful := by
  refine h.grow (fun _ => rfl) (fun _ => rfl) (fun _ => rfl) rfl ?_
  rw [Change.apply_of_no_loss (fun _ => rfl) (fun _ => rfl) fun _ => rfl]
  simpa [Change.newQueues] using h.distinct

end Lawful

end Store

namespace Work

/-- A message is added when its queue and its transaction are there and a number is free. -/
theorem run_insertMessage_of_room {store : Store} {draft : MessageDraft}
    (hqueue : (store.queue? draft.queue).isSome) (howner : (store.transaction? draft.owner).isSome)
    (hnumber : store.lastMessage + 1 < half64) :
    (Store.insertMessage draft).run store =
      .ok (⟨store.lastMessage + 1⟩,
        { store with
          messages := store.messages ++ [draft.row ⟨store.lastMessage + 1⟩]
          lastMessage := store.lastMessage + 1 }) := by
  rw [run_insertMessage hqueue howner, run_bind_of_ok (run_nextNumber hnumber)]
  rfl

/-- A message is added to a queue and under a transaction that are there, or it is an error. -/
theorem run_insertMessage_cases (store : Store) (draft : MessageDraft) :
    (∃ error, (Store.insertMessage draft).run store = .error error) ∨
      (∃ queue, store.queue? draft.queue = some queue) ∧
        (∃ t, store.transaction? draft.owner = some t) ∧
        (Store.insertMessage draft).run store =
          .ok (⟨store.lastMessage + 1⟩,
            { store with
              messages := store.messages ++ [draft.row ⟨store.lastMessage + 1⟩]
              lastMessage := store.lastMessage + 1 }) := by
  cases hqueue : store.queue? draft.queue with
  | none =>
      rw [Store.insertMessage, run_get_bind, hqueue]
      exact .inl ⟨_, rfl⟩
  | some queue =>
      cases howner : store.transaction? draft.owner with
      | none =>
          rw [Store.insertMessage, run_get_bind, hqueue, howner]
          exact .inl ⟨_, rfl⟩
      | some t =>
          have hthere : (store.queue? draft.queue).isSome := by rw [hqueue]; rfl
          have hheld : (store.transaction? draft.owner).isSome := by rw [howner]; rfl
          by_cases hnumber : store.lastMessage + 1 < half64
          · exact .inr ⟨⟨queue, rfl⟩, ⟨t, rfl⟩, run_insertMessage_of_room hthere hheld hnumber⟩
          · rw [run_insertMessage hthere hheld]
            exact .inl ⟨_, run_bind_of_error (run_nextNumber_of_last hnumber)⟩

/-- No message can be moved into a transaction: if there are none to move that is no error. -/
theorem run_transitionOwned_inTransaction (store : Store) (owner : TransactionId)
    (action : TransactionAction) (now : Instant) :
    (Store.transitionOwned owner action .inTransaction now).run store =
      if store.messages.countP (fun m => m.isHeldBy owner action) = 0 then
        .ok (store.messages.countP fun m => m.isHeldBy owner action,
          (store.updateMessages (fun m => m.isHeldBy owner action)
            fun m => m.moveTo .inTransaction now).2)
      else .error (.storage .brokenRow) := by
  rw [Store.transitionOwned, run_get_bind]
  by_cases hnone : store.messages.countP (fun m => m.isHeldBy owner action) = 0
  · simp [Store.updateMessages, hnone]
    rfl
  · simp [Store.updateMessages, hnone]
    rfl

/-- A message is taken when there is one and its taker is there. -/
theorem run_claimMessage_cases (store : Store) (queue : QueueId) (owner : TransactionId)
    (now : Instant) :
    (store.nextMessage? queue now = none ∧
        (Store.claimMessage queue owner now).run store = .ok (none, store)) ∨
      ∃ next, store.nextMessage? queue now = some next ∧
        (store.transaction? owner = none ∧
            (Store.claimMessage queue owner now).run store = .error (.storage .missingReference) ∨
          (∃ t, store.transaction? owner = some t) ∧
            (Store.claimMessage queue owner now).run store =
              .ok (some (next.take owner),
                (store.updateMessages (fun m => m.id = next.id) fun m => m.take owner).2)) := by
  rw [Store.claimMessage, run_get_bind]
  cases hnext : store.nextMessage? queue now with
  | none => exact .inl ⟨rfl, rfl⟩
  | some next =>
      refine .inr ⟨next, rfl, ?_⟩
      cases howner : store.transaction? owner with
      | none => exact .inl ⟨rfl, rfl⟩
      | some t => exact .inr ⟨⟨t, rfl⟩, rfl⟩

end Work

/-- No statement that is made breaks the rules of the tables. -/
theorem Statement.lawful_effect (statement : Statement) {store changed : Store}
    {reply : statement.Reply} (h : store.Lawful)
    (hrun : statement.effect.run store = .ok (reply, changed)) : changed.Lawful := by
  cases statement with
  | findQueue | findQueueNamed | listQueues | findTransaction | findMessage | peekMessage
  | countMessages | messageStats => cases hrun; exact h
  | deleteQueue id => cases hrun; exact h.deleteQueue id
  | setTransactionExpiry | closeTransaction | expireTransactions =>
      cases hrun; exact h.updateTransactions fun _ => rfl
  | discardOwned | discardOrphanedAdds => cases hrun; exact h.removeMessages _
  | returnOwned | returnOrphanedPulls => cases hrun; exact h.giveBack _ _
  | expireMessages | closeExhaustedMessages =>
      cases hrun
      refine h.updateMessages (fun _ => rfl) fun m hm hselected => ?_
      have hactive : m.state = .active := of_decide_eq_true (Bool.and_eq_true_iff.1 hselected).1
      exact (h.messages m hm).close (by simp [hactive]) (by simp)
  | insertQueue name =>
      rcases Work.run_insertQueue name with ⟨error, herror⟩ | ⟨hallowed, hadded⟩
      · cases hrun.symm.trans herror
      · cases hrun.symm.trans hadded
        exact h.addQueue hallowed.1
  | insertTransaction start expiry =>
      rcases Work.run_insertTransaction expiry with ⟨error, herror⟩ | ⟨_, hadded⟩
      · cases hrun.symm.trans herror
      · cases hrun.symm.trans hadded
        exact h.addTransaction start expiry
  | insertMessage draft =>
      rcases Work.run_insertMessage_cases store draft with
        ⟨error, herror⟩ | ⟨⟨queue, hqueue⟩, ⟨t, howner⟩, hadded⟩
      · cases hrun.symm.trans herror
      · cases hrun.symm.trans hadded
        refine h.addMessage rfl ⟨by simp [MessageDraft.row], by simp [MessageDraft.row],
          ⟨queue, Store.queue?_eq_some hqueue⟩, ?_⟩
        rintro _ ⟨⟩
        exact ⟨t, Store.transaction?_eq_some howner⟩
  | claimMessage queue owner now =>
      rcases Work.run_claimMessage_cases store queue owner now with
        ⟨_, hnone⟩ | ⟨next, hnext, ⟨_, herror⟩ | ⟨⟨t, howner⟩, htaken⟩⟩
      · cases hrun.symm.trans hnone
        exact h
      · cases hrun.symm.trans herror
      · cases hrun.symm.trans htaken
        exact h.updateMessages (fun _ => rfl) fun m hm _ =>
          (h.messages m hm).take ⟨t, Store.transaction?_eq_some howner⟩
  | transitionOwned owner action target instant =>
      by_cases htarget : target = .inTransaction
      · subst htarget
        have hmoved := Work.run_transitionOwned_inTransaction store owner action instant
        split at hmoved
        · next hnone =>
            cases hrun.symm.trans hmoved
            exact h.updateMessages (fun _ => rfl) fun m hm hheld =>
              absurd hheld (List.countP_eq_zero.1 hnone m hm)
        · cases hrun.symm.trans hmoved
      · cases hrun.symm.trans (Work.run_transitionOwned htarget)
        exact h.updateMessages (fun _ => rfl) fun m hm _ =>
          (h.messages m hm).release rfl rfl rfl htarget

end WorkQueue
