import WorkQueue.Proofs.Store.Fates

/-!
# Coupled columns

The columns of a row go together: a message names a transaction exactly while it is in one, it has
a close time exactly when it is at its end, and it has attempts left until they are exceeded. A
transaction has an end exactly when it is over. Rows go together too: a message's queue is there,
and the transaction that holds it is there and was neither committed nor rolled back. Every change
of the store keeps this, so it holds after every run, in the middle of a sweep as well:
`play_coupled`.
-/

namespace WorkQueue

/-- The columns of a message go together. -/
structure Message.Coupled (m : Message) : Prop where
  owner_iff : m.owner.isSome = true ↔ m.state = .inTransaction
  action_iff : m.action.isSome = true ↔ m.state = .inTransaction
  closeTime_iff : m.closeTime.isSome = true ↔ m.state.isTerminal = true
  attempts_lt : m.state ≠ .attemptsExceeded → m.attempts < m.maxAttempts
  attempts_eq : m.state = .attemptsExceeded → m.attempts = m.maxAttempts
  attempts_of_add : m.action = some .add → m.attempts = 0

/-- The columns of a transaction go together. -/
structure Transaction.Coupled (t : Transaction) : Prop where
  endTime_iff : t.endTime.isSome = true ↔ t.state ≠ .active
  endReason_iff : t.endReason.isSome = true ↔ t.state ≠ .active
  reason_of_committed : t.state = .committed → t.endReason = some committedReason
  reason_of_expired : t.state = .expired → t.endReason = some expiredReason

/-- Is the transaction active or expired? -/
def Transaction.MayHold (t : Transaction) : Prop :=
  t.state = .active ∨ t.state = .expired

/-- The rows of a store go together. -/
structure Store.Coupled (store : Store) : Prop where
  messages : ∀ m ∈ store.messages, m.Coupled
  transactions : ∀ t ∈ store.transactions, t.Coupled
  queues : ∀ m ∈ store.messages, ∃ queue ∈ store.queues, queue.id = m.queue
  owners : ∀ m ∈ store.messages, ∀ id, m.owner = some id →
    ∃ t ∈ store.transactions, t.id = id ∧ t.MayHold

/-- The rows are numbered and go together. -/
structure Store.Sound (store : Store) : Prop where
  numbered : store.Numbered
  coupled : store.Coupled

/-- The empty store is sound. -/
theorem Store.sound_empty : Store.Sound {} := by
  refine ⟨Store.numbered_empty, ?_⟩
  constructor <;> intro row hrow <;> cases hrow

namespace Message

variable {m : Message} {now : Instant} {owner : TransactionId} {action : TransactionAction}

namespace Coupled

/-- A message that is not at its end has no close time. -/
theorem closeTime_eq_none (h : m.Coupled) (hstate : m.state.isTerminal = false) :
    m.closeTime = none := by
  cases hclosed : m.closeTime with
  | none => rfl
  | some instant => cases hstate.symm.trans (h.closeTime_iff.1 (by simp [hclosed]))

/-- A message in a transaction that is moved out of it stays coupled. -/
theorem moveTo (h : m.Coupled) (hstate : m.state = .inTransaction) {target : MessageState}
    (htarget : target = .active ∨ target = .processed) : (m.moveTo target now).Coupled := by
  have hlt := h.attempts_lt (by rw [hstate]; decide)
  rcases htarget with rfl | rfl <;>
    constructor <;> simp [Message.moveTo, MessageState.isTerminal, hlt]

/-- A message in a transaction that is given back stays coupled: its attempts are exceeded exactly
when they reach the most there may be. -/
theorem giveBack (h : m.Coupled) (hstate : m.state = .inTransaction) :
    (m.giveBack now).Coupled := by
  have hlt := h.attempts_lt (by rw [hstate]; decide)
  have hopen := h.closeTime_eq_none (by rw [hstate]; rfl)
  unfold Message.giveBack Message.isLastAttempt
  split
  · next hlast =>
      have hlast : m.maxAttempts ≤ m.attempts + 1 := by simpa using hlast
      constructor <;> simp [Message.exhaust, MessageState.isTerminal]
      omega
  · next hmore =>
      have hmore : m.attempts + 1 < m.maxAttempts := by simpa using hmore
      constructor <;> simp [Message.requeue, MessageState.isTerminal, hopen, hmore]

/-- An active message that is taken stays coupled. -/
theorem take (h : m.Coupled) (hstate : m.state = .active) : (m.take owner).Coupled := by
  have hlt := h.attempts_lt (by rw [hstate]; decide)
  have hopen := h.closeTime_eq_none (by rw [hstate]; rfl)
  constructor <;> simp [Message.take, MessageState.isTerminal, hopen, hlt]

/-- An active message whose lifetime has passed can be closed. -/
theorem expire (h : m.Coupled) (hstate : m.state = .active) :
    (m.close .expired now).Coupled := by
  have hlt := h.attempts_lt (by rw [hstate]; decide)
  have howner := h.owner_iff
  have haction := h.action_iff
  rw [hstate] at howner haction
  constructor <;> simp_all [Message.close, MessageState.isTerminal]

/-- A new message is coupled if it may be tried at all. -/
theorem row {draft : MessageDraft} (id : MessageId) (h : 0 < draft.maxAttempts) :
    (draft.row id).Coupled := by
  constructor <;> simp [MessageDraft.row, MessageState.isTerminal, maxAttemptsLimit, half32]
  omega

/-- A coupled message that names a transaction is held by it, being added or taken. -/
theorem held_of_owner (h : m.Coupled) (howner : m.owner = some owner) :
    m.isHeldBy owner .add = true ∨ m.isHeldBy owner .pull = true := by
  have hstate : m.state = .inTransaction := h.owner_iff.1 (by simp [howner])
  obtain ⟨action, haction⟩ := Option.isSome_iff_exists.1 (h.action_iff.2 hstate)
  cases action with
  | add => exact .inl (Message.isHeldBy_iff.2 ⟨howner, haction, hstate⟩)
  | pull => exact .inr (Message.isHeldBy_iff.2 ⟨howner, haction, hstate⟩)

end Coupled

end Message

namespace Transaction

variable {t : Transaction} {now : Instant}

/-- A transaction that is closed stays coupled if the reason is the one for its end. -/
theorem Coupled.close {target : TransactionState} {reason : String} (htarget : target ≠ .active)
    (hcommitted : target = .committed → reason = committedReason)
    (hexpired : target = .expired → reason = expiredReason) :
    (t.close target now reason).Coupled where
  endTime_iff := by simp [Transaction.close, htarget]
  endReason_iff := by simp [Transaction.close, htarget]
  reason_of_committed h := congrArg some (hcommitted h)
  reason_of_expired h := congrArg some (hexpired h)

end Transaction

namespace Change

variable {change : Change} {store : Store}

/-- The messages that are left are coupled. -/
theorem message_coupled {m kept : Message} (h : m.Coupled)
    (hfate : Message.Fate store m change kept) : kept.Coupled := by
  have hheld {id : TransactionId} {action : TransactionAction}
      (hheld : m.isHeldBy id action = true) : m.state = .inTransaction :=
    (Message.isHeldBy_iff.1 hheld).2.2
  cases hfate with
  | same => exact h
  | released id now hadded => exact h.moveTo (hheld hadded) (.inl rfl)
  | processed id now htaken => exact h.moveTo (hheld htaken) (.inr rfl)
  | undone id target reason now htaken => exact h.giveBack (hheld htaken)
  | recovered now horphan =>
      exact h.giveBack (Message.isTaken_iff.1 (Message.isTaken_of_isOrphan horphan)).1
  | taken owner now hnext hopen =>
      exact h.take (Message.isEligible_iff.1 (Store.nextMessage?_eq_some hnext).2).2.1
  | lapsed now hactive hpassed => exact h.expire hactive
  | outworn now hactive hworn =>
      -- No active message is out of attempts, so there is nothing for this stage to close.
      have hlt := h.attempts_lt (by rw [hactive]; decide)
      exact absurd hworn (Nat.not_le.2 hlt)

/-- The transactions are coupled. -/
theorem transaction_coupled (hallowed : change.Allowed store) {t kept : Transaction}
    (h : t.Coupled) (hfate : t.Fate change kept) : kept.Coupled := by
  cases hfate with
  | same => exact h
  | extended =>
      exact ⟨h.endTime_iff, h.endReason_iff, h.reason_of_committed, h.reason_of_expired⟩
  | committed => exact .close (by simp) (fun _ => rfl) (by simp)
  | undone =>
      rcases hallowed with ⟨rfl, _⟩ | ⟨rfl, rfl, _⟩
      · exact .close (by simp) (by simp) (by simp)
      · exact .close (by simp) (by simp) fun _ => rfl
  | expired => exact .close (by simp) (by simp) fun _ => rfl

/-- A message that a transaction holds after a change was held by it before, and the change did not
end the transaction, or the transaction has just taken the message. -/
theorem owner_of_fate {m kept : Message} {owner : TransactionId} (h : m.Coupled)
    (hfate : Message.Fate store m change kept) (howner : kept.owner = some owner) :
    (m.owner = some owner ∧ change.ends? ≠ some owner) ∨
      ∃ now, change = .take m owner now ∧ store.IsOpen owner now := by
  cases hfate with
  | same _ hspared =>
      refine .inl ⟨howner, fun hends => ?_⟩
      obtain ⟨hadd, hpull⟩ := hspared owner hends
      exact (h.held_of_owner howner).elim hadd hpull
  | released | processed => cases howner
  | undone | recovered => cases (m.owner_giveBack _).symm.trans howner
  | taken taker now hnext hopen => cases howner; exact .inr ⟨now, rfl, hopen⟩
  | lapsed | outworn => exact .inl ⟨howner, by simp [ends?]⟩

/-- A transaction that may hold messages may do so after a change that does not end it. -/
theorem mayHold_of_fate {t kept : Transaction} (h : t.MayHold) (hfate : t.Fate change kept)
    (hends : change.ends? ≠ some t.id) : kept.MayHold := by
  cases hfate with
  | same | extended => exact h
  | committed | undone => exact absurd rfl hends
  | expired => exact .inr rfl

/-- Every change leaves the rows coupled. -/
theorem coupled_apply (hallowed : change.Allowed store) (hnumbered : store.Numbered)
    (h : store.Coupled) : (change.apply store).Coupled where
  messages := by
    intro m hm
    rcases origin hallowed hnumbered hm with ⟨old, hold, _, hfate⟩ | ⟨draft, rfl, rfl⟩
    · exact message_coupled (h.messages old hold) hfate
    · exact .row _ hallowed.2.2.1
  transactions := by
    intro t ht
    rcases mem_transactions_apply.1 ht with ⟨old, hold, rfl⟩ | hnew
    · exact transaction_coupled hallowed (h.transactions old hold) (change.transaction_fate old)
    · cases change with
      | start now expiry =>
          cases List.mem_singleton.1 hnew
          constructor <;> simp
      | _ => cases hnew
  queues := by
    intro m hm
    rcases mem_messages_apply.1 hm with ⟨old, hold, hkept⟩ | hnew
    · obtain ⟨queue, hqueue, hid⟩ := h.queues old hold
      have hsame := Message.queue_eq_of_content (content_messageAfter hkept)
      refine ⟨queue, mem_queues_apply.2 (.inl ⟨hqueue, ?_⟩), hid.trans hsame.symm⟩
      -- A queue that is dropped takes its messages with it.
      cases change with
      | dropQueue id =>
          simp only [messageAfter] at hkept
          split at hkept
          · cases hkept
          · next hother => simpa [keepsQueue, hid] using hother
      | _ => rfl
    · cases change with
      | add draft =>
          cases List.mem_singleton.1 hnew
          obtain ⟨queue, hfind⟩ := Option.isSome_iff_exists.1 hallowed.1
          obtain ⟨hqueue, hid⟩ := Store.queue?_eq_some hfind
          exact ⟨queue, mem_queues_apply.2 (.inl ⟨hqueue, rfl⟩), hid⟩
      | _ => cases hnew
  owners := by
    -- Who holds a message after the change has just taken or added it, and is open, or held it
    -- before and was not ended by the change: what the transaction that ends holds is let go.
    have hkeeps {id : TransactionId} {t : Transaction} (ht : t ∈ store.transactions)
        (hid : t.id = id) (hholds : t.MayHold) (hends : change.ends? ≠ some id) :
        ∃ t ∈ (change.apply store).transactions, t.id = id ∧ t.MayHold :=
      ⟨change.transactionAfter t, mem_transactions_apply.2 (.inl ⟨t, ht, rfl⟩),
        (change.id_transactionAfter t).trans hid,
        mayHold_of_fate hholds (change.transaction_fate t) (by rw [hid]; exact hends)⟩
    have hopened {id : TransactionId} {now : Instant} (hopen : store.IsOpen id now) :
        ∃ t ∈ store.transactions, t.id = id ∧ t.MayHold := by
      obtain ⟨t, ht, hid, hactive⟩ := hopen.exists_active
      exact ⟨t, ht, hid, .inl (by simpa [Transaction.isActive] using hactive)⟩
    intro m hm owner howner
    rcases origin hallowed hnumbered hm with ⟨old, hold, _, hfate⟩ | ⟨draft, rfl, rfl⟩
    · rcases owner_of_fate (h.messages old hold) hfate howner with
        ⟨hsame, hends⟩ | ⟨now, rfl, hopen⟩
      · obtain ⟨t, ht, hid, hholds⟩ := h.owners old hold owner hsame
        exact hkeeps ht hid hholds hends
      · obtain ⟨t, ht, hid, hholds⟩ := hopened hopen
        exact hkeeps ht hid hholds (by simp [ends?])
    · cases howner
      obtain ⟨t, ht, hid, hholds⟩ := hopened hallowed.2.1
      exact hkeeps ht hid hholds (by simp [ends?])

/-- Every change leaves the store sound. -/
theorem sound_apply (hallowed : change.Allowed store) (h : store.Sound) :
    (change.apply store).Sound :=
  ⟨change.numbered_apply h.numbered, coupled_apply hallowed h.numbered h.coupled⟩

end Change

/-- A sound store is sound after every step. -/
theorem Step.sound_after (step : Step) (h : step.before.store.Sound) : step.after.store.Sound := by
  obtain ⟨change, hallowed, _, hstore⟩ := step.move.explained step.before
  rw [Step.after, Move.after, hstore]
  exact Change.sound_apply hallowed h

namespace Broker

/-- In a run that begins with a sound store, the store is sound before every step. -/
theorem sound_of_mem_trace {broker : Broker} (h : broker.store.Sound) {moves : List Move}
    {step : Step} (hstep : step ∈ trace moves broker) : step.before.store.Sound := by
  induction moves generalizing broker with
  | nil => cases hstep
  | cons move rest ih =>
      rcases List.mem_cons.1 hstep with rfl | hrest
      · exact h
      · exact ih (Step.sound_after ⟨broker, move⟩ h) hrest

/-- After every run the store is sound. -/
theorem play_sound (broker : Broker) (moves : List Move) :
    (play moves broker.emptied).store.Sound :=
  play_store Store.Sound (fun _ _ hallowed h => Change.sound_apply hallowed h) moves
    Store.sound_empty

/-- After every run the columns of every row go together, the queue of every message is found, and
so is the transaction that holds it, which is active or expired. -/
theorem play_coupled (broker : Broker) (moves : List Move) :
    let store := (play moves broker.emptied).store
    (∀ m ∈ store.messages,
      m.Coupled ∧ (∃ queue, store.queue? m.queue = some queue) ∧
        ∀ owner, m.owner = some owner → ∃ t, store.transaction? owner = some t ∧ t.MayHold) ∧
      ∀ t ∈ store.transactions, t.Coupled := by
  obtain ⟨hnumbered, hcoupled⟩ := play_sound broker moves
  refine ⟨fun m hm => ⟨hcoupled.messages m hm, ?_, ?_⟩, hcoupled.transactions⟩
  · obtain ⟨queue, hqueue, hid⟩ := hcoupled.queues m hm
    exact Option.isSome_iff_exists.1 (List.find?_isSome.2 ⟨queue, hqueue, by simpa using hid⟩)
  · intro owner howner
    obtain ⟨t, ht, rfl, hholds⟩ := hcoupled.owners m hm owner howner
    exact ⟨t, hnumbered.transaction?_eq ht, hholds⟩

end Broker

end WorkQueue
