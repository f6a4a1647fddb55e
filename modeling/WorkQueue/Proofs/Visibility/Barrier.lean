import WorkQueue.Proofs.Store.Coupling

/-!
# Messages behind their transactions

A message that was added under a transaction stays in its hands until the transaction is committed,
and is gone once the transaction is rolled back. In between lies the transaction that has expired:
its messages are gone where it was found lapsed, and are still in its hands where only a stage of a
sweep has seen it. So nobody sees a message whose transaction was not committed.
-/

namespace WorkQueue

/-- What is so of a message that was added under a transaction in some state. -/
def Message.Barred (m : Message) (owner : TransactionId) : TransactionState → Prop
  | .active | .expired => m.isHeldBy owner .add = true
  | .committed => ¬ m.isHeldBy owner .add = true
  | .rolledBack => False

/-- A message that is not in the hands of the transaction that added it has seen it committed. -/
theorem Message.Barred.committed_of_not_held {m : Message} {owner : TransactionId}
    {state : TransactionState} (h : m.Barred owner state) (hnot : m.isHeldBy owner .add = false) :
    state = .committed := by
  cases state with
  | active | expired => cases hnot.symm.trans h
  | committed => rfl
  | rolledBack => exact h.elim

/-- An active message has seen the transaction committed that added it. -/
theorem Message.Barred.committed_of_active {m : Message} {owner : TransactionId}
    {state : TransactionState} (h : m.Barred owner state) (hactive : m.state = .active) :
    state = .committed :=
  h.committed_of_not_held (by simp [isHeldBy, hactive])

/-- The transaction under which a message was added is there, and the message, if it is there, is
as it must be. -/
def Barrier (id : MessageId) (owner : TransactionId) (store : Store) : Prop :=
  ∃ t ∈ store.transactions, t.id = owner ∧ store.Tells id fun m => m.Barred owner t.state

namespace Change

variable {change : Change} {store : Store} {m kept : Message} {t after : Transaction}

/-- A message that a transaction is adding after a change is as it was before it. -/
theorem eq_of_isHeldBy_add {owner : TransactionId} (hfate : Message.Fate store m change kept)
    (h : kept.isHeldBy owner .add = true) : kept = m := by
  obtain ⟨howner, haction, hstate⟩ := Message.isHeldBy_iff.1 h
  cases hfate with
  | same => rfl
  | released | processed => cases howner
  | undone | recovered => cases (m.owner_giveBack _).symm.trans howner
  | taken => cases haction
  | lapsed | outworn => cases hstate

/-- A message that an active or expired transaction is adding stays in its hands until the
transaction is committed. -/
theorem barred_of_held (hallowed : change.Allowed store) (hnumbered : store.Numbered)
    (ht : t ∈ store.transactions) (htfate : t.Fate change after)
    (hstate : t.state = .active ∨ t.state = .expired) (hheld : m.isHeldBy t.id .add = true)
    (hfate : Message.Fate store m change kept) : kept.Barred t.id after.state := by
  obtain ⟨howner, haction, hin⟩ := Message.isHeldBy_iff.1 hheld
  cases hfate with
  | same _ hspared =>
      cases htfate with
      | same => rcases hstate with hstate | hstate <;> rw [hstate] <;> exact hheld
      | extended now expiry hactive =>
          show m.Barred t.id t.state
          rw [hactive]
          exact hheld
      | committed | undone => exact absurd hheld (hspared t.id rfl).1
      | expired => exact hheld
  | released id now hadded =>
      -- The transaction that is committed is the one that added the message, and it was active.
      cases (Message.isHeldBy_iff.1 hadded).1.symm.trans howner
      obtain ⟨found, hfind, hactive, _⟩ := hallowed
      cases hfind.symm.trans (hnumbered.transaction?_eq ht)
      cases htfate with
      | same _ hends => exact absurd rfl (hends hactive)
      | committed => exact Bool.false_ne_true
  | processed id now htaken | undone id target reason now htaken =>
      cases haction.symm.trans (Message.isHeldBy_iff.1 htaken).2.1
  | recovered now horphan =>
      cases haction.symm.trans (Message.isTaken_iff.1 (Message.isTaken_of_isOrphan horphan)).2
  | taken owner now hnext =>
      cases hin.symm.trans (Message.isEligible_iff.1 (Store.nextMessage?_eq_some hnext).2).2.1
  | lapsed now hactive | outworn now hactive => cases hin.symm.trans hactive

/-- A message behind its transaction is so after every change. -/
theorem barred_of_fate (hallowed : change.Allowed store) (hnumbered : store.Numbered)
    (ht : t ∈ store.transactions) (htfate : t.Fate change after)
    (h : m.Barred t.id t.state) (hfate : Message.Fate store m change kept) :
    kept.Barred t.id after.state := by
  cases hstate : t.state with
  | active =>
      rw [hstate] at h
      exact barred_of_held hallowed hnumbered ht htfate (.inl hstate) h hfate
  | expired =>
      rw [hstate] at h
      exact barred_of_held hallowed hnumbered ht htfate (.inr hstate) h hfate
  | committed =>
      rw [htfate.eq_of_ended (by rw [hstate]; decide)]
      rw [hstate] at h ⊢
      intro hheld
      rw [eq_of_isHeldBy_add hfate hheld] at hheld
      exact h hheld
  | rolledBack =>
      rw [hstate] at h
      exact h.elim

/-- A message that has just been added is behind its transaction. -/
theorem barrier_of_add {draft : MessageDraft} (hallowed : (Change.add draft).Allowed store)
    (hnumbered : store.Numbered) :
    Barrier ⟨store.lastMessage + 1⟩ draft.owner ((Change.add draft).apply store) := by
  obtain ⟨t, hfind, hactive, _⟩ := hallowed.2.1
  obtain ⟨ht, hid⟩ := Store.transaction?_eq_some hfind
  refine ⟨t, mem_transactions_apply.2 (.inl ⟨t, ht, rfl⟩), hid, ?_⟩
  refine ⟨Nat.le_refl _, fun m hm hsame => ?_⟩
  rcases mem_messages_apply.1 hm with ⟨old, hold, hkept⟩ | hnew
  · cases hkept
    have hle := hnumbered.messages.le_last m hold
    rw [hsame] at hle
    exact absurd hle (Nat.not_succ_le_self _)
  · rw [List.mem_singleton.1 hnew, hactive]
    exact Message.isHeldBy_iff.2 ⟨rfl, rfl, rfl⟩

end Change

namespace Move

variable {broker : Broker} {queue : QueueId} {m : Message}

/-- A message that is shown by peeking is there, and active. -/
theorem mem_of_peek (h : (Move.peek queue).answer broker = .ok (some m)) :
    m ∈ broker.store.messages ∧ m.state = .active := by
  obtain ⟨change, _, hcomes, _⟩ := (Move.peek queue).explained broker
  rw [answer] at h
  generalize ((Move.peek queue).call.run broker).1 = shown at h hcomes
  cases hcomes with
  | refused | lapsed => cases h
  | looked _ _ hlook => cases hlook
  | peeked =>
      obtain ⟨hm, heligible⟩ := Store.nextMessage?_eq_some (Except.ok.inj h)
      exact ⟨hm, (Message.isEligible_iff.1 heligible).2.1⟩

/-- A message that is delivered was there, and active. -/
theorem exists_of_dequeue {taker : TransactionId}
    (h : (Move.dequeue taker queue).answer broker = .ok (some m)) :
    ∃ old ∈ broker.store.messages, old.id = m.id ∧ old.state = .active := by
  obtain ⟨change, hallowed, hcomes, _⟩ := (Move.dequeue taker queue).explained broker
  have hdelivers : change.delivers m.id = true := by
    rw [answer] at h
    rw [Change.delivers, ← hcomes.delivery_eq, h]
    simp [delivery?]
  obtain ⟨old, hold, hid, hactive, _⟩ := Change.exists_active_of_delivers hallowed hdelivers
  exact ⟨old, hold, hid, hactive⟩

end Move

/-- The barrier stands after every change. -/
theorem Barrier.apply {store : Store} {id : MessageId} {owner : TransactionId}
    (h : Barrier id owner store) {change : Change} (hallowed : change.Allowed store)
    (hnumbered : store.Numbered) : Barrier id owner (change.apply store) := by
  obtain ⟨t, ht, rfl, htells⟩ := h
  have hafter : change.transactionAfter t ∈ (change.apply store).transactions :=
    Change.mem_transactions_apply.2 (.inl ⟨t, ht, rfl⟩)
  refine ⟨_, hafter, change.id_transactionAfter t, htells.apply hallowed hnumbered ?_⟩
  intro m kept _ _ hbarred hfate
  exact Change.barred_of_fate hallowed hnumbered ht (change.transaction_fate t) hbarred hfate

namespace Broker

/-- After every run the barrier stands for every message that was added. -/
theorem play_barrier (broker : Broker) (moves : List Move) :
    ∀ step ∈ trace moves broker.emptied, ∀ id owner, step.addition? = some (id, owner) →
      Barrier id owner (play moves broker.emptied).store := by
  refine (play_invariant
    (fun steps broker => broker.store.Sound ∧
      ∀ step ∈ steps, ∀ id owner, step.addition? = some (id, owner) →
        Barrier id owner broker.store)
    ⟨Store.sound_empty, nofun⟩ ?_ moves).2
  rintro steps before move ⟨hsound, hbarrier⟩
  refine ⟨Step.sound_after ⟨before, move⟩ hsound, ?_⟩
  obtain ⟨change, hallowed, hcomes, hstore⟩ := Step.explained ⟨before, move⟩
  have hafter : (move.after before).store = change.apply before.store := hstore
  intro step hstep id owner hadds
  rw [hafter]
  rcases List.mem_append.1 hstep with hold | hnew
  · exact (hbarrier step hold id owner hadds).apply hallowed hsound.numbered
  · rw [List.mem_singleton.1 hnew, Step.addition?, hcomes.addition_eq] at hadds
    cases change with
    | add draft => cases hadds; exact Change.barrier_of_add hallowed hsound.numbered
    | _ => cases hadds

end Broker

end WorkQueue
