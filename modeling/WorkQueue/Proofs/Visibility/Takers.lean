import WorkQueue.Proofs.Delivery.Tally
import WorkQueue.Proofs.Visibility.Barrier

/-!
# Who took a message last

The transaction that was the last to take a message holds it until it gives it back or is
committed. A processed message was therefore taken last by a committed transaction, and was closed
when that was committed. Together with what stands before messages that are added, this is what
clients see of transactions: all of what one did, or nothing.
-/

namespace WorkQueue

/-- The transaction that was the last to take the message. -/
def lastTaker (steps : List Step) (id : MessageId) : Option TransactionId :=
  (((steps.filterMap Step.delivery?).filter fun delivery => delivery.1 = id).getLast?).map Prod.snd

/-- A step that delivers the message has the last taker. -/
theorem lastTaker_append_of_delivery (steps : List Step) {step : Step} {id : MessageId}
    {owner : TransactionId} (h : step.delivery? = some (id, owner)) :
    lastTaker (steps ++ [step]) id = some owner := by
  simp [lastTaker, h]

/-- A step that does not deliver the message leaves its last taker. -/
theorem lastTaker_append_of_not_delivers (steps : List Step) {step : Step} {id : MessageId}
    (h : step.delivers id = false) : lastTaker (steps ++ [step]) id = lastTaker steps id := by
  rw [Step.delivers] at h
  cases hdelivery : step.delivery? with
  | none => simp [lastTaker, hdelivery]
  | some delivery =>
      rw [hdelivery] at h
      have hother : delivery.1 ≠ id := by simpa using h
      simp [lastTaker, hdelivery, hother]

/-- The steps know who took a message last: whoever has it, or a transaction that was committed when
the message was closed. -/
structure Message.TakenBy (m : Message) (store : Store) (last : Option TransactionId) : Prop where
  of_taken : m.isTaken = true → m.owner = last
  of_processed : m.state = .processed → ∃ t ∈ store.transactions, last = some t.id ∧
    t.state = .committed ∧ ∃ instant, m.closeTime = some instant ∧ t.endTime = some instant

namespace Message.TakenBy

variable {store : Store} {m kept : Message} {change : Change} {last next : Option TransactionId}

/-- A message that is neither taken nor processed was taken by anybody. -/
theorem of_not_isOut (h : m.isOut = false) : m.TakenBy store last := by
  simp only [isOut, Bool.or_eq_false_iff, decide_eq_false_iff_not] at h
  exact ⟨fun htaken => absurd htaken (by simp [h.1]), fun hprocessed => absurd hprocessed h.2⟩

/-- A committed transaction is there after every change, as it was. -/
theorem mem_apply_of_committed {t : Transaction} (ht : t ∈ store.transactions)
    (hstate : t.state = .committed) : t ∈ (change.apply store).transactions := by
  refine Change.mem_transactions_apply.2 (.inl ⟨t, ht, ?_⟩)
  exact (change.transaction_fate t).eq_of_ended (by rw [hstate]; decide)

/-- A message whose taking is committed was taken by the transaction that is committed. -/
theorem process {id : TransactionId} {now : Instant}
    (hallowed : (Change.commit id now).Allowed store) (h : m.TakenBy store last)
    (htaken : m.isHeldBy id .pull = true) :
    (m.moveTo .processed now).TakenBy ((Change.commit id now).apply store) last := by
  have hlast := h.of_taken (isTaken_of_isHeldBy htaken)
  rw [(isHeldBy_iff.1 htaken).1] at hlast
  obtain ⟨t, hfind, hactive, _⟩ := hallowed
  obtain ⟨ht, rfl⟩ := Store.transaction?_eq_some hfind
  have hafter : t.close .committed now committedReason ∈
      ((Change.commit t.id now).apply store).transactions := by
    refine Change.mem_transactions_apply.2 (.inl ⟨t, ht, ?_⟩)
    simp [Change.transactionAfter, Transaction.isActive, hactive]
  refine ⟨?_, fun _ => ⟨_, hafter, hlast.symm, rfl, now, rfl, rfl⟩⟩
  rintro ⟨⟩

/-- What becomes of a message goes together with who took it last. -/
theorem of_fate (hallowed : change.Allowed store) (h : m.TakenBy store last)
    (hfate : Message.Fate store m change kept)
    (hnext : ∀ owner, change.delivery? = some (m.id, owner) → next = some owner)
    (hsame : change.delivers m.id = false → next = last) :
    kept.TakenBy (change.apply store) next := by
  cases hfate with
  | same _ _ hnot =>
      rw [hsame hnot]
      refine ⟨h.of_taken, fun hprocessed => ?_⟩
      obtain ⟨t, ht, hlast, hstate, hclosed⟩ := h.of_processed hprocessed
      exact ⟨t, mem_apply_of_committed ht hstate, hlast, hstate, hclosed⟩
  | released => exact of_not_isOut rfl
  | processed id now htaken =>
      rw [hsame rfl]
      exact h.process hallowed htaken
  | undone id target reason now => exact of_not_isOut (m.isOut_giveBack now)
  | recovered now => exact of_not_isOut (m.isOut_giveBack now)
  | taken owner now =>
      rw [hnext owner rfl]
      refine ⟨fun _ => rfl, ?_⟩
      rintro ⟨⟩
  | lapsed | outworn => exact of_not_isOut rfl

end Message.TakenBy

/-- The rows after a step know who took a message last. -/
theorem Step.takenBy_after (step : Step) (h : step.before.store.Sound) (steps : List Step)
    (hbefore : ∀ m ∈ step.before.store.messages,
      m.TakenBy step.before.store (lastTaker steps m.id))
    {kept : Message} (hkept : kept ∈ step.after.store.messages) :
    kept.TakenBy step.after.store (lastTaker (steps ++ [step]) kept.id) := by
  obtain ⟨change, hallowed, hcomes, hstore⟩ := step.explained
  rw [hstore] at hkept ⊢
  rcases Change.origin hallowed h.numbered hkept with ⟨m, hm, hcontent, hfate⟩ | ⟨draft, _, rfl⟩
  · rw [Message.id_eq_of_content hcontent]
    refine (hbefore m hm).of_fate hallowed hfate ?_ ?_
    · intro owner hdelivery
      exact lastTaker_append_of_delivery steps (hcomes.delivery_eq.trans hdelivery)
    · intro hnot
      exact lastTaker_append_of_not_delivers steps ((delivers_eq hcomes m.id).trans hnot)
  · exact .of_not_isOut rfl

namespace Broker

/-- After every run the rows know who took a message last. -/
theorem play_takenBy (broker : Broker) (moves : List Move) :
    ∀ m ∈ (play moves broker.emptied).store.messages,
      m.TakenBy (play moves broker.emptied).store
        (lastTaker (trace moves broker.emptied) m.id) := by
  refine (play_invariant
    (fun steps broker => broker.store.Sound ∧
      ∀ m ∈ broker.store.messages, m.TakenBy broker.store (lastTaker steps m.id))
    ⟨Store.sound_empty, ?_⟩ ?_ moves).2
  · intro m hm
    cases hm
  · rintro steps before move ⟨hsound, htaken⟩
    have hsound' : (move.after before).store.Sound := Step.sound_after ⟨before, move⟩ hsound
    exact ⟨hsound', fun m hm => Step.takenBy_after ⟨before, move⟩ hsound steps htaken hm⟩

/-- After every run, a message that was added under a transaction is in its hands unless the
transaction is committed, and is out of them then; it is gone if the transaction is rolled back, and
gone or still in its hands if the transaction has expired. So it is neither shown nor delivered
before the transaction is committed. And a processed message was taken last by a transaction that is
committed, and was closed when that ended. -/
theorem all_or_nothing (broker : Broker) (moves : List Move) :
    let start := broker.emptied
    let after := play moves start
    (∀ step ∈ trace moves start, ∀ id owner, step.addition? = some (id, owner) →
      ∃ t, after.store.transaction? owner = some t ∧
        (∀ m, after.store.message? id = some m → m.isHeldBy owner .add = false →
          t.state = .committed) ∧
        (t.state = .committed →
          ∀ m, after.store.message? id = some m → m.isHeldBy owner .add = false) ∧
        (t.state = .rolledBack → after.store.message? id = none) ∧
        (t.state = .expired →
          ∀ m, after.store.message? id = some m → m.isHeldBy owner .add = true) ∧
        (∀ queue m, (Move.peek queue).answer after = .ok (some m) → m.id = id →
          t.state = .committed) ∧
        ∀ taker queue m, (Move.dequeue taker queue).answer after = .ok (some m) → m.id = id →
          t.state = .committed) ∧
    ∀ m ∈ after.store.messages, m.state = .processed →
      ∃ owner t, lastTaker (trace moves start) m.id = some owner ∧
        after.store.transaction? owner = some t ∧ t.state = .committed ∧
        ∃ instant, m.closeTime = some instant ∧ t.endTime = some instant := by
  intro start after
  have hnumbered := (play_sound broker moves).numbered
  refine ⟨?_, ?_⟩
  · intro step hstep id owner hadds
    obtain ⟨t, ht, rfl, htells⟩ := play_barrier broker moves step hstep id owner hadds
    have hfound {m : Message} (hfind : after.store.message? id = some m) :
        m.Barred t.id t.state :=
      htells.told m (Store.message?_eq_some hfind).1 (Store.message?_eq_some hfind).2
    refine ⟨t, hnumbered.transaction?_eq ht, ?_, ?_, ?_, ?_, ?_, ?_⟩
    · intro m hfind hnot
      exact (hfound hfind).committed_of_not_held hnot
    · intro hstate m hfind
      have hbarred := hfound hfind
      rw [hstate] at hbarred
      exact Bool.eq_false_iff.2 hbarred
    · intro hstate
      cases hfind : after.store.message? id with
      | none => rfl
      | some m =>
          have hbarred := hfound hfind
          rw [hstate] at hbarred
          exact hbarred.elim
    · intro hstate m hfind
      have hbarred := hfound hfind
      rw [hstate] at hbarred
      exact hbarred
    · intro queue m hshown hid
      obtain ⟨hm, hactive⟩ := Move.mem_of_peek hshown
      exact (htells.told m hm hid).committed_of_active hactive
    · intro taker queue m htaken hid
      obtain ⟨old, hold, hsame, hactive⟩ := Move.exists_of_dequeue htaken
      exact (htells.told old hold (hsame.trans hid)).committed_of_active hactive
  · intro m hm hprocessed
    obtain ⟨t, ht, hlast, hstate, hclosed⟩ :=
      (play_takenBy broker moves m hm).of_processed hprocessed
    exact ⟨t.id, t, hlast, hnumbered.transaction?_eq ht, hstate, hclosed⟩

end Broker

end WorkQueue
