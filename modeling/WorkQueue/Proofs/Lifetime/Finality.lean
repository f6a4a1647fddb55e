import WorkQueue.Proofs.Run.Admission
import WorkQueue.Proofs.Store.Coupling

/-!
# Outcomes are final

A transaction that is over keeps its row for good, whatever is done afterwards and wherever the
clock is set: every change of a transaction's row asks for an active one. So every later call under
it is refused, with the outcome as the reason, and leaves the store as it was. A call that comes
upon a lapsed transaction has undone it by the time it says so, which makes this the outcome for all
calls to come: `outcomes_final`.
-/

namespace WorkQueue

namespace Transaction

/-- Why work under the transaction is refused when it is over. -/
def refusal (t : Transaction) : Error :=
  if t.state = .expired then .expired t.id else .closed t.id

end Transaction

namespace Store

variable {store : Store} {id : TransactionId} {t : Transaction}

/-- Work under a transaction that is there is refused for the state of its row. -/
theorem refusal_eq (hfind : store.transaction? id = some t) : store.refusal id = t.refusal := by
  obtain ⟨_, rfl⟩ := transaction?_eq_some hfind
  rw [refusal, hfind, Transaction.refusal]

/-- A transaction that is over is not open. -/
theorem not_isOpen_of_ended (hfind : store.transaction? id = some t) (hended : t.state ≠ .active)
    (now : Instant) : ¬ store.IsOpen id now := by
  rintro ⟨found, hfound, hactive, _⟩
  cases hfound.symm.trans hfind
  exact hended hactive

/-- A transaction that is over has not lapsed. -/
theorem not_hasLapsed_of_ended (hfind : store.transaction? id = some t)
    (hended : t.state ≠ .active) (now : Instant) : ¬ store.HasLapsed id now := by
  rintro ⟨found, hfound, hactive, _⟩
  cases hfound.symm.trans hfind
  exact hended hactive

/-- A transaction that is over keeps its row. -/
theorem transaction?_apply_of_ended (change : Change) (hnumbered : store.Numbered)
    (hfind : store.transaction? id = some t) (hended : t.state ≠ .active) :
    (change.apply store).transaction? id = some t := by
  rw [change.transaction?_apply hnumbered hfind, (change.transaction_fate t).eq_of_ended hended]

end Store

namespace Broker

variable {broker : Broker} {id : TransactionId} {t : Transaction}

/-- A transaction that is over keeps its row along every run. -/
theorem transaction?_play_of_ended (moves : List Move) (hnumbered : broker.store.Numbered)
    (hfind : broker.store.transaction? id = some t) (hended : t.state ≠ .active) :
    (play moves broker).store.transaction? id = some t := by
  refine (play_store (fun store => store.Numbered ∧ store.transaction? id = some t)
    ?_ moves ⟨hnumbered, hfind⟩).2
  rintro change store _ ⟨hnumbered, hfind⟩
  exact ⟨change.numbered_apply hnumbered, store.transaction?_apply_of_ended change hnumbered
    hfind hended⟩

end Broker

namespace Move

variable {broker : Broker} {call : Move} {id : TransactionId} {t : Transaction}

/-- A call under a transaction that is over is refused with the outcome, and leaves the store as it
was. -/
theorem answer_of_ended (howner : call.owner? = some id) (hworks : call.WorksAt broker.clock)
    (hbegin : broker.outages.hitsNext = false) (hfind : broker.store.transaction? id = some t)
    (hended : t.state ≠ .active) :
    call.answer broker = .error t.refusal ∧ (call.after broker).store = broker.store := by
  rw [← Store.refusal_eq hfind]
  exact answer_of_refused howner hworks hbegin (Store.not_isOpen_of_ended hfind hended _)
    (Store.not_hasLapsed_of_ended hfind hended _)

/-- After a call has said that its transaction has expired, this is what the store says. -/
theorem expired_of_answer (hnumbered : broker.store.Numbered) (howner : call.owner? = some id)
    (hanswer : call.answer broker = .error (.expired id)) :
    ∃ t, (call.after broker).store.transaction? id = some t ∧ t.state = .expired := by
  obtain ⟨_, ⟨⟨t, hfind, hexpired⟩, hstore⟩ | ⟨⟨t, hfind, hactive, _⟩, hstore⟩⟩ :=
    expiry_cases howner hanswer
  · rw [hstore]
    exact ⟨t, hfind, hexpired⟩
  · obtain ⟨_, hid⟩ := Store.transaction?_eq_some hfind
    rw [hstore]
    refine ⟨_, Change.transaction?_apply _ hnumbered hfind, ?_⟩
    simp [Change.transactionAfter, Transaction.isActive, Transaction.close, hid, hactive]

end Move

namespace Broker

/-- After every run, and whatever is done afterwards: a transaction that was over has the row that
it had, and every call under it that can be made and whose storage transaction is begun is refused
because the transaction has expired, or else because it is closed, and leaves the store as it was.
If a call has said that a transaction has expired, every such later call says so too. -/
theorem outcomes_final (broker : Broker) (moves later : List Move) :
    let before := play moves broker.emptied
    let after := play later before
    let Refuses (id : TransactionId) (error : Error) : Prop :=
      ∀ call : Move, call.owner? = some id → call.WorksAt after.clock →
        after.outages.hitsNext = false →
          call.answer after = .error error ∧ (call.after after).store = after.store
    (∀ id t, before.store.transaction? id = some t → t.state ≠ .active →
      after.store.transaction? id = some t ∧
        Refuses id (if t.state = .expired then .expired id else .closed id)) ∧
      ∀ step ∈ trace moves broker.emptied, ∀ id, step.move.owner? = some id →
        step.move.answer step.before = .error (.expired id) → Refuses id (.expired id) := by
  intro before after Refuses
  -- Being over is looked at where the transaction was ended, which is before the later moves in the
  -- first part, and in the midst of the run in the second.
  have hrefuses : ∀ start rest id t, start.store.Numbered → play rest start = after →
      start.store.transaction? id = some t → t.state ≠ .active →
      after.store.transaction? id = some t ∧ Refuses id t.refusal := by
    intro start rest id t hnumbered hplayed hfind hended
    have hkept : after.store.transaction? id = some t :=
      hplayed ▸ transaction?_play_of_ended rest hnumbered hfind hended
    exact ⟨hkept, fun call howner hworks hbegin =>
      Move.answer_of_ended howner hworks hbegin hkept hended⟩
  refine ⟨fun id t hfind hended => ?_, fun step hstep id howner hsaid => ?_⟩
  · obtain ⟨_, rfl⟩ := Store.transaction?_eq_some hfind
    exact hrefuses before later t.id t (play_sound broker moves).numbered rfl hfind hended
  · obtain ⟨earlier, rest, rfl, hbefore⟩ := exists_moves_of_mem_trace hstep
    have hsound : step.before.store.Sound := hbefore ▸ play_sound broker earlier
    obtain ⟨t, hfind, hexpired⟩ := Move.expired_of_answer hsound.numbered howner hsaid
    obtain ⟨_, rfl⟩ := Store.transaction?_eq_some hfind
    have hplayed : play (rest ++ later) step.after = after := by
      show play (rest ++ later) step.after =
        play later (play (earlier ++ step.move :: rest) broker.emptied)
      rw [play_append, play_append, ← hbefore]
      rfl
    have hrefused := hrefuses step.after (rest ++ later) t.id t (step.sound_after hsound).numbered
      hplayed hfind (by rw [hexpired]; decide)
    rw [Transaction.refusal, if_pos hexpired] at hrefused
    exact hrefused.2

/-- A run that commits one transaction, rolls a second back, and comes upon a third when its minute
has passed. -/
def threeEnded : List Move :=
  [.start (.ofSeconds 60), .start (.ofSeconds 60), .start (.ofSeconds 60), .commit ⟨1⟩,
    .rollback ⟨2⟩ "", .setClock ⟨60, 0⟩, .commit ⟨3⟩]

/-- The outcomes of that run stand when the clock is set back to its start, also for calls about a
queue that is not there. -/
theorem outcomes_final_threeEnded :
    let after := play [.setClock ⟨0, 0⟩] (play threeEnded { clock := ⟨0, 0⟩ })
    (Move.dequeue ⟨1⟩ ⟨9⟩).answer after = .error (.closed ⟨1⟩) ∧
      (Move.extend ⟨2⟩ (.ofSeconds 60)).answer after = .error (.closed ⟨2⟩) ∧
      (Move.enqueue ⟨3⟩ ⟨9⟩ { payload := [] }).answer after = .error (.expired ⟨3⟩) ∧
      (Move.commit ⟨3⟩).answer after = .error (.expired ⟨3⟩) := by
  intro after
  obtain ⟨hended, hsaid⟩ := outcomes_final { clock := ⟨0, 0⟩ } threeEnded [.setClock ⟨0, 0⟩]
  have hfirst := (hended ⟨1⟩ ⟨⟨1⟩, .committed, ⟨0, 0⟩, ⟨60, 0⟩, some ⟨0, 0⟩, some committedReason⟩
    (by decide +kernel) (by decide)).2
  have hsecond := (hended ⟨2⟩ ⟨⟨2⟩, .rolledBack, ⟨0, 0⟩, ⟨60, 0⟩, some ⟨0, 0⟩, some ""⟩
    (by decide +kernel) (by decide)).2
  have hthird := hsaid ⟨play (threeEnded.take 6) { clock := ⟨0, 0⟩ }, .commit ⟨3⟩⟩
    (by decide +kernel) ⟨3⟩ rfl (by decide +kernel)
  exact ⟨(hfirst (.dequeue ⟨1⟩ ⟨9⟩) rfl trivial rfl).1,
    (hsecond (.extend ⟨2⟩ (.ofSeconds 60)) rfl ⟨⟨60, 0⟩, by decide +kernel⟩ rfl).1,
    (hthird (.enqueue ⟨3⟩ ⟨9⟩ { payload := [] }) rfl ⟨rfl, none, rfl⟩ rfl).1,
    (hthird (.commit ⟨3⟩) rfl trivial rfl).1⟩

end Broker

end WorkQueue
