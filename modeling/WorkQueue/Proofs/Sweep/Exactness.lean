import WorkQueue.Proofs.Delivery.Ranking
import WorkQueue.Proofs.Sweep.Differences
import WorkQueue.Proofs.Sweep.Frequency

/-!
# What a sweep does, exactly

A sweep that is completed ends the transactions whose lifetime is over, gives up what expired
transactions hold, and closes the active messages whose own lifetime is over or that have no
attempts left: `Store.sweptAt` says so with instants compared as instants and without the stages.
What a sweep can do to a message is told by cases in `Message.Swept`. A message that was given back
can be closed by the same sweep, so the report of a sweep is compared with what is seen of each row
afterwards, and not with the state in which the row ends: `sweep_exact`.
-/

namespace WorkQueue

/-- The transaction as a sweep leaves it: an active one has expired if its lifetime is over. -/
def Transaction.sweptAt (t : Transaction) (now : Instant) : Transaction :=
  if t.isActive && t.isExpiredAt now then t.close .expired now expiredReason else t

/-- Has the transaction expired when a sweep has looked at it? -/
def Store.isOverAt (store : Store) (now : Instant) (id : TransactionId) : Bool :=
  store.transactions.any fun t => t.id = id && (t.sweptAt now).state = .expired

/-- Is the message's own lifetime over? Without an end it is not. -/
def Message.isExpiredAt (m : Message) (now : Instant) : Bool :=
  m.expiryTime.any fun expiry => expiry ≤ now

/-- An active message as a sweep leaves it: closed if its lifetime is over, or else if it has no
attempts left. -/
def Message.agedAt (m : Message) (now : Instant) : Message :=
  if m.isExpiredAt now then m.close .expired now
  else if m.maxAttempts ≤ m.attempts then m.close .attemptsExceeded now
  else m

namespace Store

/-- Does a transaction that is over hold the message for this action? -/
def isAbandoned (store : Store) (now : Instant) (action : TransactionAction) (m : Message) : Bool :=
  m.state = .inTransaction && m.action = some action && m.owner.any (store.isOverAt now)

/-- The message as a sweep leaves it, unless it is deleted. -/
def sweptMessage (store : Store) (now : Instant) (m : Message) : Option Message :=
  if store.isAbandoned now .add m then none
  else if store.isAbandoned now .pull m then
    if m.isLastAttempt then some (m.exhaust now) else some (m.requeue.agedAt now)
  else if m.state = .active then some (m.agedAt now)
  else some m

/-- The store as a sweep leaves it. -/
def sweptAt (store : Store) (now : Instant) : Store :=
  { store with
    transactions := store.transactions.map fun t => t.sweptAt now
    messages := store.messages.filterMap (store.sweptMessage now) }

end Store

/-- Was the transaction repaired in the step, to judge by the store that is left? -/
def Transaction.wasRepaired (t : Transaction) (after : Store) (step : SweepStep) : Bool :=
  step = .expireTransactions && t.state = .active &&
    (after.transaction? t.id).any fun left => left.state = .expired

/-- Was the message repaired in the step, to judge by the store that is left? A message that was
given back may be closed as well, and is then repaired in two steps. -/
def Message.wasRepaired (m : Message) (after : Store) (step : SweepStep) : Bool :=
  match step with
  | .expireTransactions => false
  | .discardOrphanedAdds => m.action = some .add && (after.message? m.id).isNone
  | .requeueOrphanedPulls =>
      m.action = some .pull && m.owner.any after.hasExpired &&
        (after.message? m.id).any fun left =>
          left.attempts = m.attempts + 1 && (left.state = .active || left.state = .expired)
  | .exhaustOrphanedPulls =>
      m.action = some .pull && m.owner.any after.hasExpired &&
        (after.message? m.id).any fun left =>
          left.attempts = m.attempts + 1 && left.state = .attemptsExceeded
  | .expireMessages =>
      m.state ≠ .expired && (after.message? m.id).any fun left => left.state = .expired
  | .closeExhaustedMessages =>
      m.state = .active && (after.message? m.id).any fun left => left.state = .attemptsExceeded

/-- The number of rows that were repaired in a step, to judge by the stores before and after. -/
def Store.repairedRows (before after : Store) (step : SweepStep) : Nat :=
  before.transactions.countP (fun t => t.wasRepaired after step) +
    before.messages.countP fun m => m.wasRepaired after step

/-! ## One message -/

/-- What a sweep can do to a message of a store: the steps that repair it, and what is left. -/
inductive Message.Swept (store : Store) (now : Instant) (m : Message) :
    List SweepStep → Option Message → Prop
  | discarded (hadded : store.isAbandoned now .add m = true) :
      Swept store now m [.discardOrphanedAdds] none
  | exhausted (htaken : store.isAbandoned now .pull m = true) (hlast : m.isLastAttempt = true) :
      Swept store now m [.exhaustOrphanedPulls] (some (m.exhaust now))
  | requeued (htaken : store.isAbandoned now .pull m = true) (hmore : m.isLastAttempt = false)
      (hlives : m.isExpiredAt now = false) :
      Swept store now m [.requeueOrphanedPulls] (some m.requeue)
  | requeuedLate (htaken : store.isAbandoned now .pull m = true) (hmore : m.isLastAttempt = false)
      (hover : m.isExpiredAt now = true) :
      Swept store now m [.requeueOrphanedPulls, .expireMessages]
        (some (m.requeue.close .expired now))
  | expired (hactive : m.state = .active) (hover : m.isExpiredAt now = true) :
      Swept store now m [.expireMessages] (some (m.close .expired now))
  | outworn (hactive : m.state = .active) (hlives : m.isExpiredAt now = false)
      (hworn : m.maxAttempts ≤ m.attempts) :
      Swept store now m [.closeExhaustedMessages] (some (m.close .attemptsExceeded now))
  | spared (hfree : ∀ action, store.isAbandoned now action m = false)
      (hlives : m.state = .active → m.isExpiredAt now = false ∧ m.attempts < m.maxAttempts) :
      Swept store now m [] (some m)

namespace Message.Swept

variable {store : Store} {now : Instant} {m : Message} {steps : List SweepStep}
  {left : Option Message}

/-- What is left of a message is what the closed form says. -/
theorem left_eq (h : m.Swept store now steps left) : left = store.sweptMessage now m := by
  have hadd (htaken : store.isAbandoned now .pull m = true) :
      store.isAbandoned now .add m = false := by
    simp_all [Store.isAbandoned]
  have hheld (hactive : m.state = .active) (action : TransactionAction) :
      store.isAbandoned now action m = false := by
    simp [Store.isAbandoned, hactive]
  have hmoreAttempts (hmore : m.isLastAttempt = false) :
      ¬ m.requeue.maxAttempts ≤ m.requeue.attempts := by
    simpa [isLastAttempt, requeue] using hmore
  unfold Store.sweptMessage
  cases h with
  | discarded hadded => rw [if_pos hadded]
  | exhausted htaken hlast => simp only [hadd htaken, htaken, hlast, if_true]; rfl
  | requeued htaken hmore hlives =>
      have haged : m.requeue.agedAt now = m.requeue := by
        have hlives' : m.requeue.isExpiredAt now = false := hlives
        simp [agedAt, hlives', hmoreAttempts hmore]
      simp [hadd htaken, htaken, hmore, haged]
  | requeuedLate htaken hmore hover =>
      have haged : m.requeue.agedAt now = m.requeue.close .expired now := if_pos hover
      simp [hadd htaken, htaken, hmore, haged]
  | expired hactive hover => simp [hheld hactive, hactive, agedAt, hover]
  | outworn hactive hlives hworn => simp [hheld hactive, hactive, agedAt, hlives, hworn]
  | spared hfree hlives =>
      simp only [hfree, Bool.false_eq_true, if_false]
      split
      · next hactive =>
          obtain ⟨hexpiry, hattempts⟩ := hlives hactive
          simp [agedAt, hexpiry, hattempts]
      · rfl

/-- The steps that repair a message are the steps that are seen from what is left of it. -/
theorem count_steps (h : m.Swept store now steps left) {after : Store}
    (hleft : after.message? m.id = left) (hover : after.hasExpired = store.isOverAt now)
    (step : SweepStep) : steps.count step = if m.wasRepaired after step then 1 else 0 := by
  have htaken {action : TransactionAction} (h : store.isAbandoned now action m = true) :
      m.state = .inTransaction ∧ m.action = some action ∧
        m.owner.any after.hasExpired = true := by
    rw [hover]
    simpa [Store.isAbandoned, and_assoc] using h
  cases h with
  | discarded hadded =>
      obtain ⟨hstate, haction, _⟩ := htaken hadded
      cases step <;> simp [wasRepaired, hleft, hstate, haction]
  | exhausted hpulled =>
      obtain ⟨hstate, haction, howner⟩ := htaken hpulled
      cases step <;> simp [wasRepaired, hleft, hstate, haction, howner, exhaust]
  | requeued hpulled =>
      obtain ⟨hstate, haction, howner⟩ := htaken hpulled
      cases step <;> simp [wasRepaired, hleft, hstate, haction, howner, requeue]
  | requeuedLate hpulled =>
      obtain ⟨hstate, haction, howner⟩ := htaken hpulled
      cases step <;> simp [wasRepaired, hleft, hstate, haction, howner, requeue, close]
  | expired hactive | outworn hactive =>
      cases step <;> simp [wasRepaired, hleft, hactive, close]
  | spared =>
      cases step <;> cases hstate : m.state <;> simp [wasRepaired, hleft, hstate]

end Message.Swept

/-- The step that repairs a transaction is the step that is seen from what is left of it. -/
theorem Transaction.count_steps (t : Transaction) {now : Instant} {after : Store}
    (hleft : after.transaction? t.id = some (t.sweptAt now)) (step : SweepStep) :
    (if t.isActive && t.isExpiredAt now then [SweepStep.expireTransactions] else []).count step =
      if t.wasRepaired after step then 1 else 0 := by
  unfold wasRepaired
  rw [hleft, sweptAt]
  split
  · next hover =>
      have hactive : t.state = .active := of_decide_eq_true (Bool.and_eq_true_iff.1 hover).1
      cases step <;> simp [hactive, close]
  · cases hstate : t.state <;> simp [hstate]

namespace SweepStage

variable {store : Store} {now : Instant} {m : Message}

variable {expired : TransactionId → Bool}

/-- A sweep closes an active message whose lifetime has passed, whatever attempts are left. -/
theorem sweepMessage_of_late (hstate : m.state = .active) (hpassed : m.lifetimePassed now = true) :
    sweepMessage expired now m = ([.expireMessages], some (m.close .expired now)) := by
  simp [sweepMessage, onMessageAll, ofMessages, Repair.andThen, onMessage, findsOrphan, hstate,
    hpassed, Message.close]

/-- A sweep closes an active message that has no attempts left. -/
theorem sweepMessage_of_outworn (hstate : m.state = .active)
    (hpassed : m.lifetimePassed now = false) (hworn : m.maxAttempts ≤ m.attempts) :
    sweepMessage expired now m =
      ([.closeExhaustedMessages], some (m.close .attemptsExceeded now)) := by
  simp [sweepMessage, onMessageAll, ofMessages, Repair.andThen, onMessage, findsOrphan, hstate,
    hpassed, hworn]

/-- A sweep does nothing to a message that is not active and that no expired transaction holds. -/
theorem sweepMessage_of_free (hstate : m.state ≠ .active)
    (hfree : ∀ action, findsOrphan expired action m = false) :
    sweepMessage expired now m = ([], some m) := by
  simp [sweepMessage, onMessageAll, ofMessages, Repair.andThen, onMessage, hfree, hstate]

/-- What a sweep does to a message is one of what it can do, with lifetimes compared as instants. -/
theorem swept_sweepMessage (hpassed : m.lifetimePassed now = m.isExpiredAt now) :
    m.Swept store now (sweepMessage (store.isOverAt now) now m).1
      (sweepMessage (store.isOverAt now) now m).2 := by
  cases hadded : store.isAbandoned now .add m with
  | true =>
      rw [sweepMessage_of_added hadded]
      exact .discarded hadded
  | false =>
      cases htaken : store.isAbandoned now .pull m with
      | true =>
          cases hlast : m.isLastAttempt with
          | true =>
              rw [sweepMessage_of_last htaken hlast]
              exact .exhausted htaken hlast
          | false =>
              have hmore : m.requeue.attempts < m.requeue.maxAttempts := by
                simpa [Message.isLastAttempt, Message.requeue] using hlast
              have hsame : m.requeue.lifetimePassed now = m.isExpiredAt now := hpassed
              rw [sweepMessage_of_taken htaken hlast, sweepMessage_of_active _ now rfl hmore, hsame]
              cases hover : m.isExpiredAt now with
              | true => exact .requeuedLate htaken hlast hover
              | false => exact .requeued htaken hlast hover
      | false =>
          have hfree (action : TransactionAction) : store.isAbandoned now action m = false := by
            cases action
            · exact hadded
            · exact htaken
          by_cases hactive : m.state = .active
          · cases hover : m.isExpiredAt now with
            | true =>
                rw [sweepMessage_of_late hactive (hpassed.trans hover)]
                exact .expired hactive hover
            | false =>
                have hlives : m.lifetimePassed now = false := hpassed.trans hover
                by_cases hworn : m.maxAttempts ≤ m.attempts
                · rw [sweepMessage_of_outworn hactive hlives hworn]
                  exact .outworn hactive hover hworn
                · rw [sweepMessage_of_active _ now hactive (Nat.not_le.1 hworn), hlives]
                  exact .spared hfree fun _ => ⟨hover, Nat.not_le.1 hworn⟩
          · rw [sweepMessage_of_free hactive hfree]
            exact .spared hfree fun h => absurd h hactive

end SweepStage

/-! ## The store -/

/-- The stored lifetime of a message has passed when it is over. -/
theorem Message.lifetimePassed_eq_isExpiredAt {m : Message} {now : Instant} (hm : m.Storable)
    (hnow : now.Storable) : m.lifetimePassed now = m.isExpiredAt now := by
  unfold lifetimePassed isExpiredAt
  cases hexpiry : m.expiryTime with
  | none => rfl
  | some expiry =>
      have hpassed := Instant.storedLe_iff (hm.expiryTime expiry hexpiry) hnow
      simp only [Option.any_some, Bool.eq_iff_iff.2 (hpassed.trans decide_eq_true_iff.symm)]

/-- The stored lifetime of a transaction has passed when it is over. -/
theorem Transaction.storedLe_eq_isExpiredAt {t : Transaction} {now : Instant}
    (ht : t.expiryTime.Storable) (hnow : now.Storable) :
    t.expiryTime.storedLe now = t.isExpiredAt now := by
  rw [Bool.eq_iff_iff, Instant.storedLe_iff ht hnow, isExpiredAt, decide_eq_true_eq]

namespace Store

variable {store : Store} {now : Instant}

/-- What a sweep leaves of a message was made from what the message was made from. -/
theorem content_sweptMessage {m kept : Message} (h : store.sweptMessage now m = some kept) :
    kept.content = m.content := by
  unfold sweptMessage Message.agedAt at h
  split at h
  · cases h
  · repeat' split at h
    all_goals cases h; rfl

/-- Transactions keep their numbers. -/
theorem id_sweptAt (t : Transaction) (now : Instant) : (t.sweptAt now).id = t.id := by
  unfold Transaction.sweptAt
  split <;> rfl

/-- What has expired after a sweep is what was over. -/
theorem hasExpired_sweptAt (store : Store) (now : Instant) :
    (store.sweptAt now).hasExpired = store.isOverAt now := by
  funext id
  simp only [hasExpired, sweptAt, List.any_map, Function.comp_def, id_sweptAt, isOverAt]

namespace Numbered

variable (h : store.Numbered)
include h

/-- A store is numbered after a sweep. -/
theorem sweptAt (now : Instant) : (store.sweptAt now).Numbered where
  queues := h.queues
  transactions := h.transactions.map fun t => congrArg TransactionId.value (id_sweptAt t now)
  messages := h.messages.filterMap fun _ _ hkept =>
    congrArg MessageId.value (Message.id_eq_of_content (content_sweptMessage hkept))

/-- A transaction is found after a sweep as the sweep leaves it. -/
theorem transaction?_sweptAt {t : Transaction} (ht : t ∈ store.transactions) :
    (store.sweptAt now).transaction? t.id = some (t.sweptAt now) := by
  rw [← id_sweptAt t now]
  exact (h.sweptAt now).transaction?_eq (List.mem_map.2 ⟨t, ht, rfl⟩)

/-- A message is found after a sweep as the sweep leaves it, and is not found if it is deleted. -/
theorem message?_sweptAt {m : Message} (hm : m ∈ store.messages) :
    (store.sweptAt now).message? m.id = store.sweptMessage now m := by
  cases hleft : store.sweptMessage now m with
  | some kept =>
      rw [← Message.id_eq_of_content (content_sweptMessage hleft)]
      exact (h.sweptAt now).message?_eq (List.mem_filterMap.2 ⟨m, hm, hleft⟩)
  | none =>
      refine List.find?_eq_none.2 fun row hrow hid => ?_
      obtain ⟨old, hold, hkept⟩ := List.mem_filterMap.1 hrow
      have hsame : old.id = m.id :=
        (Message.id_eq_of_content (content_sweptMessage hkept)).symm.trans (of_decide_eq_true hid)
      rw [h.message_eq hold hm hsame, hleft] at hkept
      cases hkept

end Numbered

end Store

namespace SweepStage

variable {store : Store} {now : Instant}

/-- A sweep expires the transactions whose lifetime is over. -/
theorem onTransaction_eq (hstored : store.Storable) (hnow : now.Storable) {t : Transaction}
    (ht : t ∈ store.transactions) :
    transactions.onTransaction now t =
      (if t.isActive && t.isExpiredAt now then [.expireTransactions] else [],
        some (t.sweptAt now)) := by
  have hpassed := Transaction.storedLe_eq_isExpiredAt (hstored.transactions t ht) hnow
  simp only [onTransaction, Transaction.sweptAt, hpassed]
  split <;> rfl

/-- The transactions that a sweep leaves. -/
theorem leave_transactions (hstored : store.Storable) (hnow : now.Storable) :
    (transactions.onTransaction now).leave store.transactions =
      store.transactions.map fun t => t.sweptAt now := by
  rw [Repair.leave, ← List.filterMap_eq_map]
  refine List.filterMap_congr fun t ht => ?_
  rw [onTransaction_eq hstored hnow ht]
  rfl

/-- What has expired for the later stages of a sweep is what is over. -/
theorem expiredAt_eq (hstored : store.Storable) (hnow : now.Storable) :
    expiredAt store now = store.isOverAt now := by
  rw [expiredAt, leave_transactions hstored hnow]
  exact store.hasExpired_sweptAt now

/-- What a sweep does to the messages of a store. -/
theorem swept (hstored : store.Storable) (hnow : now.Storable) {m : Message}
    (hm : m ∈ store.messages) :
    m.Swept store now (sweepMessage (expiredAt store now) now m).1
      (sweepMessage (expiredAt store now) now m).2 := by
  rw [expiredAt_eq hstored hnow]
  exact swept_sweepMessage
    (Message.lifetimePassed_eq_isExpiredAt (hstored.messages m hm) hnow)

/-- A whole sweep leaves what the closed form says. -/
theorem repairAll_eq_sweptAt (hstored : store.Storable) (hnow : now.Storable) :
    repairAll all now store = store.sweptAt now := by
  have hmessages : (sweepMessage (expiredAt store now) now).leave store.messages =
      store.messages.filterMap (store.sweptMessage now) :=
    List.filterMap_congr fun m hm => (swept hstored hnow hm).left_eq
  rw [(sweep_eq now store).1, leave_transactions hstored hnow, hmessages]
  rfl

/-- A whole sweep reports in each step the rows that were repaired in it, to judge by the stores
before and after. -/
theorem rowsOf_eq_repairedRows (hnumbered : store.Numbered) (hstored : store.Storable)
    (hnow : now.Storable) (step : SweepStep) :
    SweepReport.rowsOf (rowsAll now all store) step =
      store.repairedRows (store.sweptAt now) step := by
  rw [(sweep_eq now store).2, Store.repairedRows]
  congr 1
  · refine Repair.count_eq_countP_of_mem fun t ht => ?_
    rw [onTransaction_eq hstored hnow ht]
    exact t.count_steps (hnumbered.transaction?_sweptAt ht) step
  · refine Repair.count_eq_countP_of_mem fun m hm => ?_
    have hswept := swept hstored hnow hm
    refine hswept.count_steps ?_ (store.hasExpired_sweptAt now) step
    rw [hnumbered.message?_sweptAt hm, hswept.left_eq]

/-- What a sweep can do to a message is what it leaves of it. -/
theorem exists_swept (hstored : store.Storable) (hnow : now.Storable) {m : Message}
    (hm : m ∈ store.messages) : ∃ steps, m.Swept store now steps (store.sweptMessage now m) := by
  have hswept := swept hstored hnow hm
  exact ⟨_, hswept.left_eq ▸ hswept⟩

end SweepStage

/-! ## What is left -/

namespace Store

variable {store : Store} {now : Instant}

/-- After a sweep no active transaction is past its lifetime. -/
theorem lives_of_mem_sweptAt {t : Transaction} (ht : t ∈ (store.sweptAt now).transactions)
    (hactive : t.state = .active) : t.isExpiredAt now = false := by
  obtain ⟨old, _, rfl⟩ := List.mem_map.1 ht
  by_cases hover : (old.isActive && old.isExpiredAt now) = true
  · rw [Transaction.sweptAt, if_pos hover] at hactive
    cases hactive
  · rw [Transaction.sweptAt, if_neg hover] at hactive ⊢
    simpa [Transaction.isActive, hactive] using hover

/-- After a sweep no active message is past its lifetime or out of attempts. -/
theorem available_of_mem_sweptAt (hstored : store.Storable) (hnow : now.Storable) {m : Message}
    (hm : m ∈ (store.sweptAt now).messages) (hactive : m.state = .active) :
    m.isExpiredAt now = false ∧ m.attempts < m.maxAttempts := by
  obtain ⟨old, hold, hleft⟩ := List.mem_filterMap.1 hm
  obtain ⟨steps, hswept⟩ := SweepStage.exists_swept hstored hnow hold
  rw [hleft] at hswept
  cases hswept with
  | exhausted | requeuedLate | expired | outworn => cases hactive
  | requeued htaken hmore hlives =>
      exact ⟨hlives, by simpa [Message.isLastAttempt, Message.requeue] using hmore⟩
  | spared hfree hlives => exact hlives hactive

/-- After a sweep no expired transaction holds a message. -/
theorem not_hasExpired_of_mem_sweptAt (hcoupled : store.Coupled) (hstored : store.Storable)
    (hnow : now.Storable) {m : Message} (hm : m ∈ (store.sweptAt now).messages)
    {owner : TransactionId} (howner : m.owner = some owner) :
    (store.sweptAt now).hasExpired owner = false := by
  obtain ⟨old, hold, hleft⟩ := List.mem_filterMap.1 hm
  obtain ⟨steps, hswept⟩ := SweepStage.exists_swept hstored hnow hold
  have hfree (hactive : old.state = .active) (howner : old.owner = some owner) : False := by
    have hheld := (hcoupled.messages old hold).owner_iff.1 (by rw [howner]; rfl)
    cases hactive.symm.trans hheld
  rw [hleft] at hswept
  rw [hasExpired_sweptAt]
  cases hswept with
  | exhausted | requeued | requeuedLate => cases howner
  | expired hactive | outworn hactive => exact (hfree hactive howner).elim
  | spared hfree =>
      have hcolumns := hcoupled.messages m hold
      have hheld : m.state = .inTransaction := hcolumns.owner_iff.1 (by rw [howner]; rfl)
      obtain ⟨action, haction⟩ := Option.isSome_iff_exists.1 (hcolumns.action_iff.2 hheld)
      simpa [isAbandoned, hheld, haction, howner] using hfree action

/-- A transaction that is not past its lifetime, or not active any more, is as it was after a
sweep. -/
theorem mem_sweptAt_of_spared {t : Transaction} (ht : t ∈ store.transactions)
    (hspared : t.state = .active → t.isExpiredAt now = false) :
    t ∈ (store.sweptAt now).transactions := by
  refine List.mem_map.2 ⟨t, ht, if_neg fun hover => ?_⟩
  obtain ⟨hactive, hexpired⟩ := Bool.and_eq_true_iff.1 hover
  cases (hspared (of_decide_eq_true hactive)).symm.trans hexpired

/-- A message whose transaction, if it has one, stays active, and which can still be taken if it is
active itself, is as it was after a sweep. -/
theorem message_mem_sweptAt_of_spared {m : Message} (hm : m ∈ store.messages)
    (hlives : m.state = .active → m.isExpiredAt now = false ∧ m.attempts < m.maxAttempts)
    (howner : ∀ t ∈ store.transactions, m.owner = some t.id →
      t.state = .active ∧ t.isExpiredAt now = false) :
    m ∈ (store.sweptAt now).messages := by
  have hfree (action : TransactionAction) : store.isAbandoned now action m = false := by
    refine Bool.eq_false_iff.2 fun habandoned => ?_
    obtain ⟨owner, hmem, hover⟩ :=
      (Option.any_eq_true _ _).1 (Bool.and_eq_true_iff.1 habandoned).2
    obtain ⟨t, ht, hparts⟩ := List.any_eq_true.1 hover
    rw [Bool.and_eq_true, decide_eq_true_eq, decide_eq_true_eq] at hparts
    obtain ⟨rfl, hexpired⟩ := hparts
    obtain ⟨hactive, hfuture⟩ := howner t ht hmem
    rw [Transaction.sweptAt, if_neg (by simp [hfuture]), hactive] at hexpired
    cases hexpired
  have hspared : m.Swept store now [] (some m) := .spared hfree hlives
  exact List.mem_filterMap.2 ⟨m, hm, hspared.left_eq.symm⟩

end Store

/-! ## The report of a sweep that had nothing to do -/

namespace Repair

variable {Row : Type} {first second : Repair Row} {rows : List Row}

/-- Does the look leave a row as it was when no step repairs it? -/
def ChangesByStepsOnly (repair : Repair Row) : Prop :=
  ∀ row, (repair row).1 = [] → (repair row).2 = some row

/-- Two looks that change rows by steps only do so together. -/
theorem ChangesByStepsOnly.andThen (hfirst : first.ChangesByStepsOnly)
    (hsecond : second.ChangesByStepsOnly) : (first.andThen second).ChangesByStepsOnly := by
  intro row hnothing
  rw [Repair.andThen] at hnothing ⊢
  have hsame := hfirst row
  rcases hlook : first row with ⟨steps, _ | left⟩ <;> rw [hlook] at hnothing hsame
  · exact hsame hnothing
  · obtain ⟨hsteps, hrest⟩ := List.append_eq_nil_iff.1 hnothing
    have hleft : left = row := Option.some.inj (hsame hsteps)
    rw [hleft] at hrest ⊢
    exact hsecond row hrest

/-- A look that changes rows by steps only, and counts none in any step, changes none. -/
theorem ChangesByStepsOnly.leave_eq (h : first.ChangesByStepsOnly)
    (hnone : ∀ step, first.count step rows = 0) : first.leave rows = rows := by
  induction rows with
  | nil => rfl
  | cons row rest ih =>
      have hparts (step : SweepStep) :
          (first row).1.count step = 0 ∧ first.count step rest = 0 :=
        Nat.add_eq_zero_iff.1 (hnone step)
      have hnothing : (first row).1 = [] :=
        List.eq_nil_iff_forall_not_mem.2 fun step => List.count_eq_zero.1 (hparts step).1
      have hleave : first.leave (row :: rest) = row :: first.leave rest :=
        List.filterMap_cons_some (h row hnothing)
      rw [hleave, ih fun step => (hparts step).2]

end Repair

/-- A report is empty when it has no rows in any step. -/
theorem SweepReport.isEmpty_iff (report : SweepReport) :
    report.isEmpty = true ↔ ∀ step, report.get step = 0 := by
  rw [isEmpty, decide_eq_true_eq, total]
  constructor
  · intro hnone step
    cases step <;> simp only [get] <;> omega
  · intro hnone
    have := hnone .expireTransactions
    have := hnone .discardOrphanedAdds
    have := hnone .requeueOrphanedPulls
    have := hnone .exhaustOrphanedPulls
    have := hnone .expireMessages
    have := hnone .closeExhaustedMessages
    simp only [get] at *
    omega

namespace SweepStage

/-- The stages change messages by steps only. -/
theorem changesByStepsOnly_onMessageAll (expired : TransactionId → Bool) (now : Instant)
    (stages : List SweepStage) : (onMessageAll expired now stages).ChangesByStepsOnly := by
  induction stages with
  | nil => exact fun _ _ => rfl
  | cons stage rest ih =>
      exact Repair.ChangesByStepsOnly.andThen (fun _ => onMessage_snd_of_nothing) ih

/-- The report of a sweep is empty if and only if the sweep has changed nothing. -/
theorem isEmpty_ofRows_iff (now : Instant) (store : Store) :
    (SweepReport.ofRows (rowsAll now all store)).isEmpty = true ↔
      repairAll all now store = store := by
  obtain ⟨hstore, hrows⟩ := sweep_eq now store
  constructor
  · intro hempty
    have hnone (step : SweepStep) := (SweepReport.isEmpty_iff _).1 hempty step
    simp only [SweepReport.get_ofRows, hrows, Nat.add_eq_zero_iff] at hnone
    have htransactions : (transactions.onTransaction now).ChangesByStepsOnly :=
      fun _ => onTransaction_snd_of_nothing
    rw [hstore, htransactions.leave_eq fun step => (hnone step).1,
      sweepMessage, (changesByStepsOnly_onMessageAll _ now ofMessages).leave_eq
        fun step => (hnone step).2]
  · intro hsame
    -- What a sweep leaves is settled, so a sweep that leaves the store as it was found nothing.
    have hsettled (stage : SweepStage) : store.Settled stage now := by
      rw [← hsame]
      exact settled_repairAll stage now store
    rw [(repairAll_of_settled fun stage _ => hsettled stage).2]
    rfl

end SweepStage

namespace Broker

/-- After every run, whose sweeps may have stopped halfway, and for every instant, in the years
from 0 to 9999: a sweep that meets no outage is completed, and a sweep that is completed leaves the
store of the closed form. Then no active transaction is past its lifetime, no expired transaction
holds a message, and no active message is past its lifetime or out of attempts. The report counts in
each step the rows that were repaired in it, to judge by the stores before and after. Transactions
and messages without a reason to be repaired are as they were, and so are messages whose owner stays
active, whatever their own lifetime. The report is empty exactly if the store is as it was. -/
theorem sweep_exact (broker : Broker) (moves : List Move) {now : Instant} (hnow : now.Storable)
    (hstored : (play moves broker.emptied).store.Storable) :
    let reached := play moves broker.emptied
    let before := reached.store
    let swept := (sweepAt now).run reached
    let after := swept.2.store
    (reached.outages = {} → ∃ report, swept.1 = .ok report) ∧
      ∀ report, swept.1 = .ok report →
        after = before.sweptAt now ∧
        (∀ t ∈ after.transactions, t.state = .active → t.isExpiredAt now = false) ∧
        (∀ m ∈ after.messages, ∀ owner, m.owner = some owner → after.hasExpired owner = false) ∧
        (∀ m ∈ after.messages, m.state = .active →
          m.isExpiredAt now = false ∧ m.attempts < m.maxAttempts) ∧
        (∀ step, report.get step = before.repairedRows after step) ∧
        (∀ t ∈ before.transactions, (t.state = .active → t.isExpiredAt now = false) →
          t ∈ after.transactions) ∧
        (∀ m ∈ before.messages,
          (m.state = .active → m.isExpiredAt now = false ∧ m.attempts < m.maxAttempts) →
          (∀ t ∈ before.transactions, m.owner = some t.id →
            t.state = .active ∧ t.isExpiredAt now = false) →
          m ∈ after.messages) ∧
        (report.isEmpty = true ↔ after = before) := by
  intro reached before swept after
  obtain ⟨hnumbered, hcoupled⟩ : before.Sound := play_sound broker moves
  obtain ⟨hanswer, hstore⟩ := run_sweepAt now reached
  refine ⟨fun hcalm => ?_, fun report hreport => ?_⟩
  · rw [hcalm, Outages.untilFirst_empty] at hanswer
    exact ⟨_, hanswer.trans (if_pos rfl)⟩
  · have hmade : reached.outages.untilFirst SweepStage.all.length = SweepStage.all.length := by
      by_contra hstopped
      rw [if_neg hstopped] at hanswer
      cases hanswer.symm.trans hreport
    rw [if_pos hmade] at hanswer
    rw [hmade, List.take_length] at hstore
    have hafter : after = SweepStage.repairAll SweepStage.all now before := hstore
    obtain rfl : SweepReport.ofRows (SweepStage.rowsAll now SweepStage.all before) = report :=
      Except.ok.inj (hanswer.symm.trans hreport)
    have hclosed : after = before.sweptAt now :=
      hafter.trans (SweepStage.repairAll_eq_sweptAt hstored hnow)
    rw [hclosed]
    refine ⟨rfl, ?_, ?_, ?_, ?_, ?_, ?_, ?_⟩
    · exact fun t ht => Store.lives_of_mem_sweptAt ht
    · exact fun m hm owner => Store.not_hasExpired_of_mem_sweptAt hcoupled hstored hnow hm
    · exact fun m hm => Store.available_of_mem_sweptAt hstored hnow hm
    · intro step
      rw [SweepReport.get_ofRows]
      exact SweepStage.rowsOf_eq_repairedRows hnumbered hstored hnow step
    · exact fun t ht => Store.mem_sweptAt_of_spared ht
    · exact fun m hm => Store.message_mem_sweptAt_of_spared hm
    · rw [← SweepStage.repairAll_eq_sweptAt hstored hnow]
      exact SweepStage.isEmpty_ofRows_iff now before

/-- A run that ends in a sweep which stopped after its first stage. The transaction that expired
has taken three messages, of which one has a minute and a half to live and another may be given back
once only, and was adding one. A fourth message lives as long and is held by a transaction with an
hour, a fifth is there to be taken, and one more transaction is active with half a minute. -/
def stoppedHalfway : List Move :=
  let short : NewMessage := { payload := [], lifetime := some (.ofSeconds 90) }
  [.createQueue "q", .start (.ofSeconds 60), .enqueue ⟨1⟩ ⟨1⟩ short,
    .enqueue ⟨1⟩ ⟨1⟩ { payload := [], maxAttempts := 1 }, .enqueue ⟨1⟩ ⟨1⟩ { payload := [] },
    .enqueue ⟨1⟩ ⟨1⟩ short, .enqueue ⟨1⟩ ⟨1⟩ short, .commit ⟨1⟩, .start (.ofSeconds 60),
    .dequeue ⟨2⟩ ⟨1⟩, .dequeue ⟨2⟩ ⟨1⟩, .dequeue ⟨2⟩ ⟨1⟩, .start (.ofSeconds 3600),
    .dequeue ⟨3⟩ ⟨1⟩, .enqueue ⟨2⟩ ⟨1⟩ { payload := [] }, .sweep .transactions ⟨60, 0⟩,
    .start (.ofSeconds 30)]

/-- After two minutes one transaction more expires, and the sixth message is deleted. The first is
given back and expires, so that it is counted twice, and the fourth stays with its transaction. -/
theorem sweep_exact_stoppedHalfway :
    let reached := play stoppedHalfway (emptied { clock := ⟨0, 0⟩ })
    let swept := (sweepAt ⟨120, 0⟩).run reached
    swept.1 = .ok ⟨1, 1, 2, 1, 2, 0⟩ ∧ swept.2.store = reached.store.sweptAt ⟨120, 0⟩ ∧
      (swept.2.store.messages.map fun m => (m.id.value, m.state, m.attempts)) =
        [(1, .expired, 1), (2, .attemptsExceeded, 1), (3, .active, 1), (4, .inTransaction, 0),
          (5, .expired, 0)] ∧
      reached.store.repairedRows swept.2.store .requeueOrphanedPulls = 2 ∧
      ∀ m ∈ reached.store.messages, m.id = ⟨4⟩ →
        m.isExpiredAt ⟨120, 0⟩ = true ∧ m ∈ swept.2.store.messages := by
  have hnow : Instant.Storable ⟨120, 0⟩ := by decide +kernel
  have hreport : ((sweepAt ⟨120, 0⟩).run (play stoppedHalfway (emptied { clock := ⟨0, 0⟩ }))).1 =
      .ok ⟨1, 1, 2, 1, 2, 0⟩ := by decide +kernel
  have hexact := sweep_exact { clock := ⟨0, 0⟩ } stoppedHalfway hnow (by decide +kernel)
  dsimp only at hexact ⊢
  obtain ⟨hclosed, _, _, _, hcounts, _⟩ := hexact.2 _ hreport
  exact ⟨hreport, hclosed, by decide +kernel, (hcounts .requeueOrphanedPulls).symm,
    by decide +kernel⟩

end Broker

end WorkQueue
