import WorkQueue.Proofs.Run.Clock
import WorkQueue.Proofs.Run.Calls
import WorkQueue.Proofs.Store.Coupling

/-!
# When lifetimes pass

Calls compare the end of a transaction's lifetime with the clock as an instant, and the statements
of the store compare texts. The two agree on all lifetimes that end up to the year 9999. A later
year is written with a sign, which comes before every digit, so the store counts a lifetime that
ends then as past at once: `lifetimes_pass` says exactly what sweeps close and what peeking and
taking pass over, and `not_only_past` is a run in which that is more than it should be.
-/

namespace WorkQueue

/-- Does the store count the end of a lifetime as past? It is past, or it is after the year 9999. -/
def Instant.countsAsPast (expiry now : Instant) : Bool :=
  expiry ≤ now || 9999 < expiry.date.year

/-- Does the store count the message's lifetime as past? Without an end it is not. -/
def Message.countsAsPast (m : Message) (now : Instant) : Bool :=
  m.expiryTime.any fun expiry => expiry.countsAsPast now

/-- What the store counts as past, by the texts that it compares. -/
theorem Instant.storedLe_eq {expiry now : Instant} (h : expiry.WellFormed) (hnow : now.Storable) :
    expiry.storedLe now = expiry.countsAsPast now := by
  rw [Bool.eq_iff_iff, storedLe_iff_of_storable h hnow]
  simp [countsAsPast]

namespace Broker.Timely

variable {broker : Broker} {now : Instant}

/-- The messages that the store counts as past, by the texts that it compares. -/
theorem lifetimePassed_eq (h : broker.Timely) (hnow : now.Storable) {m : Message}
    (hm : m ∈ broker.store.messages) : m.lifetimePassed now = m.countsAsPast now := by
  have hformed := h.messages m hm
  rw [Message.lifetimePassed, Message.countsAsPast]
  cases hexpiry : m.expiryTime with
  | none => rw [Option.any_none, Option.any_none]
  | some expiry =>
      rw [Option.any_some, Option.any_some]
      exact Instant.storedLe_eq (hformed expiry hexpiry) hnow

/-- The first stage of a sweep closes the active transactions that the store counts as past. -/
theorem repair_transactions (h : broker.Timely) (hnow : now.Storable) :
    (SweepStage.transactions.repair now broker.store).2 =
      { broker.store with
        transactions := broker.store.transactions.map fun t =>
          if t.isActive && t.expiryTime.countsAsPast now then t.close .expired now expiredReason
          else t } := by
  have hrows : (broker.store.transactions.map fun t =>
      if t.isActive && t.expiryTime.storedLe now then t.close .expired now expiredReason else t) =
      broker.store.transactions.map fun t =>
        if t.isActive && t.expiryTime.countsAsPast now then t.close .expired now expiredReason
        else t := by
    refine List.map_congr_left fun t ht => ?_
    rw [Instant.storedLe_eq (h.transactions t ht) hnow]
  rw [← hrows]
  rfl

/-- The fourth stage of a sweep closes the active messages that the store counts as past. -/
theorem repair_lifetimes (h : broker.Timely) (hnow : now.Storable) :
    (SweepStage.lifetimes.repair now broker.store).2 =
      { broker.store with
        messages := broker.store.messages.map fun m =>
          if m.state = .active && m.countsAsPast now then m.close .expired now else m } := by
  have hrows : (broker.store.messages.map fun m =>
      if m.state = .active && m.lifetimePassed now then m.close .expired now else m) =
      broker.store.messages.map fun m =>
        if m.state = .active && m.countsAsPast now then m.close .expired now else m := by
    refine List.map_congr_left fun m hm => ?_
    rw [h.lifetimePassed_eq hnow hm]
  rw [← hrows]
  rfl

/-- The next message of a queue is one that the store does not count as past. -/
theorem nextMessage?_eq (h : broker.Timely) (hnow : now.Storable) (queue : QueueId) :
    broker.store.nextMessage? queue now =
      firstMessage (broker.store.messages.filter fun m =>
        m.queue = queue && m.state = .active && m.attempts < m.maxAttempts &&
          !m.countsAsPast now) := by
  refine congrArg firstMessage (List.filter_congr fun m hm => ?_)
  rw [Message.isEligible, h.lifetimePassed_eq hnow hm]

end Broker.Timely

/-- Under an open transaction the work of taking a message is done. -/
theorem Broker.exists_run_dequeue {broker : Broker} {owner : TransactionId} {queue : QueueId}
    {answer : Option Message} {changed : Store} (hbegin : broker.outages.hitsNext = false)
    (hopen : broker.store.IsOpen owner broker.clock)
    (hwork : (Work.dequeue owner queue broker.clock).run broker.store = .ok (answer, changed)) :
    ∃ after, (Broker.dequeue owner queue).run broker = (.ok answer, after) ∧
      after.store = changed ∧ after.clock = broker.clock ∧
        after.outages = broker.outages.pass := by
  have htaken (locks : LockTable Unit) :
      ∃ after, (Broker.takeNext owner queue).run { broker with locks } = (.ok answer, after) ∧
        after.store = changed ∧ after.clock = broker.clock ∧
          after.outages = broker.outages.pass := by
    have hrun : (Broker.under owner broker.clock (Work.dequeue owner queue broker.clock)).run
        { broker with locks } = (.ok answer, _) :=
      Broker.run_under_of_ok hbegin hopen hwork
    rw [Broker.takeNext, Broker.run_now_bind, Broker.run_bind_of_ok hrun]
    cases answer <;> exact ⟨_, rfl, rfl, rfl, rfl⟩
  rw [Broker.dequeue_eq, Broker.holdingClaim]
  simp only [ExceptT.run_mk]
  split
  · exact htaken broker.locks
  · obtain ⟨after, hrun, hafter⟩ := htaken (broker.locks.acquire () queue)
    rw [hrun]
    exact ⟨{ after with locks := after.locks.release () }, rfl, hafter⟩

namespace Move

variable {broker : Broker} {queue : QueueId}

/-- The store after a stage of a sweep that could be begun. -/
theorem store_after_sweep (stage : SweepStage) (instant : Instant)
    (hbegin : broker.outages.hitsNext = false) :
    ((Move.sweep stage instant).after broker).store =
      (stage.repair instant broker.store).2 := by
  rw [after, call, Broker.run_sweepStages_of_ok hbegin]
  rfl

/-- Peeking into a queue that is there shows its next message. -/
theorem answer_peek (hbegin : broker.outages.hitsNext = false)
    (hqueue : (broker.store.queue? queue).isSome) :
    (Move.peek queue).answer broker = .ok (broker.store.nextMessage? queue broker.clock) := by
  have hwork : (Work.peek queue broker.clock).run broker.store =
      .ok (broker.store.nextMessage? queue broker.clock, broker.store) :=
    (Work.run_bind_of_ok (Work.run_requireQueue hqueue)).trans rfl
  rw [answer, call, Broker.peek, Broker.run_now_bind, Broker.run_inStorage_of_ok hbegin hwork]

/-- Under an open transaction the next message of a queue that is there is taken. -/
theorem answer_dequeue {owner : TransactionId} (hbegin : broker.outages.hitsNext = false)
    (hqueue : (broker.store.queue? queue).isSome)
    (hopen : broker.store.IsOpen owner broker.clock) :
    (Move.dequeue owner queue).answer broker =
      .ok ((broker.store.nextMessage? queue broker.clock).map fun m => m.take owner) := by
  obtain ⟨changed, hwork⟩ : ∃ changed,
      (Work.dequeue owner queue broker.clock).run broker.store =
        .ok ((broker.store.nextMessage? queue broker.clock).map fun m => m.take owner,
          changed) := by
    cases hnext : broker.store.nextMessage? queue broker.clock with
    | none => exact ⟨_, Work.run_dequeue_of_none owner hqueue hnext⟩
    | some m => exact ⟨_, Work.run_dequeue_of_some hqueue hopen hnext⟩
  obtain ⟨after, hrun, _⟩ := Broker.exists_run_dequeue hbegin hopen hwork
  exact congrArg Prod.fst hrun

end Move

namespace Broker

/-- After every run along which the clock has a time of day, and for every instant in the years from
0 to 9999: the first stage of a sweep closes the active transactions whose lifetime is past, or ends
after the year 9999, and no others; the fourth stage closes the active messages of which that is so,
and no others; and peeking and taking find the first of the active messages with attempts left of
which it is not so. -/
theorem lifetimes_pass (broker : Broker) (moves : List Move) (now : Instant)
    (hclock : broker.clock.WellFormed)
    (hset : ∀ instant ∈ moves.filterMap Move.clock?, instant.WellFormed) (hnow : now.Storable) :
    let found := { play moves broker.emptied with clock := now, outages := {} }
    let next (queue : QueueId) := firstMessage (found.store.messages.filter fun m =>
      m.queue = queue && m.state = .active && m.attempts < m.maxAttempts && !m.countsAsPast now)
    ((Move.sweep .transactions now).after found).store =
        { found.store with
          transactions := found.store.transactions.map fun t =>
            if t.isActive && (t.isExpiredAt now || 9999 < t.expiryTime.date.year) then
              t.close .expired now expiredReason
            else t } ∧
      ((Move.sweep .lifetimes now).after found).store =
        { found.store with
          messages := found.store.messages.map fun m =>
            if m.state = .active && m.countsAsPast now then m.close .expired now else m } ∧
      ∀ queue, (found.store.queue? queue).isSome →
        (Move.peek queue).answer found = .ok (next queue) ∧
          ∀ owner, found.store.IsOpen owner now →
            (Move.dequeue owner queue).answer found =
              .ok ((next queue).map fun m => m.take owner) := by
  intro found next
  have hplayed : (play moves broker.emptied).Timely := (Timely.emptied hclock).play hset
  have htimely : found.Timely := ⟨hnow.2.2, hplayed.transactions, hplayed.messages⟩
  refine ⟨?_, ?_, ?_⟩
  · rw [Move.store_after_sweep .transactions now rfl]
    exact htimely.repair_transactions hnow
  · rw [Move.store_after_sweep .lifetimes now rfl]
    exact htimely.repair_lifetimes hnow
  · intro queue hqueue
    have hnext : found.store.nextMessage? queue now = next queue :=
      htimely.nextMessage?_eq hnow queue
    refine ⟨?_, fun owner hopen => ?_⟩
    · rw [← hnext]
      exact Move.answer_peek rfl hqueue
    · rw [← hnext]
      exact Move.answer_dequeue rfl hqueue hopen

/-- A run in the year 2025 that commits a message and starts a transaction, both with some eight
thousand years to live, and starts a transaction with a minute to live. -/
def farLifetimes : List Move :=
  [.createQueue "q", .start (.ofSeconds 60),
    .enqueue ⟨1⟩ ⟨1⟩ { payload := [], lifetime := some (.ofSeconds 252_000_000_000) }, .commit ⟨1⟩,
    .start (.ofSeconds 252_000_000_000), .start (.ofSeconds 60)]

/-- Of the two transactions that this run leaves active a sweep closes the one with the longer life,
and nothing is found by peeking or taking. -/
theorem lifetimes_pass_farLifetimes :
    let now : Instant := ⟨1740830400, 0⟩
    let found : Broker :=
      { play farLifetimes (emptied { clock := now }) with clock := now, outages := {} }
    ((Move.sweep .transactions now).after found).store.transactions.map Transaction.state =
        [.committed, .expired, .active] ∧
      (Move.peek ⟨1⟩).answer found = .ok none ∧ (Move.dequeue ⟨3⟩ ⟨1⟩).answer found = .ok none := by
  intro now found
  obtain ⟨hswept, _, hfound⟩ :=
    lifetimes_pass { clock := now } farLifetimes now (by decide) (by decide) (by decide +kernel)
  obtain ⟨hshown, htaken⟩ := hfound ⟨1⟩ (by decide +kernel)
  refine ⟨?_, hshown.trans ?_, (htaken ⟨3⟩ ?_).trans ?_⟩
  · rw [hswept]
    decide +kernel
  all_goals decide +kernel

/-- At its start in the year 2025 a sweep closes the transaction that has some eight thousand years
to live, and the message that lives as long is not shown, though neither lifetime is past. -/
theorem not_only_past :
    let now : Instant := ⟨1740830400, 0⟩
    let found : Broker := play farLifetimes { clock := now }
    (∃ t ∈ found.store.transactions, t.state = .active ∧ t.isExpiredAt now = false ∧
      t.close .expired now expiredReason ∈
        ((Move.sweep .transactions now).after found).store.transactions) ∧
    ∃ m ∈ found.store.messages, m.queue = ⟨1⟩ ∧ m.state = .active ∧ m.attempts < m.maxAttempts ∧
      (m.expiryTime.all fun expiry => ¬ expiry ≤ now) ∧
        (Move.peek ⟨1⟩).answer found = .ok none := by
  decide +kernel

end Broker

end WorkQueue
