import WorkQueue.Proofs.Store.Coupling
import WorkQueue.Proofs.Sweep.Restart
import WorkQueue.Proofs.Sweep.Rows

/-!
# How often the store is swept

A sweep, and a later sweep after it, leave what the later sweep alone would have left, but for the
stamps of the instants at which rows were ended; and what the two report adds up to what the one
reports: `sweep_frequency`. This is shown row by row. A row that both sweeps repair was brought to
its end by the first, or was given back by the first and is looked at by the second as it would have
been after being given back by the second itself. That a message which has been given back has
attempts left is needed here, and holds of every store that calls have left behind.
-/

namespace WorkQueue

/-- The transaction without the stamp of its end: that there is one remains. -/
def Transaction.unstamped (t : Transaction) : Transaction :=
  { t with endTime := t.endTime.map fun _ => ⟨0, 0⟩ }

/-- The message without the stamp of its end: that there is one remains. -/
def Message.unstamped (m : Message) : Message :=
  { m with closeTime := m.closeTime.map fun _ => ⟨0, 0⟩ }

/-- The store without the stamps of the ends of its rows. -/
def Store.unstamped (store : Store) : Store :=
  { store with
    transactions := store.transactions.map Transaction.unstamped
    messages := store.messages.map Message.unstamped }

namespace Repair

variable {Row : Type} {first second : Repair Row} {strip : Row → Row} {rows : List Row} {row : Row}

/-- Two looks repair a row in the same steps, and leave the same of it but for what is stripped. -/
def Agree (strip : Row → Row) (first second : Repair Row) (row : Row) : Prop :=
  (first row).1 = (second row).1 ∧ (first row).2.map strip = (second row).2.map strip

/-- To look twice is to look once when the first look finds nothing. -/
theorem agree_of_nothing (h : first row = ([], some row)) :
    Agree strip (first.andThen second) second row := by
  rw [Agree, andThen, h]
  exact ⟨rfl, rfl⟩

/-- To look twice is to look once when the second look finds nothing more, and would have found the
same in the first place. -/
theorem agree_of_done {left other : Row} {steps : List SweepStep}
    (hfirst : first row = (steps, some left))
    (hdone : second left = ([], some left)) (honce : second row = (steps, some other))
    (hstrip : strip left = strip other) : Agree strip (first.andThen second) second row := by
  rw [Agree, andThen, hfirst, honce]
  dsimp only
  rw [hdone, List.append_nil]
  exact ⟨rfl, congrArg some hstrip⟩

/-- What is left of some rows, when two looks agree on each. -/
theorem map_leave_of_agree (h : ∀ row ∈ rows, Agree strip first second row) :
    (first.leave rows).map strip = (second.leave rows).map strip := by
  rw [leave, leave, List.map_filterMap, List.map_filterMap]
  exact List.filterMap_congr fun row hrow => (h row hrow).2

/-- What is counted of some rows, when two looks agree on each. -/
theorem count_of_agree (h : ∀ row ∈ rows, Agree strip first second row) (step : SweepStep) :
    first.count step rows = second.count step rows :=
  count_congr fun row hrow => congrArg (List.count step) (h row hrow).1

end Repair

namespace SweepStage

variable {m : Message} {now first second : Instant} {expired earlier later : TransactionId → Bool}

/-! ## Transactions -/

/-- To end lapsed transactions early and then late is to end them late. -/
theorem onTransaction_twice (hle : first.storedLe second = true) (t : Transaction) :
    Repair.Agree Transaction.unstamped
      ((transactions.onTransaction first).andThen (transactions.onTransaction second))
      (transactions.onTransaction second) t := by
  by_cases hdue : (t.isActive && t.expiryTime.storedLe first) = true
  · have hparts := Bool.and_eq_true_iff.1 hdue
    have hlate : (t.isActive && t.expiryTime.storedLe second) = true :=
      Bool.and_eq_true_iff.2 ⟨hparts.1, Instant.storedLe_trans hparts.2 hle⟩
    exact Repair.agree_of_done (if_pos hdue) rfl (if_pos hlate) rfl
  · exact Repair.agree_of_nothing (if_neg hdue)

/-- Which transactions have expired is seen without the stamps. -/
theorem hasExpired_congr {store other : Store}
    (h : other.transactions.map Transaction.unstamped =
      store.transactions.map Transaction.unstamped) :
    other.hasExpired = store.hasExpired := by
  have hseen (rows : List Transaction) (id : TransactionId) :
      (rows.any fun t => t.id = id && t.state = .expired) =
        (rows.map Transaction.unstamped).any fun t => t.id = id && t.state = .expired := by
    rw [List.any_map]
    rfl
  funext id
  rw [Store.hasExpired, hseen, h, ← hseen, ← Store.hasExpired]

/-- What has expired for an early sweep has expired for a late one. -/
theorem expiredAt_mono (hle : first.storedLe second = true) {store : Store} {id : TransactionId}
    (h : expiredAt store first id = true) : expiredAt store second id = true := by
  obtain ⟨t, ht, hexpired⟩ := List.any_eq_true.1 h
  obtain ⟨old, hold, hleft⟩ := List.mem_filterMap.1 ht
  refine List.any_eq_true.2 ?_
  by_cases hdue : (old.isActive && old.expiryTime.storedLe first) = true
  · have hparts := Bool.and_eq_true_iff.1 hdue
    have hlate : (old.isActive && old.expiryTime.storedLe second) = true :=
      Bool.and_eq_true_iff.2 ⟨hparts.1, Instant.storedLe_trans hparts.2 hle⟩
    have hclosed : t = old.close .expired first expiredReason := by
      simpa [onTransaction, hdue] using hleft.symm
    refine ⟨old.close .expired second expiredReason,
      List.mem_filterMap.2 ⟨old, hold, congrArg Prod.snd (if_pos hlate)⟩, ?_⟩
    rw [hclosed] at hexpired
    exact hexpired
  · have hsame : t = old := by simpa [onTransaction, hdue] using hleft.symm
    rw [hsame] at hexpired
    -- An expired transaction is not active, so the later sweep leaves it alone.
    have hlate : ¬ (old.isActive && old.expiryTime.storedLe second) = true := by
      intro hactive
      simp_all [Transaction.isActive]
    exact ⟨old, List.mem_filterMap.2 ⟨old, hold, congrArg Prod.snd (if_neg hlate)⟩, hexpired⟩

/-! ## Messages -/

/-- A sweep does nothing to a message at the end of its life. -/
theorem sweepMessage_of_terminal (h : m.state.isTerminal = true) :
    sweepMessage expired now m = ([], some m) := by
  cases hstate : m.state <;>
    simp_all [sweepMessage, onMessageAll, ofMessages, Repair.andThen, onMessage, findsOrphan,
      MessageState.isTerminal]

/-- Of an active message with attempts left a sweep asks only whether its lifetime has passed. -/
theorem sweepMessage_of_active (expired : TransactionId → Bool) (now : Instant)
    (hstate : m.state = .active) (hattempts : m.attempts < m.maxAttempts) :
    sweepMessage expired now m =
      if m.lifetimePassed now then ([.expireMessages], some (m.close .expired now))
      else ([], some m) := by
  cases hpassed : m.lifetimePassed now <;>
    simp [sweepMessage, onMessageAll, ofMessages, Repair.andThen, onMessage, findsOrphan, hstate,
      hpassed, Message.close, Nat.not_le.2 hattempts]

/-- A sweep does nothing to a message in a transaction that has not expired. -/
theorem sweepMessage_of_kept (hstate : m.state = .inTransaction)
    (howner : m.owner.any expired = false) : sweepMessage expired now m = ([], some m) := by
  simp [sweepMessage, onMessageAll, ofMessages, Repair.andThen, onMessage, findsOrphan, hstate,
    howner]

/-- A sweep discards a message that an expired transaction was adding. -/
theorem sweepMessage_of_added (h : findsOrphan expired .add m = true) :
    sweepMessage expired now m = ([.discardOrphanedAdds], none) := by
  simp [sweepMessage, onMessageAll, ofMessages, Repair.andThen, onMessage, h]

/-- A sweep closes a message that an expired transaction had taken for the last time. -/
theorem sweepMessage_of_last (h : findsOrphan expired .pull m = true)
    (hlast : m.isLastAttempt = true) :
    sweepMessage expired now m = ([.exhaustOrphanedPulls], some (m.exhaust now)) := by
  simp_all [sweepMessage, onMessageAll, ofMessages, Repair.andThen, onMessage, findsOrphan,
    Message.exhaust]

/-- A sweep gives back a message that an expired transaction had taken, and then goes on with
it. -/
theorem sweepMessage_of_taken (h : findsOrphan expired .pull m = true)
    (hlast : m.isLastAttempt = false) :
    sweepMessage expired now m =
      (.requeueOrphanedPulls :: (sweepMessage expired now m.requeue).1,
        (sweepMessage expired now m.requeue).2) := by
  simp_all [sweepMessage, onMessageAll, ofMessages, Repair.andThen, onMessage, findsOrphan,
    Message.requeue]

/-- To look at an active message with attempts left early and then late is to look at it late. -/
theorem sweepMessage_twice_active (earlier later : TransactionId → Bool)
    (hle : first.storedLe second = true) (hstate : m.state = .active)
    (hattempts : m.attempts < m.maxAttempts) :
    Repair.Agree Message.unstamped
      ((sweepMessage earlier first).andThen (sweepMessage later second))
      (sweepMessage later second) m := by
  have hearly := sweepMessage_of_active earlier first hstate hattempts
  have hlate := sweepMessage_of_active later second hstate hattempts
  by_cases hpassed : m.lifetimePassed first = true
  · have hstill : m.lifetimePassed second = true := by
      obtain ⟨expiry, hexpiry, hbefore⟩ := (Option.any_eq_true _ _).1 hpassed
      exact (Option.any_eq_true _ _).2 ⟨expiry, hexpiry, Instant.storedLe_trans hbefore hle⟩
    rw [if_pos hpassed] at hearly
    rw [if_pos hstill] at hlate
    exact Repair.agree_of_done hearly (sweepMessage_of_terminal rfl) hlate rfl
  · rw [if_neg hpassed] at hearly
    exact Repair.agree_of_nothing hearly

/-- To look at a message early and then late is to look at it late. -/
theorem sweepMessage_twice (earlier later : TransactionId → Bool)
    (hle : first.storedLe second = true)
    (hexpired : ∀ id, earlier id = true → later id = true) (hm : m.Coupled) :
    Repair.Agree Message.unstamped
      ((sweepMessage earlier first).andThen (sweepMessage later second))
      (sweepMessage later second) m := by
  cases hstate : m.state with
  | processed | expired | attemptsExceeded =>
      exact Repair.agree_of_nothing (sweepMessage_of_terminal (by rw [hstate]; rfl))
  | active =>
      exact sweepMessage_twice_active earlier later hle hstate (hm.attempts_lt (by rw [hstate]; decide))
  | inTransaction =>
      obtain ⟨owner, howner⟩ := Option.isSome_iff_exists.1 (hm.owner_iff.2 hstate)
      obtain ⟨action, haction⟩ := Option.isSome_iff_exists.1 (hm.action_iff.2 hstate)
      by_cases hover : earlier owner = true
      · have hfound (expired : TransactionId → Bool) (h : expired owner = true) :
            findsOrphan expired action m = true := by
          simp [findsOrphan, hstate, haction, howner, h]
        have hearly := hfound earlier hover
        have hlate := hfound later (hexpired owner hover)
        cases action with
        | add =>
            rw [Repair.Agree, Repair.andThen, sweepMessage_of_added hearly,
              sweepMessage_of_added hlate]
            exact ⟨rfl, rfl⟩
        | pull =>
            cases hlast : m.isLastAttempt with
            | true =>
                exact Repair.agree_of_done (sweepMessage_of_last hearly hlast)
                  (sweepMessage_of_terminal rfl) (sweepMessage_of_last hlate hlast) rfl
            | false =>
                -- From here on both sweeps look at the message that was given back.
                have hmore : m.requeue.attempts < m.requeue.maxAttempts := by
                  simpa [Message.isLastAttempt, Message.requeue] using hlast
                obtain ⟨hsteps, hleft⟩ := sweepMessage_twice_active (m := m.requeue)
                  earlier later hle rfl hmore
                rw [Repair.andThen] at hsteps hleft
                rw [Repair.Agree, Repair.andThen, sweepMessage_of_taken hearly hlast,
                  sweepMessage_of_taken hlate hlast]
                rcases hgone : sweepMessage earlier first m.requeue with ⟨steps, _ | left⟩ <;>
                  rw [hgone] at hsteps hleft <;>
                  exact ⟨congrArg (SweepStep.requeueOrphanedPulls :: ·) hsteps, hleft⟩
      · have hkept : m.owner.any earlier = false := by
          simpa [howner] using hover
        exact Repair.agree_of_nothing (sweepMessage_of_kept hstate hkept)

/-! ## Stores -/

/-- Two sweeps, the second not before the first, leave what the second alone would have left, but
for stamps, and the rows that they repair add up. -/
theorem sweep_twice (hle : first.storedLe second = true) {store : Store}
    (hmessages : ∀ m ∈ store.messages, m.Coupled) :
    (repairAll all second (repairAll all first store)).unstamped =
        (repairAll all second store).unstamped ∧
      ∀ step, SweepReport.rowsOf (rowsAll first all store) step +
          SweepReport.rowsOf (rowsAll second all (repairAll all first store)) step =
        SweepReport.rowsOf (rowsAll second all store) step := by
  obtain ⟨hearly, hearlyRows⟩ := sweep_eq first store
  obtain ⟨hlate, hlateRows⟩ := sweep_eq second (repairAll all first store)
  obtain ⟨honce, honceRows⟩ := sweep_eq second store
  have htransactions : ∀ t ∈ store.transactions, Repair.Agree Transaction.unstamped _ _ t :=
    fun t _ => onTransaction_twice hle t
  have hrows := Repair.map_leave_of_agree htransactions
  rw [Repair.leave_andThen] at hrows
  -- The later sweep finds the same transactions expired, whether there was an earlier one or not.
  have hexpired : expiredAt (repairAll all first store) second = expiredAt store second :=
    hasExpired_congr (by rw [hearly]; exact hrows)
  rw [hexpired] at hlate hlateRows
  have hagree : ∀ m ∈ store.messages, Repair.Agree Message.unstamped _ _ m := fun m hm =>
    sweepMessage_twice (expiredAt store first) (expiredAt store second) hle
      (fun id => expiredAt_mono hle) (hmessages m hm)
  have hleft := Repair.map_leave_of_agree hagree
  rw [Repair.leave_andThen] at hleft
  refine ⟨?_, fun step => ?_⟩
  · rw [hlate, honce, hearly, Store.unstamped, Store.unstamped, hrows, hleft]
  · have hcount := Repair.count_of_agree htransactions step
    have hcountMessages := Repair.count_of_agree hagree step
    rw [Repair.count_andThen] at hcount hcountMessages
    rw [hearlyRows, hlateRows, honceRows, hearly]
    dsimp only
    omega

end SweepStage

namespace Broker

/-- After every run, sweeping at an instant and then, with nothing in between, at another that is
not before it leaves the store that sweeping at the second alone would have left, except for the
stamps of ends; and the reports of the two sweeps add up, step by step, to that of the one. -/
theorem sweep_frequency (broker : Broker) (moves : List Move) {first second : Instant}
    (hfirst : first.Storable) (hsecond : second.Storable) (hle : first ≤ second) :
    let reached := play moves broker.emptied
    let early := (sweepAt first).run { reached with outages := {} }
    let late := (sweepAt second).run { early.2 with outages := {} }
    let once := (sweepAt second).run { reached with outages := {} }
    ∃ earlyReport lateReport onceReport,
      early.1 = .ok earlyReport ∧ late.1 = .ok lateReport ∧ once.1 = .ok onceReport ∧
        late.2.store.unstamped = once.2.store.unstamped ∧
        ∀ step, earlyReport.get step + lateReport.get step = onceReport.get step := by
  dsimp only
  have hcoupled := (play_sound broker moves).coupled
  generalize play moves broker.emptied = reached at *
  obtain ⟨hearly, hearlyStore⟩ := run_sweepAt_undisturbed first reached
  generalize (sweepAt first).run { reached with outages := {} } = early at *
  obtain ⟨hlate, hlateStore⟩ := run_sweepAt_undisturbed second early.2
  generalize (sweepAt second).run { early.2 with outages := {} } = late at *
  obtain ⟨honce, honceStore⟩ := run_sweepAt_undisturbed second reached
  generalize (sweepAt second).run { reached with outages := {} } = once at *
  obtain ⟨hstore, hrows⟩ := SweepStage.sweep_twice
    ((Instant.storedLe_iff hfirst hsecond).2 hle) hcoupled.messages
  rw [hearlyStore] at hlate hlateStore
  refine ⟨_, _, _, hearly, hlate, honce, ?_, fun step => ?_⟩
  · rw [hlateStore, honceStore]
    exact hstore
  · rw [SweepReport.get_ofRows, SweepReport.get_ofRows, SweepReport.get_ofRows]
    exact hrows step

/-- A run that leaves a message with a minute and a half to live in the hands of a transaction with
one minute, and another that a transaction with two minutes is adding. -/
def lapsingInTurn : List Move :=
  [.createQueue "q", .start (.ofSeconds 60),
    .enqueue ⟨1⟩ ⟨1⟩ { payload := [], lifetime := some (.ofSeconds 90) }, .commit ⟨1⟩,
    .start (.ofSeconds 60), .dequeue ⟨2⟩ ⟨1⟩, .start (.ofSeconds 120),
    .enqueue ⟨3⟩ ⟨1⟩ { payload := [] }]

/-- After one minute the message is given back, and after two it has expired: one sweep then would
have done both. -/
theorem sweep_frequency_lapsingInTurn :
    let reached := play lapsingInTurn (emptied { clock := ⟨0, 0⟩ })
    let early := (sweepAt ⟨60, 0⟩).run { reached with outages := {} }
    let late := (sweepAt ⟨120, 0⟩).run { early.2 with outages := {} }
    let once := (sweepAt ⟨120, 0⟩).run { reached with outages := {} }
    early.1 = .ok ⟨1, 0, 1, 0, 0, 0⟩ ∧ late.1 = .ok ⟨1, 1, 0, 0, 1, 0⟩ ∧
      once.1 = .ok ⟨2, 1, 1, 0, 1, 0⟩ ∧ late.2.store.unstamped = once.2.store.unstamped ∧
      late.2.store ≠ once.2.store := by
  have hfirst : Instant.Storable ⟨60, 0⟩ := by decide +kernel
  have hsecond : Instant.Storable ⟨120, 0⟩ := by decide +kernel
  have htwice := sweep_frequency { clock := ⟨0, 0⟩ } lapsingInTurn hfirst hsecond (by decide +kernel)
  dsimp only at htwice ⊢
  obtain ⟨_, _, _, _, _, _, hstore, _⟩ := htwice
  exact ⟨by decide +kernel, by decide +kernel, by decide +kernel, hstore, by decide +kernel⟩

end Broker

end WorkQueue
