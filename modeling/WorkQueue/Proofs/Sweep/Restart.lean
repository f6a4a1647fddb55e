import WorkQueue.Proofs.Run.Calls
import WorkQueue.Proofs.Sweep.Settled

/-!
# A sweep can be begun anew

A sweep stops before the first of its stages that cannot begin, and the stages that it has made stay
made. Whatever outages a number of sweeps at one instant meet, a sweep after them that meets none
leaves the store that it would have left without them, and no sweep after that, at the same instant
or an earlier one, finds anything: `sweep_restarts`. Nothing is asked of the store for this: rows
that no call has ever left behind are repaired like all others.
-/

namespace WorkQueue

namespace Outages

/-- How many of some storage transactions are begun before the first that cannot be. -/
def untilFirst (outages : Outages) : Nat → Nat
  | 0 => 0
  | count + 1 => if outages.hitsNext then 0 else outages.pass.untilFirst count + 1

/-- Without outages all are begun. -/
@[simp]
theorem untilFirst_empty (count : Nat) : ({} : Outages).untilFirst count = count := by
  induction count with
  | zero => rfl
  | succ count ih =>
      have hpass : ({} : Outages).pass = {} := rfl
      rw [untilFirst, hpass, ih]
      rfl

/-- An outage that is to come after some storage transactions comes after them. -/
theorem untilFirst_single (made count : Nat) :
    untilFirst ⟨[made + 1]⟩ count = min made count := by
  induction count generalizing made with
  | zero => simp [untilFirst]
  | succ count ih =>
      cases made with
      | zero => rfl
      | succ made =>
          have hpass : pass ⟨[made + 1 + 1]⟩ = ⟨[made + 1]⟩ := by simp [pass]
          have hnext : hitsNext ⟨[made + 1 + 1]⟩ = false := by simp [hitsNext]
          rw [untilFirst, hpass, ih, hnext]
          exact (Nat.succ_min_succ made count).symm

end Outages

namespace Broker

/-- Some stages of a sweep are made up to the first that cannot begin, and are answered if there is
none such. -/
theorem run_sweepStages (now : Instant) (stages : List SweepStage) (broker : Broker) :
    ((sweepStages now stages).run broker).1 =
        (if broker.outages.untilFirst stages.length = stages.length then
          .ok (SweepStage.rowsAll now stages broker.store)
        else .error (.storage .noConnection)) ∧
      ((sweepStages now stages).run broker).2.store =
        SweepStage.repairAll (stages.take (broker.outages.untilFirst stages.length)) now
          broker.store := by
  induction stages generalizing broker with
  | nil => exact ⟨rfl, rfl⟩
  | cons stage rest ih =>
      rw [List.length_cons, Outages.untilFirst]
      cases hbegin : broker.outages.hitsNext with
      | true =>
          rw [sweepStages, run_bind_of_error (run_inStorage_of_outage hbegin)]
          exact ⟨rfl, rfl⟩
      | false =>
          obtain ⟨hanswer, hstore⟩ := ih (broker.swept stage now)
          have houtages : (broker.swept stage now).outages = broker.outages.pass := rfl
          rw [houtages] at hanswer hstore
          rw [run_sweepStages_of_ok hbegin]
          refine ⟨?_, hstore⟩
          show Except.map _ ((sweepStages now rest).run (broker.swept stage now)).1 = _
          rw [hanswer]
          simp only [Bool.false_eq_true, if_false, Nat.add_right_cancel_iff]
          split <;> rfl

/-- A sweep that is not held up reports what its stages have repaired; one that is fails. -/
theorem run_sweepAt (now : Instant) (broker : Broker) :
    ((sweepAt now).run broker).1 =
        (if broker.outages.untilFirst SweepStage.all.length = SweepStage.all.length then
          .ok (SweepReport.ofRows (SweepStage.rowsAll now SweepStage.all broker.store))
        else .error (.storage .noConnection)) ∧
      ((sweepAt now).run broker).2.store =
        SweepStage.repairAll
          (SweepStage.all.take (broker.outages.untilFirst SweepStage.all.length)) now
          broker.store := by
  obtain ⟨hanswer, hstore⟩ :=
    run_sweepStages now SweepStage.all (broker.noted [.sweepOpened now])
  have hopened : (note [.sweepOpened now] : Call Unit).run broker =
      (.ok (), broker.noted [.sweepOpened now]) := rfl
  rw [sweepAt, run_bind_of_ok hopened]
  cases hstages : (sweepStages now SweepStage.all).run (broker.noted [.sweepOpened now]) with
  | mk answer after =>
      rw [hstages] at hanswer hstore
      cases answer with
      | error error =>
          rw [run_bind_of_error hstages]
          refine ⟨?_, hstore⟩
          split at hanswer
          · cases hanswer
          · next hstopped => cases hanswer; exact (if_neg hstopped).symm
      | ok rows =>
          rw [run_bind_of_ok hstages]
          refine ⟨?_, hstore⟩
          split at hanswer
          · next hmade => cases hanswer; exact (if_pos hmade).symm
          · cases hanswer

/-- A sweep can stop before any one of its stages, and has then made those before it. -/
theorem run_sweepAt_stopped (now : Instant) (broker : Broker) {made : Nat}
    (h : made < SweepStage.all.length) :
    ((sweepAt now).run { broker with outages := ⟨[made + 1]⟩ }).1 =
        .error (.storage .noConnection) ∧
      ((sweepAt now).run { broker with outages := ⟨[made + 1]⟩ }).2.store =
        SweepStage.repairAll (SweepStage.all.take made) now broker.store := by
  obtain ⟨hanswer, hstore⟩ := run_sweepAt now { broker with outages := ⟨[made + 1]⟩ }
  rw [Outages.untilFirst_single, Nat.min_eq_left h.le] at hanswer hstore
  exact ⟨hanswer.trans (if_neg h.ne), hstore⟩

/-- A sweep that meets no outage makes all of its stages. -/
theorem run_sweepAt_undisturbed (now : Instant) (broker : Broker) :
    ((sweepAt now).run { broker with outages := {} }).1 =
        .ok (SweepReport.ofRows (SweepStage.rowsAll now SweepStage.all broker.store)) ∧
      ((sweepAt now).run { broker with outages := {} }).2.store =
        SweepStage.repairAll SweepStage.all now broker.store := by
  obtain ⟨hanswer, hstore⟩ := run_sweepAt now { broker with outages := {} }
  rw [Outages.untilFirst_empty] at hanswer hstore
  exact ⟨hanswer.trans (if_pos rfl), hstore⟩

/-- Sweeps one after the other, each at its instant and with the outages that it meets: what they
answer, and the broker after them. -/
def sweeps : List (Instant × Outages) → Broker → List (Except Error SweepReport) × Broker
  | [], broker => ([], broker)
  | (now, outages) :: rest, broker =>
      let (answer, broker) := (sweepAt now).run { broker with outages }
      let (answers, broker) := sweeps rest broker
      (answer :: answers, broker)

/-- The first sweep, and then the others. -/
theorem sweeps_cons (now : Instant) (outages : Outages) (rest : List (Instant × Outages))
    (broker : Broker) :
    sweeps ((now, outages) :: rest) broker =
      (((sweepAt now).run { broker with outages }).1 ::
          (sweeps rest ((sweepAt now).run { broker with outages }).2).1,
        (sweeps rest ((sweepAt now).run { broker with outages }).2).2) :=
  rfl

/-- Sweeps at one instant are finished by one that meets no outage. -/
theorem repairAll_sweeps (now : Instant) (tries : List Outages) (broker : Broker) :
    SweepStage.repairAll SweepStage.all now
        (sweeps (tries.map fun outages => (now, outages)) broker).2.store =
      SweepStage.repairAll SweepStage.all now broker.store := by
  induction tries generalizing broker with
  | nil => rfl
  | cons outages rest ih =>
      have hrest := ih ((sweepAt now).run { broker with outages }).2
      rw [(run_sweepAt now _).2, SweepStage.repairAll_take] at hrest
      exact hrest

/-- Sweeps at instants when every stage is settled report nothing and change nothing. -/
theorem sweeps_of_settled {instants : List Instant} {broker : Broker}
    (h : ∀ instant ∈ instants, ∀ stage, broker.store.Settled stage instant) :
    (sweeps (instants.map fun instant => (instant, {})) broker).1 =
        instants.map (fun _ => .ok ⟨0, 0, 0, 0, 0, 0⟩) ∧
      (sweeps (instants.map fun instant => (instant, {})) broker).2.store = broker.store := by
  induction instants generalizing broker with
  | nil => exact ⟨rfl, rfl⟩
  | cons instant rest ih =>
      obtain ⟨hanswer, hstore⟩ := run_sweepAt_undisturbed instant broker
      obtain ⟨hsettled, hrest⟩ := List.forall_mem_cons.1 h
      have hall : ∀ stage ∈ SweepStage.all, broker.store.Settled stage instant :=
        fun stage _ => hsettled stage
      obtain ⟨hsame, hrows⟩ := SweepStage.repairAll_of_settled hall
      rw [hrows] at hanswer
      rw [hsame] at hstore
      rw [List.map_cons, sweeps_cons]
      generalize (sweepAt instant).run { broker with outages := {} } = first at *
      have hrest' : ∀ instant ∈ rest, ∀ stage, first.2.store.Settled stage instant := by
        rwa [hstore]
      obtain ⟨hanswers, hend⟩ := ih hrest'
      rw [hanswer, hanswers, hend, hstore]
      exact ⟨rfl, rfl⟩

/-- Whatever is in the store and whatever outages some sweeps at one instant meet: a sweep at that
instant that meets none answers, and leaves the store that it would have left without them. If the
instant is in the years that can be stored, then all further sweeps at instants that are not after
it report that there was nothing to repair, and leave the store as it is. -/
theorem sweep_restarts (broker : Broker) (now : Instant) (tries : List Outages) :
    let once := (sweepAt now).run { broker with outages := {} }
    let tried := (sweeps (tries.map fun outages => (now, outages)) broker).2
    let finished := (sweepAt now).run { tried with outages := {} }
    (∃ report, once.1 = .ok report) ∧ (∃ report, finished.1 = .ok report) ∧
      finished.2.store = once.2.store ∧
      (now.Storable → ∀ further : List Instant,
        (∀ before ∈ further, before.Storable ∧ before ≤ now) →
          (sweeps (further.map fun before => (before, {})) finished.2).1 =
              further.map (fun _ => .ok ⟨0, 0, 0, 0, 0, 0⟩) ∧
            (sweeps (further.map fun before => (before, {})) finished.2).2.store =
              finished.2.store) := by
  dsimp only
  generalize htried : (sweeps (tries.map fun outages => (now, outages)) broker).2 = tried
  obtain ⟨honce, hstore⟩ := run_sweepAt_undisturbed now broker
  obtain ⟨hfinished, hstore'⟩ := run_sweepAt_undisturbed now tried
  generalize (sweepAt now).run { broker with outages := {} } = once at *
  generalize (sweepAt now).run { tried with outages := {} } = finished at *
  refine ⟨⟨_, honce⟩, ⟨_, hfinished⟩, ?_, fun hnow further hfurther => ?_⟩
  · rw [hstore', hstore, ← htried]
    exact repairAll_sweeps now tries broker
  · have hsettled (stage : SweepStage) : finished.2.store.Settled stage now := by
      rw [hstore']
      exact SweepStage.settled_repairAll stage now tried.store
    have hbefore : ∀ before ∈ further, ∀ stage, finished.2.store.Settled stage before := by
      intro before hmem stage
      obtain ⟨hstorable, hle⟩ := hfurther before hmem
      exact (hsettled stage).mono ((Instant.storedLe_iff hstorable hnow).2 hle)
    exact sweeps_of_settled hbefore

/-- A broker after a minute. A transaction has lapsed that adds one message and has taken another
for the last time; of two active messages one has expired and one has no attempts left. -/
def leftBehind : Broker :=
  let row (id : Nat) : Message :=
    (NewMessage.draft { payload := [] } ⟨1⟩ ⟨1⟩ ⟨0, 0⟩ (some ⟨90, 0⟩)).row ⟨id⟩
  { store := {
      queues := [⟨⟨1⟩, "q"⟩]
      transactions := [⟨⟨1⟩, .active, ⟨0, 0⟩, ⟨60, 0⟩, none, none⟩]
      messages := [row 1, { (row 2).take ⟨1⟩ with attempts := 2 },
        { row 3 with state := .active, expiryTime := some ⟨30, 0⟩ },
        { row 4 with state := .active, attempts := 3 }]
      lastQueue := 1
      lastTransaction := 1
      lastMessage := 4 }
    clock := ⟨60, 0⟩ }

/-- After tries that stop before the first, the third and the last stage, a sweep leaves what it
would have left without them, and sweeps after it find nothing. -/
theorem sweep_restarts_leftBehind :
    let tries : List Outages := [⟨[1]⟩, ⟨[3]⟩, ⟨[5]⟩]
    let tried := (sweeps (tries.map fun outages => (⟨60, 0⟩, outages)) leftBehind).2
    let finished := (sweepAt ⟨60, 0⟩).run { tried with outages := {} }
    finished.2.store = ((sweepAt ⟨60, 0⟩).run { leftBehind with outages := {} }).2.store ∧
      (finished.2.store.messages.map fun m => (m.id.value, m.state)) =
        [(2, .attemptsExceeded), (3, .expired), (4, .attemptsExceeded)] ∧
      (sweeps ([⟨60, 0⟩, ⟨30, 0⟩].map fun before => (before, {})) finished.2).1 =
        [.ok ⟨0, 0, 0, 0, 0, 0⟩, .ok ⟨0, 0, 0, 0, 0, 0⟩] := by
  have hrestart := sweep_restarts leftBehind ⟨60, 0⟩ [⟨[1]⟩, ⟨[3]⟩, ⟨[5]⟩]
  dsimp only at hrestart ⊢
  obtain ⟨_, _, hstore, hfurther⟩ := hrestart
  refine ⟨hstore, by decide +kernel, ?_⟩
  exact (hfurther (by decide +kernel) [⟨60, 0⟩, ⟨30, 0⟩] (by decide +kernel)).1

end Broker

end WorkQueue
