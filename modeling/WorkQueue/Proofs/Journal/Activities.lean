import WorkQueue.Proofs.Journal.Calls
import WorkQueue.Proofs.Sweep.Differences

/-!
# Runs of whole operations

What clients and the watch do with the broker, one operation after the other: calls of the broker
and of the service, sweeps, and watches, with any storage transactions that cannot be begun. Every
operation keeps the books, but for the rows that its sweeps repair: those are reported in events
stage by stage, and counted when the sweep has made all of its stages. So the journal accounts for
what has become of every transaction: `Broker.journal_accounts_for_transactions`.
-/

namespace WorkQueue

namespace SweepStage

/-- The rows that a stage changes in a step, seen from the store before and after it. -/
def changed (stage : SweepStage) (now : Instant) (store : Store) (step : SweepStep) : Nat :=
  store.changedRows (stage.repair now store).2 step

/-- The rows that stages change in a step, one after the other. -/
def changedAll (now : Instant) : List SweepStage → Store → SweepStep → Nat
  | [], _, _ => 0
  | stage :: rest, store, step =>
      stage.changed now store step + changedAll now rest (stage.repair now store).2 step

variable {store : Store}

/-- A stage repairs the rows that it changes. -/
theorem repaired_eq (h : store.Numbered) (stage : SweepStage) (now : Instant) (step : SweepStep) :
    (Change.repair stage now).repaired store step = stage.changed now store step :=
  rowsOf_repair_eq_changedRows h stage now step

/-- Stages report the rows that they change. -/
theorem rowsOf_rowsAll (h : store.Numbered) (now : Instant) (stages : List SweepStage)
    (step : SweepStep) :
    SweepReport.rowsOf (rowsAll now stages store) step = changedAll now stages store step := by
  induction stages generalizing store with
  | nil => rfl
  | cons stage rest ih =>
      have hnext : (stage.repair now store).2.Numbered := by
        rw [Work.repair_eq_apply]
        exact Change.numbered_apply _ h
      rw [rowsAll, rowsOf_append, rowsOf_repair_eq_changedRows h, ih hnext]
      rfl

end SweepStage

/-- A sweep as far as it has come: the stages that it has made, one after the other, and whether it
has come to its end. -/
structure Sweeping where
  now : Instant
  store : Store
  stages : List SweepStage
  finished : Bool
  deriving DecidableEq, Repr

namespace Sweeping

/-- The rows that the sweep has changed in a step. -/
def rows (sweeping : Sweeping) (step : SweepStep) : Nat :=
  SweepStage.changedAll sweeping.now sweeping.stages sweeping.store step

/-- The rows that the sweep has counted in a step: those that it has changed, once it has come to
its end. -/
def counted (sweeping : Sweeping) (step : SweepStep) : Nat :=
  if sweeping.finished then sweeping.rows step else 0

/-- The rows that sweeps have changed in a step. -/
def allRows (sweepings : List Sweeping) (step : SweepStep) : Nat :=
  (sweepings.map fun sweeping => sweeping.rows step).sum

/-- The rows that sweeps have counted in a step. -/
def allCounted (sweepings : List Sweeping) (step : SweepStep) : Nat :=
  (sweepings.map fun sweeping => sweeping.counted step).sum

end Sweeping

namespace Broker

variable {counted reported : SweepStep → Nat} {broker : Broker}

/-- The sweep that is made from here: it stops before the first stage that cannot begin. -/
def sweeping (broker : Broker) (now : Instant) : Sweeping :=
  let made := broker.outages.untilFirst SweepStage.all.length
  { now, store := broker.store, stages := SweepStage.all.take made,
    finished := made = SweepStage.all.length }

/-- A sweep that stops before one of its stages counts nothing. -/
theorem counted_sweeping_of_stopped {now : Instant} {step : SweepStep}
    (h : broker.outages.untilFirst SweepStage.all.length ≠ SweepStage.all.length) :
    (broker.sweeping now).counted step = 0 := by
  have hstopped : (broker.sweeping now).finished = false := decide_eq_false h
  rw [Sweeping.counted, hstopped]
  rfl

/-- A sweep that makes all of its stages counts what they change. -/
theorem counted_sweeping_of_made {now : Instant} {step : SweepStep}
    (h : broker.outages.untilFirst SweepStage.all.length = SweepStage.all.length) :
    (broker.sweeping now).counted step =
      SweepStage.changedAll now SweepStage.all broker.store step := by
  have hfinished : (broker.sweeping now).finished = true := decide_eq_true h
  have hstages : (broker.sweeping now).stages = SweepStage.all :=
    List.take_of_length_le (Nat.le_of_eq h.symm)
  rw [Sweeping.counted, if_pos hfinished, Sweeping.rows, hstages]
  rfl

/-- A stage of a sweep books what it changes by reporting it. -/
theorem books_swept (h : broker.Books counted reported) (stage : SweepStage) (now : Instant) :
    (broker.swept stage now).Books counted fun step =>
      reported step + stage.changed now broker.store step := by
  have hbooks : (broker.swept stage now).Books counted fun step =>
      reported step + (Change.repair stage now).repaired broker.store step :=
    h.book (.repair stage now) trivial (Work.repair_eq_apply stage) rfl
      (fun _ => Journal.total_map_event _ _ _) (fun _ => Journal.total_map_event _ _ _)
      fun step => by
        rw [Journal.stepRows_map_sweepStep]
        rfl
  simpa only [SweepStage.repaired_eq h.numbered] using hbooks

/-- Stages of a sweep book what they change, up to the first that cannot begin. -/
theorem books_sweepStages (h : broker.Books counted reported) (now : Instant)
    (stages : List SweepStage) :
    ((sweepStages now stages).run broker).2.Books counted fun step => reported step +
      SweepStage.changedAll now (stages.take (broker.outages.untilFirst stages.length))
        broker.store step := by
  induction stages generalizing broker reported with
  | nil => exact h
  | cons stage rest ih =>
      rw [List.length_cons, Outages.untilFirst]
      cases hbegin : broker.outages.hitsNext with
      | true =>
          rw [sweepStages, run_bind_of_error (run_inStorage_of_outage hbegin)]
          exact h.congr rfl rfl
      | false =>
          have hrest := ih (books_swept h stage now)
          rw [run_sweepStages_of_ok hbegin]
          simp only [Bool.false_eq_true, if_false, List.take_succ_cons, SweepStage.changedAll,
            ← Nat.add_assoc]
          exact hrest

/-- The entries at the end of a sweep. -/
def reportEntries (report : SweepReport) : Journal :=
  [.sweepRecorded report.total] ++
    SweepStep.all.map (fun step => .counted (.sweepRows step) (report.get step)) ++
    [.counted .timedSweeps 1] ++
    if report.isEmpty then [] else [.event (.sweepRepaired report)]

/-- The entries at the end of a sweep count, for each step, what the sweep reports of it, and are
nothing else to the books. -/
theorem total_reportEntries (report : SweepReport) :
    (∀ outcome, (reportEntries report).total (.transactionOutcome outcome) = 0) ∧
      (∀ step, (reportEntries report).total (.sweepRows step) = report.get step) ∧
      (reportEntries report).stepRows = [] := by
  unfold reportEntries
  split
  · exact ⟨fun _ => rfl, fun step => by cases step <;> rfl, rfl⟩
  · exact ⟨fun _ => rfl, fun step => by cases step <;> rfl, rfl⟩

/-- A report is booked by the entries that count its rows. -/
theorem books_report (h : broker.Books counted reported) (report : SweepReport) :
    (broker.noted (reportEntries report)).Books (fun step => counted step + report.get step)
      reported := by
  obtain ⟨houtcomes, hcounted, hreported⟩ := total_reportEntries report
  refine ⟨h.numbered, fun outcome => ?_, fun step => ?_, fun step => ?_⟩
  · rw [noted, Journal.total_append, houtcomes]
    exact h.outcomes_eq outcome
  · rw [noted, Journal.total_append, hcounted, h.counted_eq]
  · rw [noted, Journal.stepRows_append, hreported, List.append_nil]
    exact h.reported_eq step

/-- A sweep books what it changes, and counts it when it comes to its end. -/
theorem books_sweepAt (h : broker.Books counted reported) (now : Instant) :
    ((sweepAt now).run broker).2.Books
      (fun step => counted step + (broker.sweeping now).counted step)
      fun step => reported step + (broker.sweeping now).rows step := by
  have hopened : (note [.sweepOpened now] : Call Unit).run broker =
      (.ok (), broker.noted [.sweepOpened now]) := rfl
  have hbooks : (broker.noted [.sweepOpened now]).Books counted reported :=
    h.note (Journal.tells_aside rfl)
  have hstages := books_sweepStages hbooks now SweepStage.all
  obtain ⟨hanswer, _⟩ := run_sweepStages now SweepStage.all (broker.noted [.sweepOpened now])
  have houtages : (broker.noted [.sweepOpened now]).outages = broker.outages := rfl
  rw [houtages] at hanswer hstages
  rw [sweepAt, run_bind_of_ok hopened]
  rcases hrun : (sweepStages now SweepStage.all).run (broker.noted [.sweepOpened now]) with
    ⟨error | rows, after⟩
  · -- A sweep that stops enters no counts: what it has made is only reported.
    rw [hrun] at hanswer hstages
    rw [run_bind_of_error hrun]
    split at hanswer
    · cases hanswer
    · next hstopped =>
        simp only [counted_sweeping_of_stopped hstopped, Nat.add_zero]
        exact hstages
  · rw [hrun] at hanswer hstages
    rw [run_bind_of_ok hrun]
    split at hanswer
    · next hmade =>
        have hrows (step : SweepStep) :
            (SweepReport.ofRows rows).get step = (broker.sweeping now).counted step := by
          rw [Except.ok.inj hanswer, SweepReport.get_ofRows,
            SweepStage.rowsOf_rowsAll hbooks.numbered, counted_sweeping_of_made hmade]
          rfl
        simp only [← hrows]
        exact books_report hstages _
    · cases hanswer

/-- The broker after one sweep of a watch: a sweep that has failed is noted. -/
def sweptOnce (broker : Broker) : Broker :=
  match sweep.run broker with
  | (.ok _, after) => after
  | (.error error, after) => after.noted [.event (.sweepFailed error)]

/-- A watch goes on after each sweep. -/
theorem run_sweepTimes_succ (count : Nat) (broker : Broker) :
    sweepTimes (count + 1) broker = sweepTimes count broker.sweptOnce := by
  rw [sweptOnce]
  rcases hrun : sweep.run broker with ⟨error | report, after⟩
  · unfold ExceptT.run at hrun
    simp only [sweepTimes, ExceptT.run, bind, StateT.bind, hrun]
    rfl
  · unfold ExceptT.run at hrun
    simp only [sweepTimes, ExceptT.run, bind, StateT.bind, hrun]

/-- The sweeps that a watch makes, one after the other. -/
def watched : Nat → Broker → List Sweeping
  | 0, _ => []
  | count + 1, broker => broker.sweeping broker.clock :: watched count broker.sweptOnce

/-- One sweep of a watch books what it changes, whether it fails or not. -/
theorem books_sweptOnce (h : broker.Books counted reported) :
    broker.sweptOnce.Books
      (fun step => counted step + (broker.sweeping broker.clock).counted step)
      fun step => reported step + (broker.sweeping broker.clock).rows step := by
  have hswept := books_sweepAt h broker.clock
  rw [← run_now_bind, ← sweep] at hswept
  rw [sweptOnce]
  rcases hrun : sweep.run broker with ⟨error | report, after⟩
  · rw [hrun] at hswept
    exact hswept.note (Journal.tells_aside rfl)
  · rw [hrun] at hswept
    exact hswept

/-- The broker at the beginning of a watch. -/
def beginWatch (broker : Broker) (millis : Nat) : Broker :=
  broker.noted [.event (.watchStarted (max 1 millis / 1000))]

/-- A watch is its sweeps, and what is entered before and after them. -/
theorem run_watch (millis sweeps : Nat) (broker : Broker) :
    (watch millis sweeps broker).2 =
      (sweepTimes sweeps (broker.beginWatch millis)).2.noted [.event .watchStopping] :=
  rfl

/-- The sweeps of a watch book what they change. -/
theorem books_sweepTimes (h : broker.Books counted reported) (count : Nat) :
    (sweepTimes count broker).2.Books
      (fun step => counted step + Sweeping.allCounted (watched count broker) step)
      fun step => reported step + Sweeping.allRows (watched count broker) step := by
  induction count generalizing broker counted reported with
  | zero => exact h
  | succ count ih =>
      have hrest := ih (books_sweptOnce h)
      simp only [watched, Sweeping.allCounted, Sweeping.allRows, List.map_cons, List.sum_cons,
        ← Nat.add_assoc, run_sweepTimes_succ]
      exact hrest

end Broker

/-- What is done with the broker as a whole. -/
inductive Activity where
  /-- A call of the broker. A stage of a sweep by itself is what is left of a sweep that is broken
  off. -/
  | call (move : Move)
  /-- A sweep as if the clock stood at an instant. -/
  | sweep (now : Instant)
  | watch (millis sweeps : Nat)
  | serve (operation : Service.Operation)
  deriving DecidableEq, Repr

namespace Activity

/-- The broker after an activity. -/
def after : Activity → Broker → Broker
  | .call move, broker => move.after broker
  | .sweep now, broker => ((Broker.sweepAt now).run broker).2
  | .watch millis sweeps, broker => (Broker.watch millis sweeps broker).2
  | .serve operation, broker => (operation.call.run broker).2

/-- The sweeps that an activity makes. -/
def sweepings : Activity → Broker → List Sweeping
  | .call (.sweep stage now), broker =>
      [⟨now, broker.store, if broker.outages.hitsNext then [] else [stage], false⟩]
  | .sweep now, broker => [broker.sweeping now]
  | .watch millis sweeps, broker => (broker.beginWatch millis).watched sweeps
  | .serve .sweep, broker => [broker.sweeping broker.clock]
  | _, _ => []

variable {counted reported : SweepStep → Nat} {broker : Broker}

/-- A stage of a sweep that is broken off books what it changes, and counts nothing. -/
theorem books_stage (h : broker.Books counted reported) (stage : SweepStage) (now : Instant) :
    let broken := (call (.sweep stage now)).sweepings broker
    ((call (.sweep stage now)).after broker).Books
      (fun step => counted step + Sweeping.allCounted broken step)
      fun step => reported step + Sweeping.allRows broken step := by
  have hbooks := Broker.books_sweepStages h now [stage]
  have hmade : [stage].take (broker.outages.untilFirst [stage].length) =
      if broker.outages.hitsNext then [] else [stage] := by
    rw [List.length_singleton, Outages.untilFirst]
    split <;> rfl
  rw [hmade] at hbooks
  exact hbooks

/-- A sweep at the service books what any sweep does, and that it has failed is on the side. -/
theorem books_serveSweep (h : broker.Books counted reported) :
    ((serve .sweep).after broker).Books
      (fun step => counted step + Sweeping.allCounted ((serve .sweep).sweepings broker) step)
      fun step => reported step + Sweeping.allRows ((serve .sweep).sweepings broker) step := by
  have hbooks := Broker.books_sweepAt h broker.clock
  rw [← Broker.run_now_bind, ← Broker.sweep] at hbooks
  show ((Service.reply Broker.sweep).run broker).2.Books _ _
  rcases hrun : Broker.sweep.run broker with ⟨error | report, after⟩
  · rw [hrun] at hbooks
    rw [Service.run_reply_of_error hrun]
    exact hbooks.note (Service.tells_failure error)
  · rw [hrun] at hbooks
    rw [Service.run_reply_of_ok hrun]
    exact hbooks

/-- An activity books what its sweeps change, and counts what those of them change that come to
their end. -/
theorem books_after (activity : Activity) (h : broker.Books counted reported) :
    (activity.after broker).Books
      (fun step => counted step + Sweeping.allCounted (activity.sweepings broker) step)
      fun step => reported step + Sweeping.allRows (activity.sweepings broker) step := by
  cases activity with
  | call move =>
      by_cases hsweep : ∃ stage now, move = .sweep stage now
      · obtain ⟨stage, now, rfl⟩ := hsweep
        exact books_stage h stage now
      · have hnone : (call move).sweepings broker = [] := by
          cases move <;> first | rfl | exact absurd ⟨_, _, rfl⟩ hsweep
        rw [hnone]
        exact move.keepsBooks (fun stage now hmove => hsweep ⟨stage, now, hmove⟩) counted reported
          broker h
  | sweep now => exact Broker.books_sweepAt h now
  | watch millis sweeps =>
      have hbegun : (broker.beginWatch millis).Books counted reported :=
        h.note (Journal.tells_aside rfl)
      rw [after, Broker.run_watch]
      exact (Broker.books_sweepTimes hbegun sweeps).note (Journal.tells_aside rfl)
  | serve operation =>
      by_cases hsweep : operation = .sweep
      · subst hsweep
        exact books_serveSweep h
      · have hnone : (serve operation).sweepings broker = [] := by
          cases operation <;> first | rfl | exact absurd rfl hsweep
        rw [hnone]
        exact operation.keepsBooks hsweep counted reported broker h

end Activity

namespace Broker

/-- A broker whose store is empty and whose journal has no entries, whatever else is so about it. -/
def fresh (broker : Broker) : Broker :=
  { broker.emptied with journal := [] }

/-- The broker after activities. -/
def live : List Activity → Broker → Broker
  | [], broker => broker
  | activity :: rest, broker => live rest (activity.after broker)

/-- The sweeps that activities make, one after the other. -/
def sweepings : List Activity → Broker → List Sweeping
  | [], _ => []
  | activity :: rest, broker => activity.sweepings broker ++ sweepings rest (activity.after broker)

/-- Activities book what their sweeps change, and count what those of them change that come to their
end. -/
theorem books_live {broker : Broker} {counted reported : SweepStep → Nat}
    (h : broker.Books counted reported) (activities : List Activity) :
    (live activities broker).Books
      (fun step => counted step + Sweeping.allCounted (sweepings activities broker) step)
      fun step => reported step + Sweeping.allRows (sweepings activities broker) step := by
  induction activities generalizing broker counted reported with
  | nil => exact h
  | cons activity rest ih =>
      have hrest := ih (activity.books_after h)
      simp only [sweepings, Sweeping.allCounted, Sweeping.allRows, List.map_append, List.sum_append,
        ← Nat.add_assoc]
      exact hrest

/-- At first there are no transactions, and nothing has been entered in the journal. -/
theorem books_fresh (broker : Broker) : broker.fresh.Books (fun _ => 0) fun _ => 0 where
  numbered := Store.numbered_empty
  outcomes_eq outcome := by cases outcome <;> rfl
  counted_eq _ := rfl
  reported_eq _ := rfl

/-- After whatever has been done with a broker, and whatever storage transactions could not be
begun: the journal counts as started as many transactions as there are, as committed and as rolled
back as many as are so, and as many are expired as were counted as expired or reported by the first
step of a sweep, be it one that failed later. -/
theorem journal_accounts_for_transactions (broker : Broker) (activities : List Activity) :
    let reached := live activities broker.fresh
    reached.journal.total (.transactionOutcome .started) = reached.store.transactions.length ∧
      reached.journal.total (.transactionOutcome .committed) =
        reached.store.transactions.countP (fun t => t.state = .committed) ∧
      reached.journal.total (.transactionOutcome .rolledBack) =
        reached.store.transactions.countP (fun t => t.state = .rolledBack) ∧
      reached.journal.total (.transactionOutcome .expired) +
          SweepReport.rowsOf reached.journal.stepRows .expireTransactions =
        reached.store.transactions.countP fun t => t.state = .expired := by
  have hbooks := books_live broker.books_fresh activities
  have houtcomes := hbooks.outcomes_eq
  simp only [← hbooks.reported_eq] at houtcomes
  refine ⟨?_, (houtcomes .committed).symm, (houtcomes .rolledBack).symm, (houtcomes .expired).symm⟩
  rw [← List.countP_true]
  exact (houtcomes .started).symm

end Broker

end WorkQueue
