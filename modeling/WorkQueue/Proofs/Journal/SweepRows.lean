import WorkQueue.Proofs.Journal.Activities

/-!
# The counter of the rows that sweeps repair

A sweep reports each of its stages in an event when the stage is done, and counts the rows of all of
them at its end. A sweep that stops before one of its stages has repaired rows that it never counts,
and no later sweep finds them again. So the events tell of every row that sweeps have changed, and
the counter only of those that sweeps have changed which came to their end.
-/

namespace WorkQueue

namespace Sweeping

/-- What sweeps have counted is what those of them have changed that have come to their end. -/
theorem allCounted_eq (sweepings : List Sweeping) (step : SweepStep) :
    allCounted sweepings step = allRows (sweepings.filter Sweeping.finished) step := by
  induction sweepings with
  | nil => rfl
  | cons sweeping rest ih =>
      rw [allCounted, List.map_cons, List.sum_cons, ← allCounted, ih, counted]
      cases hfinished : sweeping.finished with
      | true => rw [List.filter_cons_of_pos hfinished]; rfl
      | false =>
          rw [List.filter_cons_of_neg (by rw [hfinished]; exact Bool.false_ne_true)]
          exact Nat.zero_add _

/-- What sweeps have changed is what those have changed that have come to their end, and what those
have changed that have not. -/
theorem allRows_eq_add (sweepings : List Sweeping) (step : SweepStep) :
    allRows sweepings step = allRows (sweepings.filter Sweeping.finished) step +
      allRows (sweepings.filter fun sweeping => !sweeping.finished) step := by
  induction sweepings with
  | nil => rfl
  | cons sweeping rest ih =>
      rw [allRows, List.map_cons, List.sum_cons, ← allRows, ih]
      cases hfinished : sweeping.finished <;>
        simp [hfinished, allRows, Nat.add_assoc, Nat.add_left_comm]

end Sweeping

namespace Broker

/-- After whatever has been done with a broker, and whatever storage transactions could not be
begun: for every step of a sweep, the counter stands at the rows that those sweeps have changed in
the step that came to their end. What it lacks of the rows that sweeps have changed is what the
sweeps have changed that did not come to their end. The events of the step tell of all of them. -/
theorem sweepRows_of_finished (broker : Broker) (activities : List Activity) (step : SweepStep) :
    let reached := live activities broker.fresh
    let made := sweepings activities broker.fresh
    reached.journal.total (.sweepRows step) =
        Sweeping.allRows (made.filter Sweeping.finished) step ∧
      reached.journal.total (.sweepRows step) +
          Sweeping.allRows (made.filter fun sweeping => !sweeping.finished) step =
        Sweeping.allRows made step ∧
      SweepReport.rowsOf reached.journal.stepRows step = Sweeping.allRows made step := by
  intro reached made
  have hbooks := books_live broker.books_fresh activities
  have hcounted : reached.journal.total (.sweepRows step) =
      Sweeping.allRows (made.filter Sweeping.finished) step := by
    rw [hbooks.counted_eq, Nat.zero_add, Sweeping.allCounted_eq]
  refine ⟨hcounted, ?_, ?_⟩
  · rw [hcounted, ← Sweeping.allRows_eq_add]
  · rw [hbooks.reported_eq, Nat.zero_add]

/-- A transaction is started that lapses at once, a sweep expires it and cannot begin its second
stage, and the next sweep finds nothing: the counter stands at no row, and one row has been
changed. -/
theorem not_all_sweepRows_counted :
    ¬ ∀ (broker : Broker) (activities : List Activity) (step : SweepStep),
      (live activities broker.fresh).journal.total (.sweepRows step) =
        Sweeping.allRows (sweepings activities broker.fresh) step := by
  intro hcounts
  have hcount := hcounts { clock := ⟨0, 0⟩ }
    [.serve (.start 0), .call (.setOutages ⟨[2]⟩), .serve .sweep, .serve .sweep]
    .expireTransactions
  revert hcount
  decide +kernel

end Broker

end WorkQueue
