import WorkQueue.Store.Orphans

/-!
# The stages of a sweep

A sweep repairs what clients left behind, in five stages, each a storage transaction of its own:
transactions past their lifetime, messages that such transactions were adding, messages that they
had taken, messages past their own lifetime, and messages out of attempts. The third stage counts
what it gives back and what it closes apart.
-/

namespace WorkQueue

/-- A stage of a sweep. -/
inductive SweepStage where
  | transactions
  | orphanedAdds
  | orphanedPulls
  | lifetimes
  | attempts
  deriving DecidableEq, Repr

namespace SweepStage

/-- All stages, in their order. -/
def all : List SweepStage :=
  [.transactions, .orphanedAdds, .orphanedPulls, .lifetimes, .attempts]

/-- What a stage does to the store, and the rows it repaired. -/
def repair (stage : SweepStage) (now : Instant) (store : Store) :
    List (SweepStep × Nat) × Store :=
  match stage with
  | .transactions =>
      let (rows, store) := store.expireTransactions now
      ([(.expireTransactions, rows)], store)
  | .orphanedAdds =>
      let (rows, store) := store.discardOrphanedAdds
      ([(.discardOrphanedAdds, rows)], store)
  | .orphanedPulls =>
      let (returned, store) := store.returnOrphanedPulls now
      ([(.requeueOrphanedPulls, returned.requeued), (.exhaustOrphanedPulls, returned.exhausted)],
        store)
  | .lifetimes =>
      let (rows, store) := store.expireMessages now
      ([(.expireMessages, rows)], store)
  | .attempts =>
      let (rows, store) := store.closeExhaustedMessages now
      ([(.closeExhaustedMessages, rows)], store)

end SweepStage

namespace SweepReport

/-- The rows of one step among the rows of several. -/
def rowsOf (rows : List (SweepStep × Nat)) (step : SweepStep) : Nat :=
  ((rows.filter fun (s, _) => s = step).map Prod.snd).foldr (· + ·) 0

/-- The report of a sweep whose stages repaired these rows. -/
def ofRows (rows : List (SweepStep × Nat)) : SweepReport where
  transactionsExpired := rowsOf rows .expireTransactions
  addsDiscarded := rowsOf rows .discardOrphanedAdds
  pullsRequeued := rowsOf rows .requeueOrphanedPulls
  pullsExhausted := rowsOf rows .exhaustOrphanedPulls
  messagesExpired := rowsOf rows .expireMessages
  messagesExhausted := rowsOf rows .closeExhaustedMessages

/-- A report has for each step the rows that were repaired in it. -/
@[simp]
theorem get_ofRows (rows : List (SweepStep × Nat)) (step : SweepStep) :
    (ofRows rows).get step = rowsOf rows step := by
  cases step <;> rfl

end SweepReport

end WorkQueue
