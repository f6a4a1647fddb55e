import WorkQueue.Work.Admission

/-!
# Extending and committing

The work that an open transaction ends with, or that lets it go on. Rolling back is `Work.unwind`.
-/

namespace WorkQueue.Work

/-- Find a transaction. -/
def findTransaction (id : TransactionId) : Work Transaction := do
  match (← get).transaction? id with
  | some transaction => pure transaction
  | none => throw (.notFound id.display)

/-- Give an open transaction another end of its lifetime. -/
def extend (id : TransactionId) (expiry : Instant) : Work Unit := do
  let extended ← modifyGet (Store.setTransactionExpiry id expiry)
  if extended then pure () else throw (.closed id)

/-- Make final what a transaction did: added messages become active, taken ones processed. -/
def commit (id : TransactionId) (now : Instant) : Work CommitSummary := do
  let added ← Store.transitionOwned id .add .active now
  let pulled ← Store.transitionOwned id .pull .processed now
  close id .committed now committedReason
  pure ⟨added, pulled⟩

end WorkQueue.Work
