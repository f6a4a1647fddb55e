import WorkQueue.Id

/-!
# Claim locks

One lock for each queue, made when it is first asked for. Handles stand in line for a lock in the
order in which they asked; the first of them holds it, the others wait. A lock is forgotten when
its queue is deleted, and locks that nobody holds or waits for are forgotten when the table would
outgrow its capacity. Handles keep a lock that the table has forgotten, and whoever asks for that
queue afterwards gets a new one.
-/

namespace WorkQueue

/-- A handle in line for a lock. -/
structure LockHandle (Handle : Type) where
  handle : Handle
  queue : QueueId
  /-- The number of the lock. -/
  lock : Nat
  deriving DecidableEq, Repr

/-- The locks that are known by their queue, and the handles in line, in the order in which they
asked. -/
structure LockTable (Handle : Type) where
  capacity : Nat
  entries : List (QueueId × Nat) := []
  line : List (LockHandle Handle) := []
  nextLock : Nat := 0
  deriving DecidableEq, Repr

namespace LockTable

variable {Handle : Type}

/-- A table without locks. Its capacity is at least one. -/
def ofCapacity (capacity : Nat) : LockTable Handle :=
  { capacity := max 1 capacity }

/-- The number of locks that the table knows. -/
def size (table : LockTable Handle) : Nat :=
  table.entries.length

/-- The lock of a queue. -/
def lock? (table : LockTable Handle) (queue : QueueId) : Option Nat :=
  table.entries.lookup queue

/-- Is any handle in line for the lock? -/
def isInUse (table : LockTable Handle) (lock : Nat) : Bool :=
  table.line.any fun h => h.lock = lock

/-- Forget the locks that nobody is in line for. -/
def prune (table : LockTable Handle) : LockTable Handle :=
  { table with entries := table.entries.filter fun (_, lock) => table.isInUse lock }

/-- Make room for the lock of a queue, if it is not known and there is none left. -/
def makeRoom (table : LockTable Handle) (queue : QueueId) : LockTable Handle :=
  if table.capacity ≤ table.size ∧ table.lock? queue = none then table.prune else table

/-- Put a handle in line for the lock of a queue, which is made if it is not known. -/
def acquire (table : LockTable Handle) (handle : Handle) (queue : QueueId) : LockTable Handle :=
  let table := table.makeRoom queue
  match table.lock? queue with
  | some lock => { table with line := table.line ++ [⟨handle, queue, lock⟩] }
  | none =>
      { table with
        entries := table.entries ++ [(queue, table.nextLock)]
        line := table.line ++ [⟨handle, queue, table.nextLock⟩]
        nextLock := table.nextLock + 1 }

/-- Take a handle out of line, whether it held its lock or waited for it. -/
def release [DecidableEq Handle] (table : LockTable Handle) (handle : Handle) : LockTable Handle :=
  { table with line := table.line.filter fun h => h.handle ≠ handle }

/-- Forget the lock of a queue. -/
def evict (table : LockTable Handle) (queue : QueueId) : LockTable Handle :=
  { table with entries := table.entries.filter fun (known, _) => known ≠ queue }

/-- The handles that are first in line for their lock, and those that are not, each in the order
in which they asked. The first argument lists locks that have a holder already. -/
def splitLine : List Nat → List (LockHandle Handle) →
    List (LockHandle Handle) × List (LockHandle Handle)
  | _, [] => ([], [])
  | taken, h :: rest =>
      if taken.contains h.lock then
        let (held, waiting) := splitLine taken rest
        (held, h :: waiting)
      else
        let (held, waiting) := splitLine (h.lock :: taken) rest
        (h :: held, waiting)

/-- The handles that hold their lock. -/
def held (table : LockTable Handle) : List (LockHandle Handle) :=
  (splitLine [] table.line).1

/-- The handles that wait for their lock. -/
def waiting (table : LockTable Handle) : List (LockHandle Handle) :=
  (splitLine [] table.line).2

/-- Every handle in line either holds its lock or waits for it. -/
theorem mem_splitLine {taken : List Nat} {line : List (LockHandle Handle)}
    {h : LockHandle Handle} :
    h ∈ line ↔ h ∈ (splitLine taken line).1 ∨ h ∈ (splitLine taken line).2 := by
  induction line generalizing taken with
  | nil => simp [splitLine]
  | cons first rest ih =>
      unfold splitLine
      split
      · simp only [List.mem_cons, @ih taken]
        exact or_left_comm
      · simp only [List.mem_cons, @ih (first.lock :: taken)]
        exact or_assoc.symm

end LockTable

end WorkQueue
