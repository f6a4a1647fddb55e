import WorkQueue.Proofs.Locks.Size
import WorkQueue.Proofs.Run.Operations

/-!
# What calls do with the locks

A call that takes a lock gives it back before it ends, however it ends, and a call that has deleted
a queue forgets its lock. So nobody is in line between calls that are made one after the other, at
most one queue is busy while a call is under way, and the locks that the broker knows stay within
the capacity of their table: `LockTable.locks_bounded`.
-/

namespace WorkQueue

/-- What a call does with a lock while no other call is under way. -/
inductive LockUse where
  /-- The call takes the lock of a queue, and gives it back. -/
  | hold (queue : QueueId)
  | forget (queue : QueueId)
  deriving DecidableEq, Repr

/-- The steps of a lock table that a use of a lock comes to. -/
def LockUse.steps : LockUse → List (LockStep Unit)
  | .hold queue => [.acquire () queue, .drop ()]
  | .forget queue => [.evict queue]

namespace LockTable

open Broker

variable {table : LockTable Unit}

/-- The table after some uses. -/
def use (table : LockTable Unit) (uses : List LockUse) : LockTable Unit :=
  run (uses.flatMap LockUse.steps) table

/-- Uses are made one after the other. -/
theorem use_append (table : LockTable Unit) (first second : List LockUse) :
    table.use (first ++ second) = (table.use first).use second := by
  rw [use, List.flatMap_append, run_append]
  rfl

/-- The only handle leaves nobody in line when it is released. -/
theorem line_release (table : LockTable Unit) : (table.release ()).line = [] := by
  rw [release, List.filter_eq_nil_iff]
  intro h _
  simp

/-- One use of a lock keeps one queue busy at most, and nobody is in line after it. -/
theorem peak_steps_le (h : table.line = []) (use : LockUse) :
    peak use.steps table ≤ 1 ∧ (run use.steps table).line = [] := by
  have hstart := busy_of_line_eq_nil h
  cases use with
  | hold queue =>
      have hheld := (table.acquire () queue).busy_le_length_line
      have hreleased := busy_of_line_eq_nil (table.acquire () queue).line_release
      rw [line_acquire, h, List.nil_append, List.length_singleton] at hheld
      refine ⟨?_, line_release _⟩
      simp only [LockUse.steps, peak, step]
      omega
  | forget queue =>
      have hline : (table.evict queue).line = [] := h
      have hforgotten := busy_of_line_eq_nil hline
      refine ⟨?_, hline⟩
      simp only [LockUse.steps, peak, step]
      omega

/-- Uses of locks, one after the other, keep one queue busy at most at any time, and nobody is in
line after them. -/
theorem peak_uses_le (h : table.line = []) (uses : List LockUse) :
    peak (uses.flatMap LockUse.steps) table ≤ 1 ∧ (table.use uses).line = [] := by
  induction uses generalizing table with
  | nil => exact ⟨Nat.le_trans (Nat.le_of_eq (busy_of_line_eq_nil h)) (Nat.zero_le 1), h⟩
  | cons first rest ih =>
      obtain ⟨hpeak, hline⟩ := peak_steps_le h first
      obtain ⟨hlater, hend⟩ := ih hline
      rw [use, List.flatMap_cons, peak_append, run_append]
      exact ⟨Nat.max_le.2 ⟨hpeak, hlater⟩, hend⟩

/-- A call that takes a lock gives it back, and one that forgets a lock holds none: the parts of
calls come to uses of locks. -/
theorem acrossCalls_use : AcrossCalls fun before after =>
    ∃ uses, after.locks = before.locks.use uses where
  refl _ := ⟨[], rfl⟩
  trans := by
    rintro before between after ⟨first, hfirst⟩ ⟨second, hsecond⟩
    exact ⟨first ++ second, by rw [hsecond, hfirst, use_append]⟩
  storage _ _ _ := ⟨[], rfl⟩
  entry _ _ := ⟨[], rfl⟩
  hold broker after queue hlocks _ := ⟨[.hold queue], congrArg (LockTable.release · ()) hlocks⟩
  forget _ queue := ⟨[.forget queue], rfl⟩

/-- A table whose locks are used in turn stays within its capacity, also while a lock is held. -/
theorem size_use_le (capacity : Nat) (uses : List LockUse) (queue : QueueId) :
    let table := (ofCapacity capacity).use uses
    table.size ≤ max 1 capacity ∧ (table.acquire () queue).size ≤ max 1 capacity := by
  intro table
  have hline : (ofCapacity capacity : LockTable Unit).line = [] := rfl
  have hcapacity : 1 ≤ max 1 capacity := Nat.le_max_left 1 capacity
  have hbounded (steps : List (LockStep Unit)) (hpeak : peak steps (ofCapacity capacity) ≤ 1) :
      (run steps (ofCapacity capacity)).size ≤ max 1 capacity :=
    Nat.le_trans (size_run_ofCapacity_le capacity steps)
      (Nat.max_le.2 ⟨Nat.le_refl _, Nat.le_trans hpeak hcapacity⟩)
  have huses := (peak_uses_le hline uses).1
  -- While the lock is held the table is what it is halfway through one more use.
  have hhalf := (peak_uses_le hline (uses ++ [.hold queue])).1
  have hheld :
      peak (uses.flatMap LockUse.steps ++ [.acquire () queue]) (ofCapacity capacity) ≤ 1 := by
    rw [List.flatMap_append, List.flatMap_singleton, LockUse.steps, List.append_cons,
      peak_append] at hhalf
    exact (Nat.max_le.1 hhalf).1
  refine ⟨hbounded _ huses, ?_⟩
  have hsize := hbounded _ hheld
  rwa [run_append] at hsize

/-- However handles ask for locks and leave the line, and whatever queues are deleted: the locks
that the table knows are at most its capacity, which is at least one, or as many as there were busy
queues at one time, and when one has been added they are at most the capacity, or all in use. While
whole operations are made one after the other, on any queues and with any failures, they are at
most the capacity, also while a lock is held, and nobody is in line when an operation is over. -/
theorem locks_bounded (capacity : Nat) :
    (∀ {Handle : Type} [DecidableEq Handle] (steps : List (LockStep Handle)),
      let table := run steps (ofCapacity capacity)
      table.size ≤ max (max 1 capacity) (peak steps (ofCapacity capacity)) ∧
        ∀ handle queue, table.lock? queue = none →
          (table.acquire handle queue).size ≤
            max (max 1 capacity) (table.acquire handle queue).sizeInUse) ∧
      ∀ (broker : Broker) (activities : List Activity),
        let reached := live activities { broker with locks := ofCapacity capacity }
        reached.trackedLocks ≤ max 1 capacity ∧ reached.locks.held = [] ∧
          reached.locks.waiting = [] ∧
          ∀ queue, (reached.locks.acquire () queue).size ≤ max 1 capacity := by
  refine ⟨fun steps => ⟨size_run_ofCapacity_le capacity steps, fun handle queue hnew => ?_⟩,
    fun broker activities => ?_⟩
  · have hcapacity := capacity_run steps (ofCapacity capacity)
    have hsize := size_acquire_of_new hnew handle
    rwa [hcapacity] at hsize
  · intro reached
    have hempty : (ofCapacity capacity : LockTable Unit).line = [] := rfl
    obtain ⟨uses, huses⟩ := live_relates acrossCalls_use (fun _ _ => ⟨[], rfl⟩) activities
      { broker with locks := ofCapacity capacity }
    replace huses : reached.locks = (ofCapacity capacity).use uses := huses
    have hline := (peak_uses_le hempty uses).2
    rw [trackedLocks, held, waiting, huses, hline]
    exact ⟨(size_use_le capacity uses ⟨0⟩).1, rfl, rfl,
      fun queue => (size_use_le capacity uses queue).2⟩

/-- With a capacity of nothing, which counts as one, two handles wait for one lock and a third holds
another: a lock more is known than the capacity, and asking for a third forgets neither. A broker
that takes from queues that are not there knows one lock. -/
theorem locks_bounded_crowded :
    let steps : List (LockStep Nat) :=
      [.acquire 1 ⟨6⟩, .drop 1, .acquire 2 ⟨7⟩, .acquire 3 ⟨7⟩, .acquire 4 ⟨8⟩]
    let table := run steps (ofCapacity 0)
    let reached := live [.call (.dequeue ⟨1⟩ ⟨5⟩), .serve (.dequeue ⟨2⟩ ⟨6⟩)]
      { clock := ⟨0, 0⟩, locks := ofCapacity 0 }
    table.lock? ⟨9⟩ = none ∧ table.size = 2 ∧ peak steps (ofCapacity 0) = 2 ∧
      (table.acquire 5 ⟨9⟩).size = 3 ∧
      (table.acquire 5 ⟨9⟩).size ≤ max (max 1 0) (table.acquire 5 ⟨9⟩).sizeInUse ∧
      reached.locks.lock? ⟨6⟩ = some 1 ∧ reached.trackedLocks ≤ max 1 0 :=
  ⟨by decide, by decide, by decide, by decide,
    ((locks_bounded 0).1 _).2 5 ⟨9⟩ (by decide), by decide,
    ((locks_bounded 0).2 { clock := ⟨0, 0⟩ } _).1⟩

end LockTable

end WorkQueue
