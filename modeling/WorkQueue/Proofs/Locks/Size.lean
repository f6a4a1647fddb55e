import Mathlib.Data.List.Dedup
import Mathlib.Data.List.Perm.Subperm
import WorkQueue.Proofs.Locks.Turns

/-!
# How many locks are known

A lock is made when its queue is asked for and no lock of it is known; a table that is full forgets
the locks that nobody is in line for first. So a table outgrows its capacity only as far as locks
are in use, and then it has no more entries than there were queues at one time whose locks handles
held or waited for: `size_run_le` and `size_acquire_of_new`.
-/

namespace WorkQueue.LockTable

variable {Handle : Type} {table : LockTable Handle} {past : List (LockHandle Handle)}
  {queue : QueueId}

/-- The number of different queues whose lock somebody holds or waits for. -/
def busy (table : LockTable Handle) : Nat :=
  (table.line.map LockHandle.queue).dedup.length

/-- The number of known locks that somebody holds or waits for. -/
def sizeInUse (table : LockTable Handle) : Nat :=
  table.entries.countP fun (_, lock) => table.isInUse lock

/-- Is there at most one entry for each queue? -/
def OnePerQueue (table : LockTable Handle) : Prop :=
  (table.entries.map Prod.fst).Nodup

/-- Queues are busy by handles in line. -/
theorem busy_le_length_line (table : LockTable Handle) : table.busy ≤ table.line.length := by
  rw [busy, ← List.length_map LockHandle.queue]
  exact (List.dedup_sublist _).length_le

/-- No queue is busy when nobody is in line. -/
theorem busy_of_line_eq_nil (h : table.line = []) : table.busy = 0 := by
  have hle := busy_le_length_line table
  rw [h, List.length_nil] at hle
  exact Nat.le_zero.1 hle

/-- An entry whose lock is in use is for a queue that is busy, and no two entries are for one. -/
theorem sizeInUse_le_busy (hcoherent : table.Coherent past) (hone : table.OnePerQueue) :
    table.sizeInUse ≤ table.busy := by
  have hnodup : ((table.entries.filter fun (_, lock) => table.isInUse lock).map Prod.fst).Nodup :=
    hone.sublist (List.filter_sublist.map _)
  have hbusy : (table.entries.filter fun (_, lock) => table.isInUse lock).map Prod.fst ⊆
      (table.line.map LockHandle.queue).dedup := by
    intro queue hqueue
    obtain ⟨entry, hentry, rfl⟩ := List.mem_map.1 hqueue
    obtain ⟨hknown, hused⟩ := List.mem_filter.1 hentry
    obtain ⟨h, hline, hlock⟩ := List.any_eq_true.1 hused
    have hgiven : (h.queue, h.lock) ∈ table.given past :=
      List.mem_append_right _ (List.mem_map.2 ⟨h, hcoherent.line.subset hline, rfl⟩)
    have hsame : h.queue = entry.1 :=
      hcoherent.agree _ hgiven entry (List.mem_append_left _ hknown) (by simpa using hlock)
    exact List.mem_dedup.2 (hsame ▸ List.mem_map_of_mem hline)
  rw [sizeInUse, List.countP_eq_length_filter, ← List.length_map Prod.fst]
  exact (List.subperm_of_subset hnodup hbusy).length_le

/-! ## What a step does to the size -/

/-- Asking for a lock that is known adds no entry. -/
theorem entries_acquire_of_known {lock : Nat} (h : table.lock? queue = some lock)
    (handle : Handle) : (table.acquire handle queue).entries = table.entries := by
  have hroom : table.makeRoom queue = table := by
    rw [makeRoom, if_neg (by simp [h])]
  rw [acquire, hroom]
  simp only [h]

/-- Asking for a lock that is not known adds an entry when room has been made. -/
theorem entries_acquire_of_new (h : table.lock? queue = none) (handle : Handle) :
    (table.acquire handle queue).entries =
      (table.makeRoom queue).entries ++ [(queue, table.lockFor queue)] := by
  have hnew : (table.makeRoom queue).lock? queue = none := by
    rw [lock?, List.lookup_eq_none_iff] at h ⊢
    exact fun entry hentry => h entry ((entries_makeRoom_sublist table queue).subset hentry)
  rw [acquire, lockFor, hnew, nextLock_makeRoom]
  rfl

/-- Asking for a lock leaves the capacity. -/
theorem capacity_acquire (table : LockTable Handle) (handle : Handle) (queue : QueueId) :
    (table.acquire handle queue).capacity = table.capacity := by
  have hroom : (table.makeRoom queue).capacity = table.capacity := by
    unfold makeRoom prune
    split <;> rfl
  unfold acquire
  dsimp only
  split <;> exact hroom

/-- A lock for which a handle is put in line is in use. -/
theorem isInUse_acquire (table : LockTable Handle) (handle : Handle) (queue : QueueId) :
    (table.acquire handle queue).isInUse (table.lockFor queue) = true := by
  rw [isInUse, line_acquire, List.any_append]
  simp

/-- A lock that is in use stays so when somebody asks for a lock. -/
theorem isInUse_acquire_of_isInUse {lock : Nat} (h : table.isInUse lock = true) (handle : Handle)
    (queue : QueueId) : (table.acquire handle queue).isInUse lock = true := by
  rw [isInUse, line_acquire, List.any_append, ← isInUse, h, Bool.true_or]

/-- When an entry has been added, the table is within its capacity, or all of its locks are in
use. -/
theorem size_acquire_of_new (h : table.lock? queue = none) (handle : Handle) :
    (table.acquire handle queue).size ≤
      max table.capacity (table.acquire handle queue).sizeInUse := by
  by_cases hfull : table.capacity ≤ table.size
  · refine Nat.le_trans (Nat.le_of_eq ?_) (Nat.le_max_right _ _)
    rw [size, sizeInUse, eq_comm, List.countP_eq_length]
    intro entry hentry
    rw [entries_acquire_of_new h, makeRoom, if_pos ⟨hfull, h⟩] at hentry
    rcases List.mem_append.1 hentry with hkept | hnew
    · exact isInUse_acquire_of_isInUse (List.mem_filter.1 hkept).2 handle queue
    · rw [List.mem_singleton.1 hnew]
      exact isInUse_acquire table handle queue
  · refine Nat.le_trans ?_ (Nat.le_max_left _ _)
    rw [size, entries_acquire_of_new h, makeRoom, if_neg (by simp [hfull]), List.length_append,
      List.length_singleton]
    exact Nat.not_le.1 hfull

/-- Asking for a lock keeps one entry for each queue. -/
theorem OnePerQueue.acquire (hone : table.OnePerQueue) (handle : Handle) (queue : QueueId) :
    (table.acquire handle queue).OnePerQueue := by
  cases hknown : table.lock? queue with
  | some lock => rwa [OnePerQueue, entries_acquire_of_known hknown]
  | none =>
      have hroom := entries_makeRoom_sublist table queue
      rw [OnePerQueue, entries_acquire_of_new hknown, List.map_append, List.nodup_append]
      refine ⟨hone.sublist (hroom.map _), List.nodup_singleton _, ?_⟩
      rintro other hother _ hqueue rfl
      obtain ⟨entry, hentry, rfl⟩ := List.mem_map.1 hother
      rw [lock?, List.lookup_eq_none_iff] at hknown
      have hnew := hknown entry (hroom.subset hentry)
      simp_all

variable [DecidableEq Handle]

/-- Every step leaves the capacity. -/
@[simp]
theorem capacity_step (table : LockTable Handle) (step : LockStep Handle) :
    (table.step step).capacity = table.capacity := by
  cases step with
  | acquire handle queue => exact capacity_acquire table handle queue
  | drop handle => rfl
  | evict queue => rfl

/-- Every step keeps one entry for each queue. -/
theorem OnePerQueue.step (hone : table.OnePerQueue) (step : LockStep Handle) :
    (table.step step).OnePerQueue := by
  cases step with
  | acquire handle queue => exact hone.acquire handle queue
  | drop handle => exact hone
  | evict queue => exact hone.sublist (List.filter_sublist.map _)

/-- A table that grows in a step is within its capacity, or has no more entries than queues are
busy. -/
theorem size_step_le (hcoherent : table.Coherent past) (hone : table.OnePerQueue)
    (step : LockStep Handle) :
    (table.step step).size ≤ max table.size (max table.capacity (table.step step).busy) := by
  cases step with
  | acquire handle queue =>
      cases hknown : table.lock? queue with
      | some lock =>
          have hsize : (table.acquire handle queue).size = table.size :=
            congrArg List.length (entries_acquire_of_known hknown handle)
          exact Nat.le_trans (Nat.le_of_eq hsize) (Nat.le_max_left _ _)
      | none =>
          have hsize := size_acquire_of_new hknown handle
          have hused :=
            sizeInUse_le_busy (hcoherent.acquire handle queue) (hone.acquire handle queue)
          rw [LockTable.step]
          omega
  | drop handle => exact Nat.le_max_left _ _
  | evict queue => exact Nat.le_trans (List.length_filter_le _ _) (Nat.le_max_left _ _)

/-! ## What steps do to the size -/

/-- The largest number of different queues that are busy at one time, from before some steps until
after them. -/
def peak : List (LockStep Handle) → LockTable Handle → Nat
  | [], table => table.busy
  | step :: rest, table => max table.busy (peak rest (table.step step))

/-- The queues that are busy at first count. -/
theorem busy_le_peak (steps : List (LockStep Handle)) (table : LockTable Handle) :
    table.busy ≤ peak steps table := by
  cases steps with
  | nil => exact Nat.le_refl _
  | cons step rest => exact Nat.le_max_left _ _

/-- The peak of steps is the larger of the peaks of their two parts. -/
theorem peak_append (first second : List (LockStep Handle)) (table : LockTable Handle) :
    peak (first ++ second) table = max (peak first table) (peak second (run first table)) := by
  induction first generalizing table with
  | nil => exact (Nat.max_eq_right (busy_le_peak second table)).symm
  | cons step rest ih => rw [List.cons_append, peak, ih, peak, run, Nat.max_assoc]

/-- Steps leave the capacity. -/
theorem capacity_run (steps : List (LockStep Handle)) (table : LockTable Handle) :
    (run steps table).capacity = table.capacity := by
  induction steps generalizing table with
  | nil => rfl
  | cons step rest ih => rw [run, ih, capacity_step]

/-- A table that grows in some steps is within its capacity, or has no more entries than there were
busy queues at one time. -/
theorem size_run_le (hcoherent : table.Coherent past) (hone : table.OnePerQueue)
    (steps : List (LockStep Handle)) :
    (run steps table).size ≤ max table.size (max table.capacity (peak steps table)) := by
  induction steps generalizing table past with
  | nil => exact Nat.le_max_left _ _
  | cons step rest ih =>
      have hstep := size_step_le hcoherent hone step
      have hrest := ih (hcoherent.step step) (hone.step step)
      have hbusy := busy_le_peak rest (table.step step)
      rw [capacity_step] at hrest
      rw [run, peak]
      omega

/-- Steps from an empty table leave a table that is within its capacity, or has no more entries than
there were busy queues at one time. -/
theorem size_run_ofCapacity_le (capacity : Nat) (steps : List (LockStep Handle)) :
    (run steps (ofCapacity capacity)).size ≤
      max (max 1 capacity) (peak steps (ofCapacity capacity)) := by
  have hsize := size_run_le (coherent_ofCapacity capacity) List.nodup_nil steps
  have hempty : (ofCapacity capacity : LockTable Handle).size = 0 := rfl
  rw [hempty, Nat.max_eq_right (Nat.zero_le _)] at hsize
  exact hsize

end WorkQueue.LockTable
