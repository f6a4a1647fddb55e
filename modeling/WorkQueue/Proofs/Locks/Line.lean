import WorkQueue.LockTable

/-!
# What the operations of a lock table do

Who holds a lock and who waits for it is read off the line: the first in line for a lock holds it,
and everybody else in line for it waits behind the first. Asking for a lock puts a handle at the end
of the line and leaves every lock known that anybody is in line for, whatever is forgotten to make
room; a handle that leaves the line leaves the locks as they are.
-/

namespace WorkQueue.LockTable

variable {Handle : Type} {table : LockTable Handle} {g h : LockHandle Handle} {queue : QueueId}
  {lock : Nat}

/-! ## Holding and waiting -/

/-- The handles that come first are those that find themselves when they look for their lock. -/
theorem mem_splitLine_held {taken : List Nat} {line : List (LockHandle Handle)} :
    h ∈ (splitLine taken line).1 ↔
      h.lock ∉ taken ∧ (line.find? fun g => g.lock = h.lock) = some h := by
  induction line generalizing taken with
  | nil => simp [splitLine]
  | cons first rest ih =>
      unfold splitLine
      split
      · next htaken =>
          rw [List.contains_iff_mem] at htaken
          simp only [ih]
          refine and_congr_right fun hfree => ?_
          have hother : first.lock ≠ h.lock := fun hsame => hfree (hsame ▸ htaken)
          rw [List.find?_cons_of_neg (by simpa using hother)]
      · next htaken =>
          rw [List.contains_iff_mem] at htaken
          simp only [List.mem_cons, ih, not_or]
          by_cases hsame : first.lock = h.lock
          · rw [List.find?_cons_of_pos (by simpa using hsame)]
            constructor
            · rintro (rfl | ⟨⟨hdifferent, _⟩, _⟩)
              · exact ⟨htaken, rfl⟩
              · exact absurd hsame.symm hdifferent
            · rintro ⟨_, hfirst⟩
              exact .inl (Option.some.inj hfirst).symm
          · rw [List.find?_cons_of_neg (by simpa using hsame)]
            constructor
            · rintro (rfl | ⟨⟨_, hfree⟩, hfind⟩)
              · exact absurd rfl hsame
              · exact ⟨hfree, hfind⟩
            · rintro ⟨hfree, hfind⟩
              exact .inr ⟨⟨fun heq => hsame heq.symm, hfree⟩, hfind⟩

/-- A handle that does not come first stands behind the one that does. -/
theorem mem_splitLine_waiting {taken : List Nat} {line : List (LockHandle Handle)}
    (hwaits : h ∈ (splitLine taken line).2) :
    h.lock ∈ taken ∨
      ∃ g, (line.find? fun other => other.lock = h.lock) = some g ∧ [g, h].Sublist line := by
  induction line generalizing taken with
  | nil => cases hwaits
  | cons first rest ih =>
      unfold splitLine at hwaits
      split at hwaits
      · next htaken =>
          rw [List.contains_iff_mem] at htaken
          rcases List.mem_cons.1 hwaits with rfl | hrest
          · exact .inl htaken
          · rcases ih hrest with hin | ⟨g, hfind, hsub⟩
            · exact .inl hin
            · by_cases hsame : first.lock = h.lock
              · exact .inl (hsame ▸ htaken)
              · refine .inr ⟨g, ?_, hsub.cons first⟩
                rwa [List.find?_cons_of_neg (by simpa using hsame)]
      · by_cases hsame : first.lock = h.lock
        · have hmem : h ∈ rest := mem_splitLine.2 (.inr hwaits)
          refine .inr ⟨first, ?_, (List.singleton_sublist.2 hmem).cons_cons first⟩
          rw [List.find?_cons_of_pos (by simpa using hsame)]
        · rcases ih hwaits with hin | ⟨g, hfind, hsub⟩
          · exact .inl ((List.mem_cons.1 hin).resolve_left fun heq => hsame heq.symm)
          · refine .inr ⟨g, ?_, hsub.cons first⟩
            rwa [List.find?_cons_of_neg (by simpa using hsame)]

/-- A handle holds its lock when it is the first in line for it. -/
theorem mem_held : h ∈ table.held ↔ (table.line.find? fun g => g.lock = h.lock) = some h := by
  rw [held, mem_splitLine_held]
  exact and_iff_right List.not_mem_nil

/-- Whoever waits for a lock stands behind the one that holds it. -/
theorem exists_held_of_waiting (hwaits : h ∈ table.waiting) :
    ∃ g ∈ table.held, g.lock = h.lock ∧ [g, h].Sublist table.line := by
  obtain ⟨g, hfind, hsub⟩ := (mem_splitLine_waiting hwaits).resolve_left List.not_mem_nil
  have hlock : g.lock = h.lock := by simpa using List.find?_some hfind
  exact ⟨g, mem_held.2 (hlock ▸ hfind), hlock, hsub⟩

/-- Every handle in line either holds its lock or waits for it. -/
theorem mem_line : h ∈ table.line ↔ h ∈ table.held ∨ h ∈ table.waiting :=
  mem_splitLine

/-- No lock is held twice by handles that come first. -/
theorem nodup_splitLine_locks (taken : List Nat) (line : List (LockHandle Handle)) :
    ((splitLine taken line).1.map LockHandle.lock).Nodup := by
  induction line generalizing taken with
  | nil => exact List.nodup_nil
  | cons first rest ih =>
      unfold splitLine
      split
      · exact ih taken
      · refine List.nodup_cons.2 ⟨fun hmem => ?_, ih (first.lock :: taken)⟩
        obtain ⟨other, hother, hsame⟩ := List.mem_map.1 hmem
        exact (mem_splitLine_held.1 hother).1 (hsame ▸ List.mem_cons_self)

/-- No lock is held twice. -/
theorem nodup_held_locks (table : LockTable Handle) : (table.held.map LockHandle.lock).Nodup :=
  nodup_splitLine_locks [] table.line

/-! ## Which locks are known -/

/-- Making room leaves the line as it is. -/
@[simp]
theorem line_makeRoom (table : LockTable Handle) (queue : QueueId) :
    (table.makeRoom queue).line = table.line := by
  unfold makeRoom prune
  split <;> rfl

/-- Making room leaves the number of the next lock as it is. -/
@[simp]
theorem nextLock_makeRoom (table : LockTable Handle) (queue : QueueId) :
    (table.makeRoom queue).nextLock = table.nextLock := by
  unfold makeRoom prune
  split <;> rfl

/-- What is known when room has been made was known before. -/
theorem entries_makeRoom_sublist (table : LockTable Handle) (queue : QueueId) :
    (table.makeRoom queue).entries.Sublist table.entries := by
  unfold makeRoom prune
  split
  · exact List.filter_sublist
  · exact .refl _

/-- The lock for which a handle is put in line that asks for the queue now. -/
def lockFor (table : LockTable Handle) (queue : QueueId) : Nat :=
  ((table.makeRoom queue).lock? queue).getD table.nextLock

/-- Asking for a lock puts the handle at the end of the line. -/
theorem line_acquire (table : LockTable Handle) (handle : Handle) (queue : QueueId) :
    (table.acquire handle queue).line = table.line ++ [⟨handle, queue, table.lockFor queue⟩] := by
  unfold acquire lockFor
  dsimp only
  split
  · next hknown => rw [line_makeRoom, hknown]; rfl
  · next hnew => rw [line_makeRoom, nextLock_makeRoom, hnew]; rfl

/-- The first entry of a queue is found among some of the entries if it is one of them. -/
theorem lookup_filter {entries : List (QueueId × Nat)} {keep : QueueId × Nat → Bool}
    (hknown : entries.lookup queue = some lock) (hkeep : keep (queue, lock) = true) :
    (entries.filter keep).lookup queue = some lock := by
  obtain ⟨before, after, rfl, hbefore⟩ := List.lookup_eq_some_iff.1 hknown
  refine List.lookup_eq_some_iff.2 ⟨before.filter keep, after.filter keep, ?_, fun p hp => ?_⟩
  · rw [List.filter_append, List.filter_cons_of_pos hkeep]
  · exact hbefore p (List.mem_filter.1 hp).1

/-- Making room does not forget a lock that anybody is in line for. -/
theorem lock?_makeRoom (other : QueueId) (hknown : table.lock? queue = some lock)
    (hused : ∃ h ∈ table.line, h.lock = lock) :
    (table.makeRoom other).lock? queue = some lock := by
  unfold makeRoom
  split
  · refine lookup_filter hknown ?_
    obtain ⟨h, hmem, hlock⟩ := hused
    exact List.any_eq_true.2 ⟨h, hmem, by simpa using hlock⟩
  · exact hknown

/-- A queue whose lock is known and used is asked for by that lock. -/
theorem lockFor_eq (hknown : table.lock? queue = some lock)
    (hused : ∃ h ∈ table.line, h.lock = lock) : table.lockFor queue = lock := by
  rw [lockFor, lock?_makeRoom queue hknown hused]
  rfl

/-- A lock that has been asked for is known. -/
theorem lock?_acquire_self (table : LockTable Handle) (handle : Handle) (queue : QueueId) :
    (table.acquire handle queue).lock? queue = some (table.lockFor queue) := by
  unfold acquire lockFor
  dsimp only
  split
  · next hknown => rw [hknown]; exact hknown
  · next hnew =>
      rw [hnew, nextLock_makeRoom]
      unfold lock? at hnew ⊢
      rw [List.lookup_append, hnew]
      simp

/-- Asking for a lock leaves every lock known that anybody is in line for. -/
theorem lock?_acquire (handle : Handle) (other : QueueId) (hknown : table.lock? queue = some lock)
    (hused : ∃ h ∈ table.line, h.lock = lock) :
    (table.acquire handle other).lock? queue = some lock := by
  have hroom := lock?_makeRoom other hknown hused
  unfold acquire
  dsimp only
  split
  · exact hroom
  · unfold lock? at hroom ⊢
    rw [List.lookup_append, hroom]
    rfl

/-- A lock that is asked for is known, or has a number that no lock had. -/
theorem acquire_cases (table : LockTable Handle) (handle : Handle) (queue : QueueId) :
    (∀ entry ∈ (table.acquire handle queue).entries,
        entry ∈ table.entries ∨ entry = (queue, table.lockFor queue)) ∧
      ((queue, table.lockFor queue) ∈ table.entries ∧
          (table.acquire handle queue).nextLock = table.nextLock ∨
        table.lockFor queue = table.nextLock ∧
          (table.acquire handle queue).nextLock = table.nextLock + 1) := by
  have hroom := (entries_makeRoom_sublist table queue).subset
  unfold acquire lockFor
  dsimp only
  split
  · next lock hknown =>
      rw [hknown]
      obtain ⟨before, after, heq, _⟩ := List.lookup_eq_some_iff.1 hknown
      refine ⟨fun entry hentry => .inl (hroom hentry),
        .inl ⟨hroom ?_, nextLock_makeRoom table queue⟩⟩
      rw [heq]
      exact List.mem_append_right before List.mem_cons_self
  · next hnew =>
      rw [hnew, nextLock_makeRoom]
      refine ⟨fun entry hentry => ?_, .inr ⟨rfl, rfl⟩⟩
      rcases List.mem_append.1 hentry with hold | hlast
      · exact .inl (hroom hold)
      · exact .inr (List.mem_singleton.1 hlast)

/-- Forgetting the lock of another queue leaves the lock known. -/
theorem lock?_evict {other : QueueId} (hknown : table.lock? queue = some lock)
    (hother : queue ≠ other) : (table.evict other).lock? queue = some lock :=
  lookup_filter hknown (by simpa using hother)

end WorkQueue.LockTable
