import Mathlib.Data.List.Nodup
import WorkQueue.Proofs.Locks.Line

/-!
# Taking turns

Handles ask for locks, release them or give up waiting, and locks are forgotten when their queues
are deleted. What such steps come to, in any order and whatever is forgotten to make room, is
`locks_take_turns`: a lock is shared by those who ask for its queue while anybody is in line for it,
it is held by one handle at a time, those who wait for it wait for a handle that asked earlier for
the same queue, and turns are taken in the order in which handles asked.
-/

namespace WorkQueue

/-- A step that changes a lock table. -/
inductive LockStep (Handle : Type) where
  | acquire (handle : Handle) (queue : QueueId)
  /-- The handle releases its lock, or gives up waiting for it. -/
  | drop (handle : Handle)
  | evict (queue : QueueId)
  deriving DecidableEq, Repr

/-- The handle that a step puts in line. -/
def LockStep.newcomer? {Handle : Type} : LockStep Handle → Option Handle
  | .acquire handle _ => some handle
  | .drop _ | .evict _ => none

namespace LockTable

variable {Handle : Type} {table : LockTable Handle} {g h : LockHandle Handle}
  {past : List (LockHandle Handle)}

/-! ## What has been given out -/

/-- The locks that the table knows and those that handles have been in line for, each with its
queue. -/
def given (table : LockTable Handle) (past : List (LockHandle Handle)) : List (QueueId × Nat) :=
  table.entries ++ past.map fun h => (h.queue, h.lock)

/-- The line is made of handles that have been put in it, and a lock is given out for one queue. -/
structure Coherent (table : LockTable Handle) (past : List (LockHandle Handle)) : Prop where
  line : table.line.Sublist past
  below : ∀ pair ∈ table.given past, pair.2 < table.nextLock
  agree : ∀ pair ∈ table.given past, ∀ other ∈ table.given past,
    pair.2 = other.2 → pair.1 = other.1

/-- Nothing has been given out by an empty table. -/
theorem coherent_ofCapacity (capacity : Nat) :
    (ofCapacity capacity : LockTable Handle).Coherent [] :=
  ⟨.refl _, fun _ hmem => absurd hmem List.not_mem_nil, fun _ hmem => absurd hmem List.not_mem_nil⟩

/-- Handles that have been in line for one lock asked for one queue. -/
theorem Coherent.queue_eq (hcoherent : table.Coherent past) (hg : g ∈ past) (hh : h ∈ past)
    (hlock : g.lock = h.lock) : g.queue = h.queue :=
  hcoherent.agree (g.queue, g.lock) (List.mem_append_right _ (List.mem_map.2 ⟨g, hg, rfl⟩))
    (h.queue, h.lock) (List.mem_append_right _ (List.mem_map.2 ⟨h, hh, rfl⟩)) hlock

/-- What has been given out once a handle has asked is its lock, or had been given out before. -/
theorem mem_given_acquire {handle : Handle} {queue : QueueId} {pair : QueueId × Nat}
    (hpair : pair ∈ (table.acquire handle queue).given
      (past ++ [⟨handle, queue, table.lockFor queue⟩])) :
    pair ∈ table.given past ∨ pair = (queue, table.lockFor queue) := by
  rw [given, List.map_append, ← List.append_assoc] at hpair
  rcases List.mem_append.1 hpair with hold | hnew
  · rcases List.mem_append.1 hold with hentry | hpast
    · exact ((acquire_cases table handle queue).1 pair hentry).imp_left (List.mem_append_left _)
    · exact .inl (List.mem_append_right _ hpast)
  · exact .inr (List.mem_singleton.1 hnew)

/-- Asking for a lock keeps what has been given out coherent. -/
theorem Coherent.acquire (hcoherent : table.Coherent past) (handle : Handle) (queue : QueueId) :
    (table.acquire handle queue).Coherent (past ++ [⟨handle, queue, table.lockFor queue⟩]) := by
  obtain ⟨_, hlock⟩ := acquire_cases table handle queue
  have hbound : table.lockFor queue < (table.acquire handle queue).nextLock ∧
      table.nextLock ≤ (table.acquire handle queue).nextLock := by
    rcases hlock with ⟨hknown, hnext⟩ | ⟨hnew, hnext⟩
    · exact ⟨hnext ▸ hcoherent.below _ (List.mem_append_left _ hknown), Nat.le_of_eq hnext.symm⟩
    · omega
  have hown : ∀ pair ∈ table.given past, pair.2 = table.lockFor queue → pair.1 = queue := by
    intro pair hpair hsame
    rcases hlock with ⟨hknown, _⟩ | ⟨hnew, _⟩
    · exact hcoherent.agree pair hpair _ (List.mem_append_left _ hknown) hsame
    · exact absurd (hsame.trans hnew) (Nat.ne_of_lt (hcoherent.below pair hpair))
  refine ⟨?_, fun pair hpair => ?_, fun pair hpair other hother hsame => ?_⟩
  · rw [line_acquire]
    exact hcoherent.line.append (.refl _)
  · rcases mem_given_acquire hpair with hpair | rfl
    · exact Nat.lt_of_lt_of_le (hcoherent.below pair hpair) hbound.2
    · exact hbound.1
  · rcases mem_given_acquire hpair, mem_given_acquire hother with ⟨hpair | rfl, hother | rfl⟩
    · exact hcoherent.agree pair hpair other hother hsame
    · exact hown pair hpair hsame
    · exact (hown other hother hsame.symm).symm
    · rfl

/-! ## Steps -/

variable [DecidableEq Handle]

/-- The table after a step. -/
def step (table : LockTable Handle) : LockStep Handle → LockTable Handle
  | .acquire handle queue => table.acquire handle queue
  | .drop handle => table.release handle
  | .evict queue => table.evict queue

/-- The table after some steps. -/
def run : List (LockStep Handle) → LockTable Handle → LockTable Handle
  | [], table => table
  | step :: rest, table => run rest (table.step step)

/-- The handles that a step puts in line, with the locks that they ask for. -/
def newcomers (table : LockTable Handle) : LockStep Handle → List (LockHandle Handle)
  | .acquire handle queue => [⟨handle, queue, table.lockFor queue⟩]
  | .drop _ | .evict _ => []

/-- The handles that some steps put in line, in the order in which they asked. -/
def acquired : List (LockStep Handle) → LockTable Handle → List (LockHandle Handle)
  | [], _ => []
  | step :: rest, table => table.newcomers step ++ acquired rest (table.step step)

/-- Steps are made one after the other. -/
theorem run_append (first second : List (LockStep Handle)) (table : LockTable Handle) :
    run (first ++ second) table = run second (run first table) := by
  induction first generalizing table with
  | nil => rfl
  | cons step rest ih => exact ih (table.step step)

/-- The handles that later steps put in line come after those of earlier ones. -/
theorem acquired_append (first second : List (LockStep Handle)) (table : LockTable Handle) :
    acquired (first ++ second) table = acquired first table ++ acquired second (run first table) := by
  induction first generalizing table with
  | nil => rfl
  | cons step rest ih =>
      rw [List.cons_append, acquired, acquired, ih, List.append_assoc]
      rfl

/-- The handles that are put in line are those that ask. -/
theorem map_handle_acquired (steps : List (LockStep Handle)) (table : LockTable Handle) :
    (acquired steps table).map LockHandle.handle = steps.filterMap LockStep.newcomer? := by
  induction steps generalizing table with
  | nil => rfl
  | cons step rest ih =>
      rw [acquired, List.map_append, ih]
      cases step <;> rfl

/-- The line after a step has those who stay, and then the newcomers. -/
theorem line_step (table : LockTable Handle) (step : LockStep Handle) :
    ∃ staying, staying.Sublist table.line ∧
      (table.step step).line = staying ++ table.newcomers step := by
  cases step with
  | acquire handle queue => exact ⟨table.line, .refl _, line_acquire table handle queue⟩
  | drop handle => exact ⟨_, List.filter_sublist, (List.append_nil _).symm⟩
  | evict queue => exact ⟨table.line, .refl _, (List.append_nil _).symm⟩

/-- Only a handle that is dropped leaves the line. -/
theorem mem_line_step (step : LockStep Handle) (hmem : g ∈ table.line)
    (hstays : step ≠ .drop g.handle) : g ∈ (table.step step).line := by
  cases step with
  | acquire handle queue =>
      rw [LockTable.step, line_acquire]
      exact List.mem_append_left _ hmem
  | drop handle =>
      refine List.mem_filter.2 ⟨hmem, ?_⟩
      simpa using fun heq : g.handle = handle => hstays (heq ▸ rfl)
  | evict queue => exact hmem

/-! ## What stays coherent -/

namespace Coherent

/-- Every step keeps what has been given out coherent. -/
theorem step (hcoherent : table.Coherent past) (next : LockStep Handle) :
    (table.step next).Coherent (past ++ table.newcomers next) := by
  cases next with
  | acquire handle queue => exact hcoherent.acquire handle queue
  | drop handle =>
      rw [newcomers, List.append_nil]
      exact ⟨List.filter_sublist.trans hcoherent.line, hcoherent.below, hcoherent.agree⟩
  | evict queue =>
      rw [newcomers, List.append_nil]
      have hold : ∀ pair ∈ (table.evict queue).given past, pair ∈ table.given past := by
        intro pair hpair
        rcases List.mem_append.1 hpair with hentry | hpast
        · exact List.mem_append_left _ (List.mem_filter.1 hentry).1
        · exact List.mem_append_right _ hpast
      exact ⟨hcoherent.line, fun pair hpair => hcoherent.below pair (hold pair hpair),
        fun pair hpair other hother =>
          hcoherent.agree pair (hold pair hpair) other (hold other hother)⟩

/-- What has been given out stays coherent during a run. -/
theorem run (hcoherent : table.Coherent past) (steps : List (LockStep Handle)) :
    (LockTable.run steps table).Coherent (past ++ acquired steps table) := by
  induction steps generalizing table past with
  | nil => rwa [acquired, List.append_nil]
  | cons next rest ih =>
      rw [acquired, ← List.append_assoc]
      exact ih (hcoherent.step next)

end Coherent

/-! ## Staying in line -/

/-- A handle in line was in line before the steps or is put there by one of them. -/
theorem mem_line_run {steps : List (LockStep Handle)} (hmem : g ∈ (run steps table).line) :
    g ∈ table.line ∨ g ∈ acquired steps table := by
  induction steps generalizing table with
  | nil => exact .inl hmem
  | cons next rest ih =>
      rcases ih hmem with hline | hlater
      · obtain ⟨staying, hstaying, hafter⟩ := line_step table next
        rw [hafter] at hline
        rcases List.mem_append.1 hline with hstays | hnew
        · exact .inl (hstaying.subset hstays)
        · exact .inr (List.mem_append_left _ hnew)
      · exact .inr (List.mem_append_right _ hlater)

/-- A handle that has been in line and is not any more was dropped while it was in line. -/
theorem exists_drop {steps : List (LockStep Handle)}
    (hmem : g ∈ table.line ∨ g ∈ acquired steps table) (hgone : g ∉ (run steps table).line) :
    ∃ before after, steps = before ++ .drop g.handle :: after ∧ g ∈ (run before table).line := by
  induction steps generalizing table with
  | nil => exact absurd (hmem.resolve_right List.not_mem_nil) hgone
  | cons next rest ih =>
      by_cases hdrop : next = .drop g.handle ∧ g ∈ table.line
      · exact ⟨[], rest, by rw [hdrop.1]; rfl, hdrop.2⟩
      · have hnext : g ∈ (table.step next).line ∨ g ∈ acquired rest (table.step next) := by
          rcases hmem with hline | hacquired
          · exact .inl (mem_line_step next hline fun heq => hdrop ⟨heq, hline⟩)
          · rcases List.mem_append.1 hacquired with hnew | hlater
            · obtain ⟨staying, _, hafter⟩ := line_step table next
              exact .inl (hafter ▸ List.mem_append_right staying hnew)
            · exact .inr hlater
        obtain ⟨before, after, rfl, hbefore⟩ := ih hnext hgone
        exact ⟨next :: before, after, rfl, hbefore⟩

/-- While a handle stays in line and the lock of its queue is not forgotten on purpose, its lock is
the one by which the queue is known. -/
theorem lock?_run {steps : List (LockStep Handle)} (hknown : table.lock? g.queue = some g.lock)
    (hline : g ∈ table.line) (hkept : LockStep.evict g.queue ∉ steps)
    (honce : g ∉ acquired steps table) (hstays : g ∈ (run steps table).line) :
    (run steps table).lock? g.queue = some g.lock := by
  induction steps generalizing table with
  | nil => exact hknown
  | cons next rest ih =>
      obtain ⟨hnext, hrest⟩ := not_or.1 (mt List.mem_cons.2 hkept)
      have hlater : g ∉ acquired rest (table.step next) :=
        fun hmem => honce (List.mem_append_right _ hmem)
      rw [run] at hstays
      have hline' : g ∈ (table.step next).line := (mem_line_run hstays).resolve_right hlater
      refine ih ?_ hline' hrest hlater hstays
      cases next with
      | acquire handle queue => exact lock?_acquire handle queue hknown ⟨g, hline, rfl⟩
      | drop handle => exact hknown
      | evict queue => exact lock?_evict hknown fun heq => hnext (heq ▸ rfl)

/-! ## Turns -/

/-- In a list without repetition two members stand in one order only. -/
theorem not_sublist_swap {α : Type} {rows : List α} {a b : α} (hdistinct : rows.Nodup)
    (hsub : [a, b].Sublist rows) : ¬ [b, a].Sublist rows := by
  induction rows with
  | nil => cases hsub
  | cons first rest ih =>
      obtain ⟨hfirst, hrest⟩ := List.nodup_cons.1 hdistinct
      intro hswap
      rcases List.sublist_cons_iff.1 hsub with hab | ⟨_, heq, hb⟩ <;>
        rcases List.sublist_cons_iff.1 hswap with hba | ⟨_, heq', ha⟩
      · exact ih hrest hab hba
      · cases heq'
        exact hfirst (hab.subset (List.mem_cons_of_mem a List.mem_cons_self))
      · cases heq
        exact hfirst (hba.subset (List.mem_cons_of_mem b List.mem_cons_self))
      · cases heq
        cases heq'
        exact hfirst (List.singleton_sublist.1 ha)

/-- What it is for the handles that some steps put in line to take turns. -/
structure TakeTurns (start : LockTable Handle) (steps : List (LockStep Handle)) : Prop where
  /-- Two handles that ask for one queue share a lock if the first still holds it or waits for it
  when the second asks, and the lock was not forgotten on purpose in between. -/
  shared : ∀ before between after g h queue,
    steps = before ++ .acquire g queue :: between ++ .acquire h queue :: after →
    .evict queue ∉ between →
    (∃ first, first.handle = g ∧
      (first ∈ (run (before ++ .acquire g queue :: between) start).held ∨
        first ∈ (run (before ++ .acquire g queue :: between) start).waiting)) →
    ∃ lock,
      ⟨g, queue, lock⟩ ∈
        (run (before ++ .acquire g queue :: between ++ [.acquire h queue]) start).line ∧
      ⟨h, queue, lock⟩ ∈
        (run (before ++ .acquire g queue :: between ++ [.acquire h queue]) start).line
  /-- No lock is held twice. -/
  exclusive : ((run steps start).held.map LockHandle.lock).Nodup
  /-- A handle that waits waits for one that has asked earlier, and for the same queue. -/
  behind : ∀ h ∈ (run steps start).waiting, ∃ g ∈ (run steps start).held,
    g.lock = h.lock ∧ g.queue = h.queue ∧ [g, h].Sublist (acquired steps start)
  /-- When a handle holds a lock, those that asked for it earlier have held it and released it, or
  have given up waiting for it. -/
  inOrder : ∀ g h, [g, h].Sublist (acquired steps start) → g.lock = h.lock →
    h ∈ (run steps start).held →
    ∃ before after, steps = before ++ .drop g.handle :: after ∧
      (g ∈ (run before start).held ∨ g ∈ (run before start).waiting)
  /-- Handles that have asked for different queues have not been in line for one lock. -/
  apart : ∀ g ∈ acquired steps start, ∀ h ∈ acquired steps start,
    g.lock = h.lock → g.queue = h.queue

section

variable {start : LockTable Handle} {steps : List (LockStep Handle)}

/-- A handle that is put in line once is known by its name. -/
theorem eq_of_handle_eq (hdistinct : (steps.filterMap LockStep.newcomer?).Nodup)
    (hg : g ∈ acquired steps start) (hh : h ∈ acquired steps start)
    (hname : g.handle = h.handle) : g = h := by
  rw [← map_handle_acquired steps start] at hdistinct
  exact List.inj_on_of_nodup_map hdistinct hg hh hname

/-- A handle that asks for a queue gets the lock of the handle that asked before and is still in
line. -/
theorem exists_shared (hstart : start.Coherent [])
    {before between : List (LockStep Handle)} {g h : Handle} {queue : QueueId}
    (hdistinct : ((before ++ .acquire g queue :: between).filterMap LockStep.newcomer?).Nodup)
    (hkept : LockStep.evict queue ∉ between)
    {first : LockHandle Handle} (hname : first.handle = g)
    (hfirst : first ∈ (run (before ++ .acquire g queue :: between) start).line) :
    ∃ lock,
      ⟨g, queue, lock⟩ ∈
        (run (before ++ .acquire g queue :: between ++ [.acquire h queue]) start).line ∧
      ⟨h, queue, lock⟩ ∈
        (run (before ++ .acquire g queue :: between ++ [.acquire h queue]) start).line := by
  let asked := run before start
  let original : LockHandle Handle := ⟨g, queue, asked.lockFor queue⟩
  have hacquired : acquired (before ++ .acquire g queue :: between) start =
      acquired before start ++ original :: acquired between (asked.acquire g queue) :=
    acquired_append before _ start
  have hrun : run (before ++ .acquire g queue :: between) start =
      run between (asked.acquire g queue) := run_append before _ start
  -- The handle that is in line now is the one that was put there.
  have hpast : first ∈ acquired (before ++ .acquire g queue :: between) start :=
    (hstart.run _).line.subset hfirst
  have horiginal : original ∈ acquired (before ++ .acquire g queue :: between) start :=
    hacquired ▸ List.mem_append_right _ List.mem_cons_self
  obtain rfl := eq_of_handle_eq hdistinct hpast horiginal hname
  have honce : original ∉ acquired between (asked.acquire g queue) := by
    have hnodup : (acquired (before ++ .acquire g queue :: between) start).Nodup :=
      .of_map LockHandle.handle (map_handle_acquired _ start ▸ hdistinct)
    rw [hacquired] at hnodup
    exact (List.nodup_cons.1 (List.nodup_append.1 hnodup).2.1).1
  have hline : original ∈ (asked.acquire g queue).line := by
    rw [line_acquire]
    exact List.mem_append_right _ List.mem_cons_self
  rw [hrun] at hfirst
  have hknown : (run between (asked.acquire g queue)).lock? queue = some original.lock :=
    lock?_run (lock?_acquire_self asked g queue) hline hkept honce hfirst
  have hafter : (run (before ++ .acquire g queue :: between ++ [.acquire h queue]) start).line =
      (run between (asked.acquire g queue)).line ++ [⟨h, queue, original.lock⟩] := by
    rw [run_append, hrun, ← lockFor_eq hknown ⟨original, hfirst, rfl⟩]
    exact line_acquire _ h queue
  rw [hafter]
  exact ⟨original.lock, List.mem_append_left _ hfirst,
    List.mem_append_right _ List.mem_cons_self⟩

/-- Whoever asked for a lock before the handle that holds it has left the line. -/
theorem not_mem_line (hstart : start.Coherent []) (hdistinct : (acquired steps start).Nodup)
    (hsub : [g, h].Sublist (acquired steps start)) (hlock : g.lock = h.lock)
    (hheld : h ∈ (run steps start).held) : g ∉ (run steps start).line := by
  intro hline
  obtain ⟨_, before, after, heq, hbefore⟩ := List.find?_eq_some_iff_append.1 (mem_held.1 hheld)
  have hpast : (run steps start).line.Sublist (acquired steps start) := (hstart.run steps).line
  rw [heq] at hline hpast
  rcases List.mem_append.1 hline with hg | hg
  · simpa [hlock] using hbefore g hg
  · have hbehind : (h :: after).Sublist (acquired steps start) :=
      (List.sublist_append_right before _).trans hpast
    rcases List.mem_cons.1 hg with rfl | hg
    · exact (List.nodup_cons.1 (hdistinct.sublist hsub)).1 List.mem_cons_self
    · exact not_sublist_swap hdistinct hsub
        (((List.singleton_sublist.2 hg).cons_cons h).trans hbehind)

end

/-- Whatever the capacity of a table and whatever steps are made from an empty one, the handles take
turns, if each is put in line at most once. -/
theorem locks_take_turns (capacity : Nat) (steps : List (LockStep Handle))
    (hdistinct : (steps.filterMap LockStep.newcomer?).Nodup) :
    (ofCapacity capacity).TakeTurns steps := by
  have hstart : (ofCapacity capacity : LockTable Handle).Coherent [] :=
    coherent_ofCapacity capacity
  have hcoherent := hstart.run steps
  rw [List.nil_append] at hcoherent
  have hnodup : (acquired steps (ofCapacity capacity)).Nodup :=
    .of_map LockHandle.handle (map_handle_acquired steps _ ▸ hdistinct)
  constructor
  case shared =>
    rintro before between after g h queue rfl hkept ⟨first, hname, hfirst⟩
    rw [List.filterMap_append] at hdistinct
    exact exists_shared hstart (List.nodup_append.1 hdistinct).1 hkept hname (mem_line.2 hfirst)
  case exclusive => exact nodup_held_locks _
  case behind =>
    intro h hwaits
    obtain ⟨g, hheld, hlock, hsub⟩ := exists_held_of_waiting hwaits
    have hpast := hsub.trans hcoherent.line
    refine ⟨g, hheld, hlock, ?_, hpast⟩
    exact hcoherent.queue_eq (hpast.subset List.mem_cons_self)
      (hpast.subset (List.mem_cons_of_mem g List.mem_cons_self)) hlock
  case inOrder =>
    intro g h hsub hlock hheld
    have hgone := not_mem_line hstart hnodup hsub hlock hheld
    obtain ⟨before, after, hsplit, hline⟩ :=
      exists_drop (.inr (hsub.subset List.mem_cons_self)) hgone
    exact ⟨before, after, hsplit, mem_line.1 hline⟩
  case apart => exact fun g hg h hh => hcoherent.queue_eq hg hh

/-- Steps on a table with room for one lock. Of three handles that ask for the first queue one gives
up waiting; the second queue is asked for meanwhile, and the lock of the first is forgotten while it
is held. -/
def crowdedSteps : List (LockStep Nat) :=
  [.acquire 1 ⟨1⟩, .acquire 2 ⟨1⟩, .acquire 3 ⟨2⟩, .acquire 4 ⟨1⟩, .drop 2, .drop 1, .evict ⟨1⟩,
    .acquire 5 ⟨1⟩, .acquire 6 ⟨1⟩]

/-- These handles take turns: two hold a lock of the first queue, and one waits for the later. -/
theorem locks_take_turns_crowded :
    (ofCapacity 1).TakeTurns crowdedSteps ∧
      (run crowdedSteps (ofCapacity 1)).held.map LockHandle.handle = [3, 4, 5] ∧
      (run crowdedSteps (ofCapacity 1)).waiting.map LockHandle.handle = [6] :=
  ⟨locks_take_turns 1 crowdedSteps (by decide), by decide, by decide⟩

end LockTable

end WorkQueue
