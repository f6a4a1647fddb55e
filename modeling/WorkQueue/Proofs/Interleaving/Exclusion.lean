import Mathlib.Data.List.Induction
import Mathlib.Data.List.Nodup
import WorkQueue.Proofs.Interleaving.Traffic

/-!
# When two calls hold the lock of one queue

The lock of a queue is forgotten when the queue has been deleted, and whoever asks for the queue
afterwards gets another. So two calls can hold locks of one queue at a time, but of a queue that has
been deleted: as long as it has not been, everybody in line for the queue is in line for the lock by
which the table knows it. Numbers of queues are not given out twice, so that the queue does not come
back, and neither of the calls takes a message any more: `two_holders_harmless`.
-/

namespace WorkQueue

/-- No message is taken from a queue that is not there. -/
theorem Broker.takeNext_of_none {broker : Broker} (owner : TransactionId) {queue : QueueId}
    (hnone : broker.store.queue? queue = none) :
    ∃ error, ((takeNext owner queue).run broker).1 = .error error := by
  rw [takeNext, run_now_bind]
  obtain ⟨error, after, hrun, _⟩ | ⟨after, _, hrun, _⟩ | ⟨_, answer, changed, hdone, _⟩ :=
    under_cases owner broker.clock (Work.dequeue owner queue broker.clock) broker
  · exact ⟨error, by rw [run_bind_of_error hrun]⟩
  · exact ⟨_, by rw [run_bind_of_error hrun]⟩
  · rw [Work.dequeue, Work.run_bind_of_error (Work.run_requireQueue_of_none hnone)] at hdone
    cases hdone

namespace Traffic

/-- The broker without rows, and nobody in line. -/
def fresh (broker : Broker) (capacity : Nat) : Traffic :=
  { broker := broker.emptied, locks := .ofCapacity capacity }

/-- Has one of the turns deleted the queue? -/
def HasDeleted (turns : List Turn) (start : Traffic) (queue : QueueId) : Prop :=
  ∃ before ref after row removed, turns = before ++ .delete ref :: after ∧ row.id = queue ∧
    ((Broker.dropQueue ref).run (run before start).broker).1 = .ok (row, removed)

variable {traffic start : Traffic} {turns : List Turn} {queue : QueueId}

/-- A queue that has been deleted has been deleted when more turns are made. -/
theorem HasDeleted.append (h : HasDeleted turns start queue) (more : List Turn) :
    HasDeleted (turns ++ more) start queue := by
  obtain ⟨before, ref, after, row, removed, rfl, hid, hrun⟩ := h
  exact ⟨before, ref, after ++ more, row, removed, by simp, hid, hrun⟩

/-- A queue that has been deleted is lost. -/
theorem HasDeleted.hasLost (hsound : start.broker.store.Sound) (h : HasDeleted turns start queue) :
    (run turns start).broker.store.HasLost queue := by
  obtain ⟨before, ref, after, row, removed, rfl, rfl, hok⟩ := h
  have hbefore : (run before start).broker.store.Sound :=
    run_store Store.Sound (fun _ _ hallowed h => Change.sound_apply hallowed h) before hsound
  have hdropped : ((run before start).delete ref).broker.store.HasLost row.id := by
    rcases Broker.dropQueue_cases ref (run before start).broker with
      ⟨_, _, hrun, _⟩ | ⟨_, broker, hallowed, hrun, hstore⟩
    · rw [hrun] at hok
      cases hok
    · rw [hrun] at hok
      cases hok
      have hdeleted : ((run before start).delete ref).broker = broker := by rw [delete, hrun]
      rw [hdeleted, hstore]
      exact hbefore.numbered.hasLost_dropQueue hallowed
  rw [run_append]
  exact run_store (·.HasLost row.id) (fun change _ _ h => h.apply change) after hdropped

/-! ## Who is in line -/

/-- The calls in line are numbered as they came, and those in line for a queue that has not been
deleted are in line for the lock by which the table knows it. -/
structure Guarded (traffic : Traffic) (deleted : QueueId → Prop) : Prop where
  below : ∀ h ∈ traffic.locks.line, h.handle.number < traffic.calls
  distinct : (traffic.locks.line.map LockHandle.handle).Nodup
  known : ∀ h ∈ traffic.locks.line,
    traffic.locks.lock? h.queue = some h.lock ∨ deleted h.queue
  gone : ∀ given ∈ traffic.deleted, deleted given.1.id

namespace Guarded

variable {deleted deleted' : QueueId → Prop}

/-- What is so for some deleted queues is so for more. -/
theorem mono (h : traffic.Guarded deleted) (hmore : ∀ queue, deleted queue → deleted' queue) :
    traffic.Guarded deleted' :=
  ⟨h.below, h.distinct, fun g hg => (h.known g hg).imp_right (hmore _),
    fun given hgiven => hmore _ (h.gone given hgiven)⟩

/-- Nobody is in line in the beginning. -/
theorem ofCapacity (broker : Broker) (capacity : Nat) :
    Guarded { broker, locks := .ofCapacity capacity } deleted :=
  ⟨fun _ hmem => absurd hmem List.not_mem_nil, List.nodup_nil,
    fun _ hmem => absurd hmem List.not_mem_nil, fun _ hmem => absurd hmem List.not_mem_nil⟩

/-- A new call stands last in line, for the lock by which the table then knows the queue. -/
theorem ask (h : traffic.Guarded deleted) (owner : TransactionId) (queue : QueueId) :
    (traffic.ask owner queue).Guarded deleted := by
  have hline : (traffic.ask owner queue).locks.line = traffic.locks.line ++
      [⟨⟨traffic.calls, owner⟩, queue, traffic.locks.lockFor queue⟩] :=
    LockTable.line_acquire _ _ queue
  refine ⟨fun g hg => ?_, ?_, fun g hg => ?_, h.gone⟩
  · rw [hline] at hg
    rcases List.mem_append.1 hg with hold | hnew
    · exact Nat.lt_succ_of_lt (h.below g hold)
    · rw [List.mem_singleton.1 hnew]
      exact Nat.lt_succ_self traffic.calls
  · rw [hline, List.map_append, List.nodup_append]
    refine ⟨h.distinct, List.pairwise_singleton _ _, fun taker htaker other hother hsame => ?_⟩
    obtain ⟨g, hg, rfl⟩ := List.mem_map.1 htaker
    have hnumber := h.below g hg
    rw [hsame, List.mem_singleton.1 hother] at hnumber
    exact Nat.lt_irrefl _ hnumber
  · rw [hline] at hg
    rcases List.mem_append.1 hg with hold | hnew
    · exact (h.known g hold).imp_left fun hknown =>
        LockTable.lock?_acquire _ queue hknown ⟨g, hold, rfl⟩
    · rw [List.mem_singleton.1 hnew]
      exact .inl (LockTable.lock?_acquire_self _ _ queue)

/-- Every turn leaves the line so, if what it deletes is counted as deleted. -/
theorem after {turn : Turn} {next : Traffic} (h : traffic.Guarded deleted)
    (hturn : TurnsTo traffic turn next)
    (hdeletes : ∀ ref row removed, turn = .delete ref →
      ((Broker.dropQueue ref).run traffic.broker).1 = .ok (row, removed) → deleted row.id) :
    next.Guarded deleted := by
  cases hturn with
  | nothing | took | refused | made => exact ⟨h.below, h.distinct, h.known, h.gone⟩
  | asked owner queue => exact h.ask owner queue
  | left taker =>
      have hsub : (traffic.leave taker).locks.line.Sublist traffic.locks.line :=
        List.filter_sublist
      exact ⟨fun g hg => h.below g (hsub.subset hg), h.distinct.sublist (hsub.map _),
        fun g hg => h.known g (hsub.subset hg), h.gone⟩
  | deleted ref row removed broker hrun =>
      refine ⟨h.below, h.distinct, h.known, fun given hgiven => ?_⟩
      rcases List.mem_append.1 hgiven with hold | hnew
      · exact h.gone given hold
      · rw [List.mem_singleton.1 hnew]
        exact hdeletes ref row removed rfl (by rw [hrun])
  | evicted row removed broker hmem =>
      refine ⟨h.below, h.distinct, fun g hg => ?_, fun given hgiven => ?_⟩
      · -- The lock that is forgotten is that of a queue which has been deleted.
        by_cases hsame : g.queue = row.id
        · exact .inr (hsame ▸ h.gone _ hmem)
        · exact (h.known g hg).imp_left fun hknown => LockTable.lock?_evict hknown hsame
      · exact h.gone given (List.mem_of_mem_erase hgiven)

end Guarded

/-- All traffic leaves the line so. -/
theorem guarded_run (hstart : start.Guarded fun _ => False) (turns : List Turn) :
    (run turns start).Guarded (HasDeleted turns start) := by
  induction turns using List.reverseRecOn with
  | nil => exact hstart.mono fun _ => False.elim
  | append_singleton turns turn ih =>
      rw [run_append]
      refine (ih.mono fun queue h => h.append [turn]).after (turnsTo _ turn) ?_
      rintro ref row removed rfl hrun
      exact ⟨turns, ref, [], row, removed, rfl, rfl, hrun⟩

/-- Two calls that hold locks of one queue hold locks of a queue that has been deleted. -/
theorem Guarded.deleted_of_two {deleted : QueueId → Prop} (h : traffic.Guarded deleted)
    {g other : LockHandle Taker} (hg : g ∈ traffic.locks.held) (hother : other ∈ traffic.locks.held)
    (hdifferent : g.handle ≠ other.handle) (hqueue : g.queue = other.queue) : deleted g.queue := by
  rcases h.known g (LockTable.mem_line.2 (.inl hg)) with hknown | hdeleted
  · rcases h.known other (LockTable.mem_line.2 (.inl hother)) with hknown' | hdeleted
    · -- Both would be the first in line for the one lock of the queue.
      rw [hqueue, hknown', Option.some.injEq] at hknown
      have hfirst := LockTable.mem_held.1 hother
      rw [hknown, LockTable.mem_held.1 hg, Option.some.injEq] at hfirst
      exact absurd (congrArg LockHandle.handle hfirst) hdifferent
    · exact hqueue ▸ hdeleted
  · exact hdeleted

/-- Whoever is in line after a turn was in line before it, or has asked in it. -/
theorem TurnsTo.mem_line {turn : Turn} {next : Traffic} (hturn : TurnsTo traffic turn next)
    {h : LockHandle Taker} (hmem : h ∈ next.locks.line) :
    h ∈ traffic.locks.line ∨ traffic.calls ≤ h.handle.number := by
  cases hturn with
  | nothing | took | refused | deleted | evicted | made => exact .inl hmem
  | left taker => exact .inl (List.mem_filter.1 hmem).1
  | asked owner queue =>
      rw [ask, LockTable.line_acquire] at hmem
      rcases List.mem_append.1 hmem with hold | hnew
      · exact .inl hold
      · rw [List.mem_singleton.1 hnew]
        exact .inr (Nat.le_refl _)

/-- Calls are numbered upwards. -/
theorem TurnsTo.calls_le {turn : Turn} {next : Traffic} (hturn : TurnsTo traffic turn next) :
    traffic.calls ≤ next.calls := by
  cases hturn with
  | asked => exact Nat.le_succ _
  | _ => exact Nat.le_refl _

/-- Whoever is in line after some turns was in line before them, or has asked later. -/
theorem mem_line_run {later : List Turn} {h : LockHandle Taker}
    (hmem : h ∈ (run later traffic).locks.line) :
    h ∈ traffic.locks.line ∨ traffic.calls ≤ h.handle.number := by
  induction later generalizing traffic with
  | nil => exact .inl hmem
  | cons turn rest ih =>
      have hturn := turnsTo traffic turn
      rcases ih hmem with hline | hlater
      · exact hturn.mem_line hline
      · exact .inr (Nat.le_trans hturn.calls_le hlater)

/-- A call in line stays in the line of its queue, if it stays at all. -/
theorem Guarded.eq_of_handle_eq {deleted : QueueId → Prop} (h : traffic.Guarded deleted)
    {later : List Turn} {g other : LockHandle Taker} (hg : g ∈ traffic.locks.line)
    (hother : other ∈ (run later traffic).locks.line) (hsame : other.handle = g.handle) :
    other = g := by
  rcases mem_line_run hother with hmem | hlater
  · exact List.inj_on_of_nodup_map h.distinct hmem hg hsame
  · have hbelow := h.below g hg
    rw [hsame] at hlater
    omega

/-- A call whose queue is not there whenever it is in line takes no message any more. -/
theorem mem_answers_of_absent {taker : Taker} {message : Message} {later : List Turn}
    (habsent : ∀ more, ∀ h ∈ (run more traffic).locks.line, h.handle = taker →
      (run more traffic).broker.store.queue? h.queue = none)
    (hmem : (taker, .ok (some message)) ∈ (run later traffic).answers) :
    (taker, .ok (some message)) ∈ traffic.answers := by
  induction later generalizing traffic with
  | nil => exact hmem
  | cons turn rest ih =>
      have hnext := ih (fun more => habsent (turn :: more)) hmem
      have hnow := habsent []
      have hturn := turnsTo traffic turn
      generalize traffic.after turn = next at hnext hturn
      cases hturn with
      | nothing | asked | left | refused | deleted | evicted | made => exact hnext
      | took h answer broker hheld hnew hrun =>
          rcases List.mem_append.1 hnext with hold | hlast
          · exact hold
          · cases List.mem_singleton.1 hlast
            have hnone := hnow h (LockTable.mem_line.2 (.inl hheld)) rfl
            obtain ⟨error, herror⟩ := Broker.takeNext_of_none h.handle.owner hnone
            rw [run, hrun] at herror
            cases herror

/-- From an empty store, whatever turns calls take in whatever order: if two calls hold locks of one
queue at a time, then a call has deleted the queue before; from then on the queue is not there, and
neither of the two takes a message after the time at which both hold a lock. -/
theorem two_holders_harmless (broker : Broker) (capacity : Nat) (turns : List Turn)
    (g h : LockHandle Taker) (hg : g ∈ (run turns (fresh broker capacity)).locks.held)
    (hh : h ∈ (run turns (fresh broker capacity)).locks.held) (hdifferent : g.handle ≠ h.handle)
    (hqueue : g.queue = h.queue) :
    HasDeleted turns (fresh broker capacity) g.queue ∧
      ∀ later, (run (turns ++ later) (fresh broker capacity)).broker.store.queue? g.queue = none ∧
        ∀ taker message, taker = g.handle ∨ taker = h.handle →
          (taker, .ok (some message)) ∈ (run (turns ++ later) (fresh broker capacity)).answers →
          (taker, .ok (some message)) ∈ (run turns (fresh broker capacity)).answers := by
  have hguarded := guarded_run (.ofCapacity broker.emptied capacity) turns
  have hdeleted := hguarded.deleted_of_two hg hh hdifferent hqueue
  have habsent (later : List Turn) :
      (run (turns ++ later) (fresh broker capacity)).broker.store.queue? g.queue = none :=
    ((hdeleted.append later).hasLost Store.sound_empty).2
  refine ⟨hdeleted, fun later => ⟨habsent later, fun taker message htaker hmem => ?_⟩⟩
  rw [run_append] at hmem
  refine mem_answers_of_absent (fun more other hother hsame => ?_) hmem
  rw [← run_append]
  rcases htaker with rfl | rfl
  · rw [hguarded.eq_of_handle_eq (LockTable.mem_line.2 (.inl hg)) hother hsame]
    exact habsent more
  · rw [hguarded.eq_of_handle_eq (LockTable.mem_line.2 (.inl hh)) hother hsame, ← hqueue]
    exact habsent more

/-- Two calls ask for a queue with a message; one of them takes it. The queue is deleted and its
lock forgotten while the call still holds that lock, and a third call asks. -/
def deletionMeanwhile : List Turn :=
  [.other (.createQueue "q"), .other (.start (.ofSeconds 60)),
    .other (.enqueue ⟨1⟩ ⟨1⟩ { payload := [] }), .other (.commit ⟨1⟩),
    .other (.start (.ofSeconds 60)), .ask ⟨2⟩ ⟨1⟩, .ask ⟨2⟩ ⟨1⟩, .take ⟨0, ⟨2⟩⟩,
    .delete (.byName "q"), .evict ⟨1⟩, .ask ⟨2⟩ ⟨1⟩]

/-- Two calls hold locks of the deleted queue then, and the queue is not there any more. -/
theorem two_holders_harmless_deletionMeanwhile :
    let traffic := run deletionMeanwhile (fresh { clock := ⟨0, 0⟩ } 4)
    traffic.answers.map Prod.fst = [⟨0, ⟨2⟩⟩] ∧
      traffic.locks.held = [⟨⟨0, ⟨2⟩⟩, ⟨1⟩, 0⟩, ⟨⟨2, ⟨2⟩⟩, ⟨1⟩, 1⟩] ∧
      HasDeleted deletionMeanwhile (fresh { clock := ⟨0, 0⟩ } 4) ⟨1⟩ ∧
      ∀ later, (run (deletionMeanwhile ++ later) (fresh { clock := ⟨0, 0⟩ } 4)).broker.store.queue?
        ⟨1⟩ = none := by
  obtain ⟨hdeleted, hafter⟩ := two_holders_harmless { clock := ⟨0, 0⟩ } 4 deletionMeanwhile
    ⟨⟨0, ⟨2⟩⟩, ⟨1⟩, 0⟩ ⟨⟨2, ⟨2⟩⟩, ⟨1⟩, 1⟩ (by decide +kernel) (by decide +kernel)
    (by decide) rfl
  exact ⟨by decide +kernel, by decide +kernel, hdeleted, fun later => (hafter later).1⟩

end Traffic

end WorkQueue
