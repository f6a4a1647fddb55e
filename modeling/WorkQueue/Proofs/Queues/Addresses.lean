import WorkQueue.Proofs.Store.Numbers

/-!
# Which queue a call means

A reference means the queue with its number or with its name, or none, and why it means none is the
error of every call that is made with it. What is meant depends on the queues alone. Finding,
deleting and counting out a queue by a reference is to do so with the queue that is meant.
-/

namespace WorkQueue

namespace Store

/-- The queue at an address. -/
def queueAt? (store : Store) : QueueAddress → Option Queue
  | .number id => store.queue? id
  | .named name => store.queueNamed? name

/-- The queue that a reference means, or why it means none. -/
def meant (store : Store) (ref : QueueRef) : Except Error Queue := do
  let address ← QueueAddress.ofRef ref
  match store.queueAt? address with
  | some queue => .ok queue
  | none => .error (.notFound address.display)

/-- The messages of a queue, counted by state. -/
def statsOf (store : Store) (queue : QueueId) : QueueStats :=
  (store.messageStats queue).foldl (fun stats (state, n) => stats.record state n) {}

/-- Each state is counted out by itself: that states without messages are left out makes no
difference. -/
theorem get_statsOf (store : Store) (queue : QueueId) (state : MessageState) :
    (store.statsOf queue).get state = store.countMessages queue (some state) := by
  have hzero (stats : QueueStats) (state : MessageState) : stats.record state 0 = stats := by
    cases state <;> rfl
  have hskip (stats : QueueStats) (row : MessageState × Nat) :
      (if decide (row.2 ≠ 0) = true then stats.record row.1 row.2 else stats) =
        stats.record row.1 row.2 := by
    by_cases hrow : row.2 = 0
    · simp [hrow, hzero]
    · simp [hrow]
  rw [statsOf, messageStats, List.foldl_filter]
  simp only [hskip]
  cases state <;> simp [statesByWord, QueueStats.record, QueueStats.get]

variable {store : Store} {ref : QueueRef} {queue : Queue}

/-- A reference writes no address, or an address where no queue is, or one where a queue is. -/
theorem meant_cases (store : Store) (ref : QueueRef) :
    (∃ error, QueueAddress.ofRef ref = .error error ∧ store.meant ref = .error error) ∨
      (∃ address, QueueAddress.ofRef ref = .ok address ∧ store.queueAt? address = none ∧
        store.meant ref = .error (.notFound address.display)) ∨
      ∃ address queue, QueueAddress.ofRef ref = .ok address ∧
        store.queueAt? address = some queue ∧ store.meant ref = .ok queue := by
  unfold meant
  cases haddress : QueueAddress.ofRef ref with
  | error error => exact .inl ⟨error, rfl, rfl⟩
  | ok address =>
      cases hfind : store.queueAt? address with
      | none => exact .inr (.inl ⟨address, rfl, hfind, by simp [bind, Except.bind, hfind]⟩)
      | some queue =>
          exact .inr (.inr ⟨address, queue, rfl, hfind, by simp [bind, Except.bind, hfind]⟩)

/-- A reference means the queue at the address that it writes. -/
theorem meant_eq_ok_iff : store.meant ref = .ok queue ↔
    ∃ address, QueueAddress.ofRef ref = .ok address ∧ store.queueAt? address = some queue := by
  rcases store.meant_cases ref with ⟨error, haddress, hmeant⟩ |
    ⟨address, haddress, hfind, hmeant⟩ | ⟨address, found, haddress, hfind, hmeant⟩
  · simp [hmeant, haddress]
  · simp [hmeant, haddress, hfind]
  · simp [hmeant, haddress, hfind]

/-- The queue at an address is there. -/
theorem mem_of_queueAt? {address : QueueAddress} (h : store.queueAt? address = some queue) :
    queue ∈ store.queues := by
  cases address <;> exact List.mem_of_find?_eq_some h

/-- The queue that is meant is there. -/
theorem mem_of_meant (h : store.meant ref = .ok queue) : queue ∈ store.queues := by
  obtain ⟨_, _, hfind⟩ := meant_eq_ok_iff.1 h
  exact mem_of_queueAt? hfind

/-- What a reference means depends on the queues alone. -/
theorem meant_congr {other : Store} (h : other.queues = store.queues) :
    other.meant ref = store.meant ref := by
  have hat (address : QueueAddress) : other.queueAt? address = store.queueAt? address := by
    cases address <;> simp only [queueAt?, queue?, queueNamed?, h]
  simp only [meant, hat]

/-- The number of a queue means the queue. -/
theorem Numbered.meant_byId (h : store.Numbered) (hqueue : queue ∈ store.queues) :
    store.meant (.byId queue.id) = .ok queue := by
  refine meant_eq_ok_iff.2 ⟨.number queue.id, rfl, ?_⟩
  show store.queue? queue.id = some queue
  cases hfind : store.queue? queue.id with
  | none => exact absurd (List.find?_eq_none.1 hfind queue hqueue) (by simp)
  | some found =>
      obtain ⟨hfound, hid⟩ := queue?_eq_some hfind
      exact congrArg some (h.queues.eq_of_number_eq hfound hqueue (congrArg QueueId.value hid))

/-- A number that no queue has means nothing. -/
theorem meant_byId_of_none {id : QueueId} (h : ∀ queue ∈ store.queues, queue.id ≠ id) :
    store.meant (.byId id) = .error (.notFound id.display) := by
  have hnone : store.queue? id = none :=
    List.find?_eq_none.2 fun queue hqueue => by simpa using h queue hqueue
  simp [meant, QueueAddress.ofRef, queueAt?, hnone, bind, Except.bind, QueueAddress.display]

end Store

namespace Work

variable {store : Store} {address : QueueAddress} {queue : Queue}

/-- The queue at an address is found if it is there. -/
theorem run_findQueue_of_some (h : store.queueAt? address = some queue) :
    (findQueue address).run store = .ok (queue, store) := by
  rw [findQueue, run_get_bind]
  cases address <;> simp only [Store.queueAt?] at h <;> simp only [h] <;> rfl

/-- There is an error where no queue is. -/
theorem run_findQueue_of_none (h : store.queueAt? address = none) :
    (findQueue address).run store = .error (.notFound address.display) := by
  rw [findQueue, run_get_bind]
  cases address <;> simp only [Store.queueAt?] at h <;> simp only [h] <;> rfl

end Work

/-- Deleting the queue that is meant, if there is one. -/
def Change.dropMeant : Except Error Queue → Change
  | .ok queue => .dropQueue queue.id
  | .error _ => .nothing

namespace Broker

variable {broker : Broker} {ref other : QueueRef} {queue : Queue} {α : Type}

/-- Work that begins by finding a queue is work on the queue that is meant. -/
theorem run_findQueue_bind (work : Queue → Work α) (hmeant : broker.store.meant ref = .ok queue) :
    (check (QueueAddress.ofRef ref) >>= fun address =>
      inStorage (Work.findQueue address >>= work)).run broker =
        (inStorage (work queue)).run broker := by
  obtain ⟨address, haddress, hfind⟩ := Store.meant_eq_ok_iff.1 hmeant
  have hwork : (Work.findQueue address >>= work).run broker.store = (work queue).run broker.store :=
    Work.run_bind_of_ok (Work.run_findQueue_of_some hfind)
  rw [run_bind_of_ok (run_check_of_ok haddress)]
  simp only [inStorage, ExceptT.run_mk, Work.finish, hwork]

/-- Work that begins by finding a queue says why none is meant, and leaves the store as it was. -/
theorem run_findQueue_bind_of_error (work : Queue → Work α) {error : Error}
    (hbegin : broker.outages.hitsNext = false) (hmeant : broker.store.meant ref = .error error) :
    ∃ after, (check (QueueAddress.ofRef ref) >>= fun address =>
      inStorage (Work.findQueue address >>= work)).run broker = (.error error, after) ∧
        after.store = broker.store ∧
        (after.outages = broker.outages ∨ after.outages = broker.outages.pass) := by
  rcases broker.store.meant_cases ref with ⟨why, haddress, hwhy⟩ |
    ⟨address, haddress, hfind, hwhy⟩ | ⟨address, queue, _, _, hfound⟩
  · cases hwhy.symm.trans hmeant
    exact ⟨broker, run_bind_of_error (run_check_of_error haddress), rfl, .inl rfl⟩
  · cases hwhy.symm.trans hmeant
    have hwork : (Work.findQueue address >>= work).run broker.store =
        .error (.notFound address.display) :=
      Work.run_bind_of_error (Work.run_findQueue_of_none hfind)
    rw [run_bind_of_ok (run_check_of_ok haddress), run_inStorage_of_error hbegin hwork]
    exact ⟨broker.begun, rfl, rfl, .inr rfl⟩
  · cases hfound.symm.trans hmeant

/-- Work that begins by finding a queue is the same for two references that mean one queue. -/
theorem run_findQueue_bind_congr (work : Queue → Work α)
    (hmeant : broker.store.meant ref = .ok queue) (hother : broker.store.meant other = .ok queue) :
    (check (QueueAddress.ofRef ref) >>= fun address =>
      inStorage (Work.findQueue address >>= work)).run broker =
        (check (QueueAddress.ofRef other) >>= fun address =>
          inStorage (Work.findQueue address >>= work)).run broker :=
  (run_findQueue_bind work hmeant).trans (run_findQueue_bind work hother).symm

/-- Two references that mean one queue count out the same. -/
theorem run_stats_congr (hmeant : broker.store.meant ref = .ok queue)
    (hother : broker.store.meant other = .ok queue) :
    (stats ref).run broker = (stats other).run broker :=
  run_findQueue_bind_congr _ hmeant hother

/-- Two references that mean one queue delete the same. -/
theorem run_deleteQueue_congr (hmeant : broker.store.meant ref = .ok queue)
    (hother : broker.store.meant other = .ok queue) :
    (deleteQueue ref).run broker = (deleteQueue other).run broker := by
  have hdrop : (dropQueue ref).run broker = (dropQueue other).run broker :=
    run_findQueue_bind_congr _ hmeant hother
  rw [deleteQueue_eq, deleteQueue_eq]
  exact run_bind_congr hdrop

/-- The queue that is meant is found. -/
theorem run_findQueue_of_meant (hbegin : broker.outages.hitsNext = false)
    (hmeant : broker.store.meant ref = .ok queue) :
    (findQueue ref).run broker = (.ok queue, broker.begun) := by
  have hrun := run_findQueue_bind pure hmeant
  simp only [bind_pure] at hrun
  rw [findQueue, hrun, run_inStorage_of_ok hbegin rfl]
  rfl

/-- Finding a queue answers which one is meant, and leaves the store as it was. -/
theorem findQueue_meant (ref : QueueRef) (hbegin : broker.outages.hitsNext = false) :
    (Move.findQueue ref).answer broker = broker.store.meant ref ∧
      ((Move.findQueue ref).after broker).store = broker.store := by
  rw [Move.answer, Move.after, Move.call]
  cases hmeant : broker.store.meant ref with
  | error error =>
      obtain ⟨after, hrun, hstore, _⟩ := run_findQueue_bind_of_error pure hbegin hmeant
      simp only [bind_pure] at hrun
      rw [findQueue, hrun]
      exact ⟨rfl, hstore⟩
  | ok queue =>
      rw [run_findQueue_of_meant hbegin hmeant]
      exact ⟨rfl, rfl⟩

/-- Counting out a queue counts out the one that is meant, and leaves the store as it was. -/
theorem stats_meant (ref : QueueRef) (hbegin : broker.outages.hitsNext = false) :
    (Move.stats ref).answer broker =
        (broker.store.meant ref).map (fun queue => broker.store.statsOf queue.id) ∧
      ((Move.stats ref).after broker).store = broker.store := by
  rw [Move.answer, Move.after, Move.call]
  cases hmeant : broker.store.meant ref with
  | error error =>
      obtain ⟨after, hrun, hstore, _⟩ := run_findQueue_bind_of_error _ hbegin hmeant
      rw [show (stats ref).run broker = (.error error, after) from hrun]
      exact ⟨rfl, hstore⟩
  | ok queue =>
      have hrun : (stats ref).run broker =
          (.ok (broker.store.statsOf queue.id), broker.begun) :=
        (run_findQueue_bind _ hmeant).trans (run_inStorage_of_ok hbegin rfl)
      rw [hrun]
      exact ⟨rfl, rfl⟩

/-- Deleting a queue deletes the one that is meant with its messages, and answers how many these
were. -/
theorem deleteQueue_meant (ref : QueueRef) (hbegin : broker.outages.hitsNext = false) :
    (Move.deleteQueue ref).answer broker =
        (broker.store.meant ref).map
          (fun queue => broker.store.messages.countP fun m => m.queue = queue.id) ∧
      ((Move.deleteQueue ref).after broker).store =
        (Change.dropMeant (broker.store.meant ref)).apply broker.store ∧
      (((Move.deleteQueue ref).after broker).outages = broker.outages ∨
        ((Move.deleteQueue ref).after broker).outages = broker.outages.pass) := by
  rw [Move.answer, Move.after, Move.call, deleteQueue_eq]
  cases hmeant : broker.store.meant ref with
  | error error =>
      obtain ⟨after, hrun, hstore, houtages⟩ := run_findQueue_bind_of_error _ hbegin hmeant
      have hdrop : (dropQueue ref).run broker = (.error error, after) := hrun
      rw [run_bind_of_error hdrop, Change.dropMeant, Change.apply_nothing]
      exact ⟨rfl, hstore, houtages⟩
  | ok queue =>
      obtain ⟨address, haddress, hfind⟩ := Store.meant_eq_ok_iff.1 hmeant
      have hwork := Work.run_deleteQueue_of_found (Store.mem_of_queueAt? hfind)
        (Work.run_findQueue_of_some hfind)
      have hdrop : (dropQueue ref).run broker = _ :=
        (run_bind_of_ok (run_check_of_ok haddress)).trans (run_inStorage_of_ok hbegin hwork)
      rw [run_bind_of_ok hdrop]
      exact ⟨rfl, rfl, .inr rfl⟩

end Broker

end WorkQueue
