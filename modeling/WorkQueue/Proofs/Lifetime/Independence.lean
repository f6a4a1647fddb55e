import WorkQueue.Proofs.Queues.Addresses
import WorkQueue.Proofs.Run.Clock

/-!
# Ending transactions in any order

Clients end transactions by committing them or rolling them back. What that comes to is seen from
the row of the transaction, and it changes that row and the messages that the transaction holds, and
nothing else. So two transactions that are ended one after the other can be ended in either order,
and a queue can be deleted before or after: `endings_commute`.
-/

namespace WorkQueue

namespace Change

variable {first second : Change} {store : Store}

/-- Does the change touch at most the row of the transaction and what it holds, ending it if it is
active? -/
inductive Ends (id : TransactionId) : Change → Prop where
  | nothing : Ends id .nothing
  | commit (now : Instant) : Ends id (.commit id now)
  | undo (target : TransactionState) (reason : String) (now : Instant) :
      Ends id (.undo id target reason now)

/-- A change that neither adds rows nor looks at the store goes through rows one by one. -/
structure RowWise (change : Change) : Prop where
  newQueues : ∀ store, change.newQueues store = []
  newTransactions : ∀ store, change.newTransactions store = []
  newMessages : ∀ store, change.newMessages store = []
  messageAfter : ∀ store, change.messageAfter store = change.messageAfter {}

/-- What a change does that goes through rows one by one. -/
theorem RowWise.apply_eq (h : first.RowWise) (store : Store) :
    first.apply store =
      { store with
        queues := store.queues.filter first.keepsQueue
        transactions := store.transactions.map first.transactionAfter
        messages := store.messages.filterMap (first.messageAfter {}) } := by
  simp [apply, h.newQueues, h.newTransactions, h.newMessages, h.messageAfter store]

/-- Two such changes can be made in either order if they can on each row. -/
theorem RowWise.apply_comm (hfirst : first.RowWise) (hsecond : second.RowWise)
    (htransaction : ∀ t, second.transactionAfter (first.transactionAfter t) =
      first.transactionAfter (second.transactionAfter t))
    (hmessage : ∀ m, (first.messageAfter {} m).bind (second.messageAfter {}) =
      (second.messageAfter {} m).bind (first.messageAfter {})) (store : Store) :
    second.apply (first.apply store) = first.apply (second.apply store) := by
  rw [hfirst.apply_eq, hsecond.apply_eq, hfirst.apply_eq, hsecond.apply_eq]
  have hqueues : (store.queues.filter first.keepsQueue).filter second.keepsQueue =
      (store.queues.filter second.keepsQueue).filter first.keepsQueue := by
    rw [List.filter_filter, List.filter_filter]
    exact List.filter_congr fun queue _ => Bool.and_comm _ _
  simp only [hqueues, List.map_map, List.filterMap_filterMap, funext hmessage,
    Function.comp_def, htransaction]

/-- A dropped queue goes, and its messages go, row by row. -/
theorem rowWise_dropQueue (id : QueueId) : (dropQueue id).RowWise :=
  ⟨fun _ => rfl, fun _ => rfl, fun _ => rfl, fun _ => rfl⟩

namespace Ends

variable {id other : TransactionId} {change : Change} (h : Ends id change)
include h

/-- Ending a transaction goes through rows one by one. -/
theorem rowWise : change.RowWise := by
  cases h <;> exact ⟨fun _ => rfl, fun _ => rfl, fun _ => rfl, fun _ => rfl⟩

/-- All queues stay. -/
theorem queues_apply (store : Store) : (change.apply store).queues = store.queues := by
  rw [h.rowWise.apply_eq]
  refine List.filter_eq_self.2 fun queue _ => ?_
  cases h <;> rfl

/-- The rows of other transactions stay. -/
theorem transactionAfter_of_ne {t : Transaction} (hne : t.id ≠ id) :
    change.transactionAfter t = t := by
  cases h <;> simp [transactionAfter, hne]

/-- Messages that the transaction does not hold stay. -/
theorem messageAfter_of_ne {m : Message} (hne : m.owner ≠ some id) :
    change.messageAfter {} m = some m := by
  have hheld (action : TransactionAction) : m.isHeldBy id action = false := by
    simp [Message.isHeldBy, hne]
  cases h <;> simp [messageAfter, hheld]

/-- A message that is left is in no one's hands, or in those that it was in. -/
theorem owner_messageAfter {m kept : Message} (hkept : change.messageAfter {} m = some kept) :
    kept.owner = m.owner ∨ kept.owner = none := by
  cases h with
  | nothing => cases hkept; exact .inl rfl
  | commit now =>
      simp only [messageAfter] at hkept
      split at hkept
      · cases hkept; exact .inr rfl
      · split at hkept <;> cases hkept
        · exact .inr rfl
        · exact .inl rfl
  | undo target reason now =>
      simp only [messageAfter] at hkept
      split at hkept
      · cases hkept
      · split at hkept <;> cases hkept
        · exact .inr (m.owner_giveBack now)
        · exact .inl rfl

/-- A transaction with another number is found as it was. -/
theorem transaction?_apply (hne : other ≠ id) (store : Store) :
    (change.apply store).transaction? other = store.transaction? other := by
  rw [h.rowWise.apply_eq, Store.transaction?, Store.transaction?, List.find?_map]
  have hsame : ((fun t : Transaction => decide (t.id = other)) ∘ change.transactionAfter) =
      fun t => decide (t.id = other) := by
    funext t
    rw [Function.comp_apply, id_transactionAfter]
  rw [hsame]
  cases hfind : store.transactions.find? fun t => t.id = other with
  | none => rfl
  | some t =>
      have hid : t.id = other := by simpa using List.find?_some hfind
      exact congrArg some (h.transactionAfter_of_ne (hid.trans_ne hne))

/-- Messages that another transaction holds are held by it as before. -/
theorem countP_apply (hne : other ≠ id) (action : TransactionAction) (also : Message → Bool)
    (store : Store) :
    (change.apply store).messages.countP (fun m => m.isHeldBy other action && also m) =
      store.messages.countP fun m => m.isHeldBy other action && also m := by
  rw [h.rowWise.apply_eq, List.countP_filterMap]
  refine List.countP_congr fun m _ => ?_
  by_cases howner : m.owner = some id
  · -- Such a message is not held by the other, and neither is what becomes of it.
    have hnot : m.isHeldBy other action = false := by
      simp [Message.isHeldBy, howner, hne.symm]
    rw [hnot]
    cases hkept : change.messageAfter {} m with
    | none => rfl
    | some kept =>
        have hgone : kept.owner ≠ some other := by
          rcases h.owner_messageAfter hkept with hsame | hnone
          · simp [hsame, howner, hne.symm]
          · simp [hnone]
        simp [Message.isHeldBy, hgone]
  · rw [h.messageAfter_of_ne howner]
    rfl

end Ends

/-- Two transactions can be ended in either order. -/
theorem Ends.apply_comm {id other : TransactionId} (hfirst : Ends id first)
    (hsecond : Ends other second) (hne : id ≠ other) (store : Store) :
    second.apply (first.apply store) = first.apply (second.apply store) := by
  refine hfirst.rowWise.apply_comm hsecond.rowWise (fun t => ?_) (fun m => ?_) store
  · by_cases hid : t.id = id
    · have hother : t.id ≠ other := hid.trans_ne hne
      have hafter : (first.transactionAfter t).id ≠ other := by
        rwa [id_transactionAfter]
      rw [hsecond.transactionAfter_of_ne hother, hsecond.transactionAfter_of_ne hafter]
    · have hafter : (second.transactionAfter t).id ≠ id := by
        rwa [id_transactionAfter]
      rw [hfirst.transactionAfter_of_ne hid, hfirst.transactionAfter_of_ne hafter]
  · -- Of a message that one of them does not hold, only the other makes something else, and that
    -- is not held by the one either.
    have hspared {one : Change} {owner : TransactionId} (h : Ends owner one) {m kept : Message}
        {two : Change} {taker : TransactionId} (htwo : Ends taker two)
        (howner : m.owner ≠ some owner)
        (hkept : two.messageAfter {} m = some kept) : one.messageAfter {} kept = some kept := by
      refine h.messageAfter_of_ne ?_
      rcases htwo.owner_messageAfter hkept with hsame | hnone
      · rwa [hsame]
      · simp [hnone]
    by_cases howner : m.owner = some id
    · have hother : m.owner ≠ some other := by simp [howner, hne]
      rw [hsecond.messageAfter_of_ne hother, Option.bind_some]
      cases hkept : first.messageAfter {} m with
      | none => rfl
      | some kept => exact hspared hsecond hfirst hother hkept
    · rw [hfirst.messageAfter_of_ne howner, Option.bind_some]
      cases hkept : second.messageAfter {} m with
      | none => rfl
      | some kept => exact (hspared hfirst hsecond howner hkept).symm

/-- A transaction can be ended before a queue is dropped or after. -/
theorem Ends.apply_comm_dropQueue {id : TransactionId} (h : Ends id first) (queue : QueueId)
    (store : Store) :
    (dropQueue queue).apply (first.apply store) = first.apply ((dropQueue queue).apply store) := by
  refine h.rowWise.apply_comm (rowWise_dropQueue queue) (fun t => rfl) (fun m => ?_) store
  have hdrop (m : Message) : (dropQueue queue).messageAfter {} m =
      if m.queue = queue then none else some m := rfl
  rw [hdrop m]
  cases hkept : first.messageAfter {} m with
  | none => split <;> simp [hkept]
  | some kept =>
      have hqueue := Message.queue_eq_of_content (content_messageAfter hkept)
      rw [Option.bind_some, hdrop kept, hqueue]
      split <;> simp [hkept]

end Change

/-- Why work may not be done under the transaction that was looked for, unless it may. -/
def admission (id : TransactionId) (now : Instant) : Option Transaction → Except Error Unit
  | none => .error (.notFound id.display)
  | some t =>
      match t.state with
      | .active => if t.isExpiredAt now then .error (.expired id) else .ok ()
      | .expired => .error (.expired id)
      | .committed | .rolledBack => .error (.closed id)

namespace Store

variable {store : Store} {id : TransactionId} {now : Instant}

/-- Work may be done under an open transaction. -/
theorem admission_of_open (h : store.IsOpen id now) :
    admission id now (store.transaction? id) = .ok () := by
  obtain ⟨t, hfind, hstate, hopen⟩ := h
  simp [admission, hfind, hstate, hopen]

/-- A transaction that has lapsed has expired. -/
theorem admission_of_lapsed (h : store.HasLapsed id now) :
    admission id now (store.transaction? id) = .error (.expired id) := by
  obtain ⟨t, hfind, hstate, hlapsed⟩ := h
  simp [admission, hfind, hstate, hlapsed]

/-- Otherwise work is refused. -/
theorem admission_of_refused (hopen : ¬ store.IsOpen id now) (hlapsed : ¬ store.HasLapsed id now) :
    admission id now (store.transaction? id) = .error (store.refusal id) := by
  rw [refusal]
  cases hfind : store.transaction? id with
  | none => rfl
  | some t =>
      cases hstate : t.state with
      | active =>
          cases hexpired : t.isExpiredAt now with
          | false => exact absurd ⟨t, hfind, hstate, hexpired⟩ hopen
          | true => exact absurd ⟨t, hfind, hstate, hexpired⟩ hlapsed
      | committed | rolledBack | expired => simp [admission, hstate]

end Store

/-- How a client ends a transaction. -/
inductive Ending where
  | commit
  | rollback (reason : String)
  deriving DecidableEq, Repr

namespace Ending

open Broker

variable {store : Store} {broker : Broker} {id other : TransactionId} {now : Instant}

/-- The move that ends the transaction. -/
def move (id : TransactionId) : Ending → Move
  | commit => .commit id
  | rollback reason => .rollback id reason

/-- The work by which a transaction is ended. -/
def work (id : TransactionId) (now : Instant) : (ending : Ending) → Work (ending.move id).Answer
  | commit => Work.commit id now
  | rollback reason => Work.unwind id .rolledBack reason now

/-- What ending an open transaction answers. -/
def summary (id : TransactionId) (store : Store) : (ending : Ending) → (ending.move id).Answer
  | commit => ⟨store.messages.countP fun m => m.isHeldBy id .add,
      store.messages.countP fun m => m.isHeldBy id .pull⟩
  | rollback _ => store.unwound fun action m => m.isHeldBy id action

/-- What ending an open transaction changes. -/
def change (id : TransactionId) (now : Instant) : Ending → Change
  | commit => .commit id now
  | rollback reason => .undo id .rolledBack reason now

/-- What ending a transaction changes, as is seen from its row: one that has lapsed is undone, and
for one that is over or not there nothing is done. -/
def changeOf (ending : Ending) (id : TransactionId) (now : Instant) : Option Transaction → Change
  | none => .nothing
  | some t =>
      if t.state = .active then
        if t.isExpiredAt now then .undo id .expired expiredReason now else ending.change id now
      else .nothing

/-- Only the transaction is ended. -/
theorem ends_changeOf (ending : Ending) (id : TransactionId) (now : Instant)
    (found : Option Transaction) :
    Change.Ends id (ending.changeOf id now found) := by
  unfold changeOf
  split
  · exact .nothing
  · split
    · split
      · exact .undo ..
      · cases ending with
        | commit => exact .commit now
        | rollback reason => exact .undo ..
    · exact .nothing

/-- An open transaction is ended. -/
theorem run_work (ending : Ending) (h : store.IsOpen id now) :
    (ending.work id now).run store =
      .ok (ending.summary id store, (ending.change id now).apply store) := by
  cases ending with
  | commit => exact Work.run_commit h
  | rollback reason => exact Work.run_unwind _ _ _ h.exists_active

/-- Ending a transaction is work under it, and then entries in the journal. -/
theorem call_eq (ending : Ending) (id : TransactionId) :
    ∃ entries : (ending.move id).Answer → List Entry, (ending.move id).call =
      (Broker.now >>= fun now => under id now (ending.work id now) >>= fun answer =>
        (note (entries answer) : Call Unit) >>= fun _ => pure answer) := by
  cases ending <;> exact ⟨_, rfl⟩

/-- Ending an open transaction ends it. -/
theorem changeOf_of_open (ending : Ending) (h : store.IsOpen id now) :
    ending.changeOf id now (store.transaction? id) = ending.change id now := by
  obtain ⟨t, hfind, hstate, hopen⟩ := h
  simp [changeOf, hfind, hstate, hopen]

/-- Ending a transaction that has lapsed undoes it. -/
theorem changeOf_of_lapsed (ending : Ending) (h : store.HasLapsed id now) :
    ending.changeOf id now (store.transaction? id) = .undo id .expired expiredReason now := by
  obtain ⟨t, hfind, hstate, hlapsed⟩ := h
  simp [changeOf, hfind, hstate, hlapsed]

/-- Ending any other transaction changes nothing. -/
theorem changeOf_of_refused (ending : Ending) (hopen : ¬ store.IsOpen id now)
    (hlapsed : ¬ store.HasLapsed id now) :
    ending.changeOf id now (store.transaction? id) = .nothing := by
  cases hfind : store.transaction? id with
  | none => rfl
  | some t =>
      by_cases hstate : t.state = .active
      · cases hexpired : t.isExpiredAt now with
        | false => exact absurd ⟨t, hfind, hstate, hexpired⟩ hopen
        | true => exact absurd ⟨t, hfind, hstate, hexpired⟩ hlapsed
      · simp [changeOf, hstate]

/-- What ending a transaction answers and changes is seen from its row. -/
theorem outcome (ending : Ending) (id : TransactionId)
    (hbegin : broker.outages.hitsNext = false) :
    (ending.move id).answer broker =
        (admission id broker.clock (broker.store.transaction? id)).map
          (fun _ => ending.summary id broker.store) ∧
      ((ending.move id).after broker).store =
        (ending.changeOf id broker.clock (broker.store.transaction? id)).apply broker.store ∧
      ((ending.move id).after broker).outages = broker.outages.pass := by
  obtain ⟨entries, hcall⟩ := ending.call_eq id
  rw [Move.answer, Move.after, hcall, run_now_bind]
  by_cases hopen : broker.store.IsOpen id broker.clock
  · rw [Store.admission_of_open hopen, ending.changeOf_of_open hopen,
      run_bind_of_ok (run_under_of_ok hbegin hopen (ending.run_work hopen))]
    exact ⟨rfl, rfl, rfl⟩
  · by_cases hlapsed : broker.store.HasLapsed id broker.clock
    · rw [Store.admission_of_lapsed hlapsed, ending.changeOf_of_lapsed hlapsed,
        run_bind_of_error (run_under_of_lapsed hbegin hlapsed)]
      exact ⟨rfl, rfl, rfl⟩
    · have hrefused := Work.run_under_of_refused (ending.work id broker.clock) hopen hlapsed
      have hrun : (under id broker.clock (ending.work id broker.clock)).run broker =
          (.error (broker.store.refusal id), broker.begun) :=
        run_bind_of_error (run_inStorage_of_error hbegin hrefused)
      rw [Store.admission_of_refused hopen hlapsed, ending.changeOf_of_refused hopen hlapsed,
        Change.apply_nothing, run_bind_of_error hrun]
      exact ⟨rfl, rfl, rfl⟩

/-- The move that ends a transaction leaves the clock. -/
theorem clock_after (ending : Ending) (id : TransactionId) (broker : Broker) :
    ((ending.move id).after broker).clock = broker.clock := by
  rw [Move.clock_after]
  cases ending <;> rfl

/-- What ending an open transaction answers depends on what the transaction holds. -/
theorem summary_congr (ending : Ending) {store other : Store}
    (h : ∀ (action : TransactionAction) (also : Message → Bool),
      other.messages.countP (fun m => m.isHeldBy id action && also m) =
        store.messages.countP fun m => m.isHeldBy id action && also m) :
    ending.summary id other = ending.summary id store := by
  have hall (action : TransactionAction) :
      (other.messages.countP fun m => m.isHeldBy id action) =
        store.messages.countP fun m => m.isHeldBy id action := by
    simpa using h action fun _ => true
  cases ending with
  | commit => rw [summary, summary, hall, hall]
  | rollback reason =>
      simp only [summary, Store.unwound, hall, h]
      rfl

variable {first second : TransactionId}

/-- Without outages there are none after a transaction has been ended. -/
theorem outages_after (ending : Ending) (hclean : broker.outages = {}) :
    ((ending.move id).after broker).outages = {} := by
  rw [(ending.outcome id (begins_of_calm hclean)).2.2]
  exact pass_of_calm hclean

/-- Ending a transaction answers the same after another has been ended. -/
theorem answer_after (ending other : Ending) (hclean : broker.outages = {}) (hne : first ≠ second) :
    (ending.move first).answer ((other.move second).after broker) =
      (ending.move first).answer broker := by
  have hbegin : broker.outages.hitsNext = false := begins_of_calm hclean
  have hbegin' : ((other.move second).after broker).outages.hitsNext = false :=
    begins_of_calm (other.outages_after hclean)
  have hends := other.ends_changeOf second broker.clock
    (broker.store.transaction? second)
  have hholds := ending.summary_congr fun action also =>
    hends.countP_apply hne action also broker.store
  rw [(ending.outcome first hbegin').1, (ending.outcome first hbegin).1, other.clock_after,
    (other.outcome second hbegin).2.1, hends.transaction?_apply hne, hholds]

/-- Two transactions that are ended one after the other leave the same store in either order. -/
theorem store_after (ending other : Ending) (hclean : broker.outages = {}) (hne : first ≠ second) :
    ((other.move second).after ((ending.move first).after broker)).store =
      ((ending.move first).after ((other.move second).after broker)).store := by
  have hbegin : broker.outages.hitsNext = false := begins_of_calm hclean
  have hfirst : ((ending.move first).after broker).outages.hitsNext = false :=
    begins_of_calm (ending.outages_after hclean)
  have hsecond : ((other.move second).after broker).outages.hitsNext = false :=
    begins_of_calm (other.outages_after hclean)
  have hends := ending.ends_changeOf first broker.clock
    (broker.store.transaction? first)
  have hotherEnds := other.ends_changeOf second broker.clock
    (broker.store.transaction? second)
  -- Each finds the row of its transaction as it would have found it first, and so makes the same
  -- change.
  rw [(other.outcome second hfirst).2.1, (ending.outcome first hsecond).2.1, ending.clock_after,
    other.clock_after, (ending.outcome first hbegin).2.1, (other.outcome second hbegin).2.1,
    hends.transaction?_apply hne.symm, hotherEnds.transaction?_apply hne]
  exact hends.apply_comm hotherEnds hne broker.store

/-- Ending a transaction leaves the queues that references mean. -/
theorem meant_after (ending : Ending) (id : TransactionId) (ref : QueueRef)
    (hbegin : broker.outages.hitsNext = false) :
    ((ending.move id).after broker).store.meant ref = broker.store.meant ref := by
  rw [(ending.outcome id hbegin).2.1]
  exact Store.meant_congr ((ending.ends_changeOf _ _ _).queues_apply broker.store)

end Ending

namespace Broker

variable {broker : Broker} {id : TransactionId} {ref : QueueRef}

/-- Without outages there are none after a queue has been deleted. -/
theorem outages_after_deleteQueue (ref : QueueRef) (hclean : broker.outages = {}) :
    ((Move.deleteQueue ref).after broker).outages = {} := by
  obtain ⟨_, _, hsame | hpass⟩ := deleteQueue_meant ref (begins_of_calm hclean)
  · exact hsame.trans hclean
  · exact hpass.trans (pass_of_calm hclean)

/-- Deleting a queue leaves the rows of transactions. -/
theorem transaction?_after_deleteQueue (ref : QueueRef) (hbegin : broker.outages.hitsNext = false)
    (id : TransactionId) :
    ((Move.deleteQueue ref).after broker).store.transaction? id = broker.store.transaction? id := by
  rw [(deleteQueue_meant ref hbegin).2.1]
  cases hmeant : broker.store.meant ref with
  | error error => rw [Change.dropMeant, Change.apply_nothing]
  | ok queue =>
      rw [Change.dropMeant, (Change.rowWise_dropQueue queue.id).apply_eq, Store.transaction?]
      have hsame : (Change.dropQueue queue.id).transactionAfter = fun t => t := rfl
      rw [hsame, List.map_id', Store.transaction?]

/-- A transaction that is ended before a queue is deleted or after leaves the same store. -/
theorem store_after_deleteQueue (ending : Ending) (id : TransactionId) (ref : QueueRef)
    (hclean : broker.outages = {}) :
    ((Move.deleteQueue ref).after ((ending.move id).after broker)).store =
      ((ending.move id).after ((Move.deleteQueue ref).after broker)).store := by
  have hbegin : broker.outages.hitsNext = false := begins_of_calm hclean
  have hended : ((ending.move id).after broker).outages.hitsNext = false :=
    begins_of_calm (ending.outages_after hclean)
  have hdeleted : ((Move.deleteQueue ref).after broker).outages.hitsNext = false :=
    begins_of_calm (outages_after_deleteQueue ref hclean)
  have hclock : ((Move.deleteQueue ref).after broker).clock = broker.clock := Move.clock_after _ _
  rw [(deleteQueue_meant ref hended).2.1, ending.meant_after id ref hbegin,
    (ending.outcome id hbegin).2.1, (ending.outcome id hdeleted).2.1, hclock,
    transaction?_after_deleteQueue ref hbegin, (deleteQueue_meant ref hbegin).2.1]
  cases broker.store.meant ref with
  | error error => rw [Change.dropMeant, Change.apply_nothing, Change.apply_nothing]
  | ok queue => exact (ending.ends_changeOf _ _ _).apply_comm_dropQueue queue.id broker.store

/-- Two endings of different transactions, at one instant and without outages, leave the same store
in either order, and each answers the same in either order. A queue that is deleted before a
transaction is ended, or after, leaves the same store as well; the transaction is ended or refused
with the same error, and the queue is deleted or not found with the same error. -/
theorem endings_commute (broker : Broker) (ending : Ending) (id : TransactionId) :
    let found := { broker with outages := {} }
    let finish := ending.move id
    (∀ (other : Ending) (second : TransactionId), id ≠ second →
      ((other.move second).after (finish.after found)).store =
          (finish.after ((other.move second).after found)).store ∧
        finish.answer ((other.move second).after found) = finish.answer found ∧
        (other.move second).answer (finish.after found) = (other.move second).answer found) ∧
      ∀ ref : QueueRef,
        ((Move.deleteQueue ref).after (finish.after found)).store =
            (finish.after ((Move.deleteQueue ref).after found)).store ∧
          (finish.answer ((Move.deleteQueue ref).after found)).map (fun _ => ()) =
            (finish.answer found).map (fun _ => ()) ∧
          ((Move.deleteQueue ref).answer (finish.after found)).map (fun _ => ()) =
            ((Move.deleteQueue ref).answer found).map (fun _ => ()) := by
  intro found finish
  have hclean : found.outages = {} := rfl
  have hbegin : found.outages.hitsNext = false := rfl
  generalize found = found at hclean hbegin ⊢
  refine ⟨fun other second hne => ?_, fun ref => ?_⟩
  · exact ⟨ending.store_after other hclean hne, ending.answer_after other hclean hne,
      other.answer_after ending hclean hne.symm⟩
  · have hended : (finish.after found).outages.hitsNext = false :=
      begins_of_calm (ending.outages_after hclean)
    have hdeleted : ((Move.deleteQueue ref).after found).outages.hitsNext = false :=
      begins_of_calm (outages_after_deleteQueue ref hclean)
    have hclock : ((Move.deleteQueue ref).after found).clock = found.clock := Move.clock_after _ _
    have hunit {α β : Type} (result : Except Error α) (f : α → β) :
        (result.map f).map (fun _ => ()) = result.map fun _ => () := by
      cases result <;> rfl
    refine ⟨store_after_deleteQueue ending id ref hclean, ?_, ?_⟩
    · rw [(ending.outcome id hdeleted).1, (ending.outcome id hbegin).1, hclock,
        transaction?_after_deleteQueue ref hbegin, hunit, hunit]
    · rw [(deleteQueue_meant ref hended).1, (deleteQueue_meant ref hbegin).1,
        ending.meant_after id ref hbegin, hunit, hunit]

/-- A run that leaves, after a minute and a half, a transaction that has lapsed and has taken a
message, and an open one that has taken another for the last time and is adding a third. -/
def lapsedAndOpen : List Move :=
  [.createQueue "q", .start (.ofSeconds 60), .enqueue ⟨1⟩ ⟨1⟩ { payload := [] },
    .enqueue ⟨1⟩ ⟨1⟩ { payload := [], maxAttempts := 1 }, .commit ⟨1⟩, .start (.ofSeconds 60),
    .dequeue ⟨2⟩ ⟨1⟩, .start (.ofSeconds 120), .dequeue ⟨3⟩ ⟨1⟩,
    .enqueue ⟨3⟩ ⟨1⟩ { payload := [] }, .setClock ⟨90, 0⟩]

/-- The lapsed transaction is refused and the open one is rolled back, whichever comes first and
whether the queue is deleted before or after; only what is counted depends on that. -/
theorem endings_commute_lapsedAndOpen :
    let found := { play lapsedAndOpen { clock := ⟨0, 0⟩ } with outages := {} }
    let commit : Move := .commit ⟨2⟩
    let rollback : Move := .rollback ⟨3⟩ "late"
    let delete : Move := .deleteQueue (.byId ⟨1⟩)
    (commit.after (rollback.after found)).store = (rollback.after (commit.after found)).store ∧
      (Move.commit ⟨2⟩).answer (rollback.after found) = .error (.expired ⟨2⟩) ∧
      (Move.rollback ⟨3⟩ "late").answer (commit.after found) = .ok ⟨1, 0, 1⟩ ∧
      (delete.after (rollback.after found)).store = (rollback.after (delete.after found)).store ∧
      (Move.rollback ⟨3⟩ "late").answer (delete.after found) = .ok ⟨0, 0, 0⟩ := by
  intro found commit rollback delete
  obtain ⟨hother, hdelete⟩ :=
    endings_commute (play lapsedAndOpen { clock := ⟨0, 0⟩ }) (.rollback "late") ⟨3⟩
  exact ⟨(hother .commit ⟨2⟩ (by decide)).1, by decide +kernel, by decide +kernel,
    (hdelete (.byId ⟨1⟩)).1, by decide +kernel⟩

end Broker

end WorkQueue
