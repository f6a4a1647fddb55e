import WorkQueue.Proofs.Run.Changes
import Mathlib.Data.List.Basic

/-!
# The effects of pieces of work

For each piece of work that changes the store, what it answers and which change it makes when it is
done. The counts that are answered are counts of rows before the change.
-/

namespace WorkQueue

/-- The first of some messages is one of them. -/
theorem firstMessage_mem {messages : List Message} {m : Message}
    (h : firstMessage messages = some m) : m ∈ messages := by
  induction messages with
  | nil => cases h
  | cons first rest ih =>
      simp only [firstMessage] at h
      split at h
      · cases h
        exact List.mem_cons_self
      · next hrest =>
          split at h
          · cases h
            exact List.mem_cons_of_mem _ (ih hrest)
          · cases h
            exact List.mem_cons_self

namespace Message

/-- Nobody holds a message that was moved out of its transaction's hands. -/
@[simp]
theorem isHeldBy_moveTo (m : Message) (target : MessageState) (now : Instant)
    (owner : TransactionId) (action : TransactionAction) :
    (m.moveTo target now).isHeldBy owner action = false := by
  simp [isHeldBy, moveTo]

/-- Nobody holds a message that was given back for the last time. -/
@[simp]
theorem isHeldBy_exhaust (m : Message) (now : Instant) (owner : TransactionId)
    (action : TransactionAction) : (m.exhaust now).isHeldBy owner action = false := by
  simp [isHeldBy, exhaust]

/-- A message that a transaction adds is not one that it has taken. -/
theorem not_pull_of_isHeldBy_add {m : Message} {owner other : TransactionId}
    (h : m.isHeldBy owner .add = true) : m.isHeldBy other .pull = false := by
  simp only [isHeldBy, Bool.and_eq_true, decide_eq_true_eq] at h
  simp [isHeldBy, h.1.2]

/-- An expired transaction does not hold a message that was given back for the last time. -/
@[simp]
theorem isOrphan_exhaust (store : Store) (action : TransactionAction) (m : Message)
    (now : Instant) : store.isOrphan action (m.exhaust now) = false := by
  simp [Store.isOrphan, exhaust]

end Message

namespace Store

variable {store : Store} {id : TransactionId} {now : Instant}

/-- A queue that is found is there, and has the number. -/
theorem queue?_eq_some {queue : QueueId} {found : Queue} (h : store.queue? queue = some found) :
    found ∈ store.queues ∧ found.id = queue :=
  ⟨List.mem_of_find?_eq_some h, by simpa using List.find?_some h⟩

/-- A transaction that is found is there, and has the number. -/
theorem transaction?_eq_some {t : Transaction} (h : store.transaction? id = some t) :
    t ∈ store.transactions ∧ t.id = id :=
  ⟨List.mem_of_find?_eq_some h, by simpa using List.find?_some h⟩

/-- A message that is found is there, and has the number. -/
theorem message?_eq_some {message : MessageId} {m : Message}
    (h : store.message? message = some m) : m ∈ store.messages ∧ m.id = message :=
  ⟨List.mem_of_find?_eq_some h, by simpa using List.find?_some h⟩

/-- An open transaction is there and active. -/
theorem IsOpen.exists_active (h : store.IsOpen id now) :
    ∃ t ∈ store.transactions, t.id = id ∧ t.isActive = true := by
  obtain ⟨t, hfind, hstate, _⟩ := h
  obtain ⟨ht, hid⟩ := transaction?_eq_some hfind
  exact ⟨t, ht, hid, by simp [Transaction.isActive, hstate]⟩

/-- A lapsed transaction is there and active. -/
theorem HasLapsed.exists_active (h : store.HasLapsed id now) :
    ∃ t ∈ store.transactions, t.id = id ∧ t.isActive = true := by
  obtain ⟨t, hfind, hstate, _⟩ := h
  obtain ⟨ht, hid⟩ := transaction?_eq_some hfind
  exact ⟨t, ht, hid, by simp [Transaction.isActive, hstate]⟩

/-- An open transaction has not lapsed. -/
theorem IsOpen.not_hasLapsed (h : store.IsOpen id now) : ¬ store.HasLapsed id now := by
  rintro ⟨lapsed, hfound, _, hpast⟩
  obtain ⟨t, hfind, _, hopen⟩ := h
  cases hfound.symm.trans hfind
  cases hopen.symm.trans hpast

/-- An active transaction can be closed, which changes its row only. -/
theorem closeTransaction_of_active {target : TransactionState} {reason : String}
    (h : ∃ t ∈ store.transactions, t.id = id ∧ t.isActive = true) :
    store.closeTransaction id target now reason =
      (true, { store with transactions := store.transactions.map fun t =>
        if t.id = id && t.isActive then t.close target now reason else t }) := by
  obtain ⟨t, ht, hid, hactive⟩ := h
  have hcount : 0 < store.transactions.countP fun t => t.id = id && t.isActive :=
    List.countP_pos_iff.2 ⟨t, ht, by simp [hid, hactive]⟩
  have hrows := bne_iff_ne.2 (Nat.ne_of_gt hcount)
  simp only [closeTransaction, updateTransactions, hrows]

/-- The expiry of an active transaction can be changed. -/
theorem setTransactionExpiry_of_active {expiry : Instant}
    (h : ∃ t ∈ store.transactions, t.id = id ∧ t.isActive = true) :
    store.setTransactionExpiry id expiry =
      (true, { store with transactions := store.transactions.map fun t =>
        if t.id = id && t.isActive then { t with expiryTime := expiry } else t }) := by
  obtain ⟨t, ht, hid, hactive⟩ := h
  have hcount : 0 < store.transactions.countP fun t => t.id = id && t.isActive :=
    List.countP_pos_iff.2 ⟨t, ht, by simp [hid, hactive]⟩
  have hrows := bne_iff_ne.2 (Nat.ne_of_gt hcount)
  simp only [setTransactionExpiry, updateTransactions, hrows]

/-- The message that would be taken next is there, and eligible. -/
theorem nextMessage?_eq_some {m : Message} {queue : QueueId}
    (h : store.nextMessage? queue now = some m) :
    m ∈ store.messages ∧ m.isEligible queue now = true :=
  List.mem_filter.1 (firstMessage_mem h)

/-- Messages are given back in two statements, each with the effect of `Message.giveBack` on its
share of them: the second does not see the rows that the first has closed. -/
theorem giveBack_eq (selected : Message → Bool) (now : Instant) (store : Store)
    (h : ∀ m : Message, selected (m.exhaust now) = false) :
    store.giveBack selected now =
      (⟨store.messages.countP fun m => selected m && !m.isLastAttempt,
        store.messages.countP fun m => selected m && m.isLastAttempt⟩,
        { store with
          messages := store.messages.map fun m => if selected m then m.giveBack now else m }) := by
  -- The second statement counts what is still selected after the first: the rows that it has not
  -- closed.
  have hcount : (fun m : Message => selected (if (selected m && m.isLastAttempt) = true then
      m.exhaust now else m)) = fun m => selected m && !m.isLastAttempt := by
    funext m
    cases hs : selected m <;> cases hl : m.isLastAttempt <;> simp [hs, h]
  simp only [giveBack, updateMessages, List.countP_map, List.map_map, Function.comp_def, hcount]
  congr 2
  refine List.map_congr_left fun m _ => ?_
  cases hs : selected m <;> cases hl : m.isLastAttempt <;> simp [hs, hl, h, Message.giveBack]

end Store

/-- Changing every row of a list is keeping every row, changed. -/
theorem map_eq_filterMap {α β : Type} {rows : List α} {change : α → β} {after : α → Option β}
    (h : ∀ row, after row = some (change row)) : rows.map change = rows.filterMap after :=
  (List.filterMap_eq_map_iff_forall_eq_some.2 fun row _ => h row).symm

/-- Deleting rows and then changing the others is one look at each row. -/
theorem map_filter_eq_filterMap {α β : Type} {rows : List α} {keep : α → Bool} {change : α → β}
    {after : α → Option β} (h : ∀ row, after row = if keep row then some (change row) else none) :
    (rows.filter keep).map change = rows.filterMap after := by
  rw [← List.filterMap_eq_map, List.filterMap_filter]
  exact List.filterMap_congr fun row _ => (h row).symm

namespace Change

/-- What a change without new rows and lost queues does: it goes through the rows that are there. -/
theorem apply_of_no_new {change : Change} {store : Store}
    (hkeeps : ∀ queue, change.keepsQueue queue = true) (hqueues : change.newQueues store = [])
    (htransactions : change.newTransactions store = [])
    (hmessages : change.newMessages store = []) :
    change.apply store =
      { store with
        transactions := store.transactions.map change.transactionAfter
        messages := store.messages.filterMap (change.messageAfter store) } := by
  have hall : store.queues.filter change.keepsQueue = store.queues :=
    List.filter_eq_self.2 fun queue _ => hkeeps queue
  simp [apply, hall, hqueues, htransactions, hmessages]

/-- What a change that leaves all rows as they are does: it adds the new ones. -/
theorem apply_of_no_loss {change : Change} {store : Store}
    (hkeeps : ∀ queue, change.keepsQueue queue = true)
    (htransactions : ∀ t, change.transactionAfter t = t)
    (hmessages : ∀ m, change.messageAfter store m = some m) :
    change.apply store =
      { queues := store.queues ++ change.newQueues store
        transactions := store.transactions ++ change.newTransactions store
        messages := store.messages ++ change.newMessages store
        lastQueue := store.lastQueue + (change.newQueues store).length
        lastTransaction := store.lastTransaction + (change.newTransactions store).length
        lastMessage := store.lastMessage + (change.newMessages store).length } := by
  have hall : store.queues.filter change.keepsQueue = store.queues :=
    List.filter_eq_self.2 fun queue _ => hkeeps queue
  rw [apply, hall, funext htransactions, funext hmessages, List.map_id', List.filterMap_some]

/-- Without a change the store is as it was. -/
@[simp]
theorem apply_nothing (store : Store) : nothing.apply store = store := by
  rw [apply_of_no_new (fun _ => rfl) rfl rfl rfl]
  have hrows : nothing.transactionAfter = id := rfl
  have hkept : nothing.messageAfter store = some := rfl
  rw [hrows, hkept, List.map_id, List.filterMap_some]

/-- When a queue is dropped, the queue goes and its messages go. -/
theorem apply_dropQueue (id : QueueId) (store : Store) :
    (dropQueue id).apply store =
      { store with
        queues := store.queues.filter fun queue => queue.id ≠ id
        messages := store.messages.filter fun m => m.queue ≠ id } := by
  have hmessages : (store.messages.filter fun m => m.queue ≠ id) =
      store.messages.filterMap ((dropQueue id).messageAfter store) := by
    rw [← List.map_id' (List.filter _ _)]
    refine map_filter_eq_filterMap fun m => ?_
    by_cases hm : m.queue = id <;> simp [messageAfter, hm]
  have hkeeps : (dropQueue id).keepsQueue = fun queue => decide (queue.id ≠ id) := rfl
  have hsame : (dropQueue id).transactionAfter = fun t => t := rfl
  simp [apply, ← hmessages, hkeeps, hsame, newQueues, newTransactions, newMessages]

/-- When a message is taken, the row with its number is put in its taker's hands. -/
theorem apply_take (m : Message) (owner : TransactionId) (now : Instant) (store : Store) :
    (take m owner now).apply store =
      { store with
        messages := store.messages.map fun x => if x.id = m.id then x.take owner else x } := by
  have hmessages : (store.messages.map fun x => if x.id = m.id then x.take owner else x) =
      store.messages.filterMap ((take m owner now).messageAfter store) := by
    refine map_eq_filterMap fun x => ?_
    by_cases hx : x.id = m.id <;> simp [messageAfter, hx]
  rw [apply_of_no_new (fun _ => rfl) rfl rfl rfl, ← hmessages,
    List.map_id'' (f := (take m owner now).transactionAfter) fun _ => rfl]

end Change

namespace Work

variable {store : Store} {id : TransactionId} {now : Instant}

/-- Work that succeeds goes on with its answer and the store after it. -/
theorem run_bind_of_ok {α β : Type} {work : Work α} {next : α → Work β} {answer : α}
    {changed : Store} (h : work.run store = .ok (answer, changed)) :
    (work >>= next).run store = (next answer).run changed := by
  rw [StateT.run_bind, h]
  rfl

/-- Work that fails is all that is done. -/
theorem run_bind_of_error {α β : Type} {work : Work α} {next : α → Work β} {error : Error}
    (h : work.run store = .error error) : (work >>= next).run store = .error error := by
  rw [StateT.run_bind, h]
  rfl

/-- Work that changes the store as a function says answers what the function answers. -/
theorem run_modifyGet {α : Type} {f : Store → α × Store} {answer : α} {changed : Store}
    (h : f store = (answer, changed)) :
    (modifyGet f : Work α).run store = .ok (answer, changed) :=
  congrArg Except.ok h

/-- Closing an active transaction changes its row only. -/
theorem run_close {target : TransactionState} {reason : String}
    (h : ∃ t ∈ store.transactions, t.id = id ∧ t.isActive = true) :
    (close id target now reason).run store =
      .ok ((), { store with transactions := store.transactions.map fun t =>
        if t.id = id && t.isActive then t.close target now reason else t }) := by
  rw [close, run_bind_of_ok (run_modifyGet (Store.closeTransaction_of_active h))]
  rfl

/-- An open transaction can be extended. -/
theorem run_extend {expiry : Instant} (h : store.IsOpen id now) :
    (extend id expiry).run store = .ok ((), (Change.extend id now expiry).apply store) := by
  have hkept : (Change.extend id now expiry).messageAfter store = some := rfl
  rw [Change.apply_of_no_new (fun _ => rfl) rfl rfl rfl, hkept, List.filterMap_some, extend,
    run_bind_of_ok (run_modifyGet (Store.setTransactionExpiry_of_active h.exists_active))]
  rfl

/-- Messages can be moved out of a transaction's hands, though not into a transaction. -/
theorem run_transitionOwned {action : TransactionAction} {target : MessageState}
    (h : target ≠ .inTransaction) :
    (Store.transitionOwned id action target now).run store =
      .ok (store.messages.countP fun m => m.isHeldBy id action,
        { store with messages := store.messages.map fun m =>
          if m.isHeldBy id action then m.moveTo target now else m }) := by
  simp [Store.transitionOwned, Store.updateMessages, h]
  rfl

/-- An open transaction can be committed. -/
theorem run_commit (h : store.IsOpen id now) :
    (commit id now).run store =
      .ok (⟨store.messages.countP fun m => m.isHeldBy id .add,
        store.messages.countP fun m => m.isHeldBy id .pull⟩,
        (Change.commit id now).apply store) := by
  -- No message is held in both ways, so what was taken can be counted before the added messages
  -- are moved.
  have hpulled : (store.messages.map fun m =>
      if m.isHeldBy id .add then m.moveTo .active now else m).countP
        (fun m => m.isHeldBy id .pull) = store.messages.countP fun m => m.isHeldBy id .pull := by
    rw [List.countP_map]
    refine List.countP_congr fun m _ => ?_
    cases hadd : m.isHeldBy id .add
    · simp [hadd]
    · simp [hadd, m.not_pull_of_isHeldBy_add hadd]
  have hmessages : ((store.messages.map fun m =>
      if m.isHeldBy id .add then m.moveTo .active now else m).map fun m =>
      if m.isHeldBy id .pull then m.moveTo .processed now else m) =
      store.messages.filterMap ((Change.commit id now).messageAfter store) := by
    rw [List.map_map]
    refine map_eq_filterMap fun m => ?_
    cases hadd : m.isHeldBy id .add <;> cases hpull : m.isHeldBy id .pull <;>
      simp [Change.messageAfter, hadd, hpull]
  rw [Change.apply_of_no_new (fun _ => rfl) rfl rfl rfl, ← hmessages, ← hpulled]
  refine (run_bind_of_ok (run_transitionOwned (by decide))).trans ?_
  refine (run_bind_of_ok (run_transitionOwned (by decide))).trans ?_
  exact run_bind_of_ok (run_close (by exact h.exists_active))

/-- An active transaction can be undone. -/
theorem run_unwind (target : TransactionState) (reason : String) (now : Instant)
    (h : ∃ t ∈ store.transactions, t.id = id ∧ t.isActive = true) :
    (unwind id target reason now).run store =
      .ok (store.unwound fun action m => m.isHeldBy id action,
        (Change.undo id target reason now).apply store) := by
  have hmessages : ((store.messages.filter fun m => !m.isHeldBy id .add).map fun m =>
      if m.isHeldBy id .pull then m.giveBack now else m) =
      store.messages.filterMap ((Change.undo id target reason now).messageAfter store) := by
    refine map_filter_eq_filterMap fun m => ?_
    cases hadd : m.isHeldBy id .add <;> cases hpull : m.isHeldBy id .pull <;>
      simp [Change.messageAfter, hadd, hpull]
  -- The same goes for the added messages that are deleted before what was taken is given back.
  have hcount (p : Message → Bool) :
      (store.messages.filter fun m => !m.isHeldBy id .add).countP
        (fun m => m.isHeldBy id .pull && p m) =
      store.messages.countP fun m => m.isHeldBy id .pull && p m := by
    rw [List.countP_filter]
    refine List.countP_congr fun m _ => ?_
    cases hadd : m.isHeldBy id .add
    · simp
    · simp [m.not_pull_of_isHeldBy_add hadd]
  have hreturn := Store.giveBack_eq (fun m => m.isHeldBy id .pull) now
    { store with
      transactions := store.transactions.map (Change.undo id target reason now).transactionAfter
      messages := store.messages.filter fun m => !m.isHeldBy id .add }
    (fun m => m.isHeldBy_exhaust now id .pull)
  rw [hcount, hcount, hmessages] at hreturn
  rw [Change.apply_of_no_new (fun _ => rfl) rfl rfl rfl]
  refine (run_bind_of_ok (run_close h)).trans ?_
  refine (run_bind_of_ok (run_modifyGet (f := Store.discardOwned id .add) rfl)).trans ?_
  exact run_bind_of_ok (run_modifyGet hreturn)

/-- The next number is the one after the last, as long as there is one. -/
theorem run_nextNumber {last : Nat} (h : last + 1 < half64) :
    (nextNumber last).run store = .ok (last + 1, store) := by
  rw [nextNumber, if_pos h]
  rfl

/-- Without a further number nothing is done. -/
theorem run_nextNumber_of_last {last : Nat} (h : ¬ last + 1 < half64) :
    (nextNumber last).run store = .error (.storage .noNumbersLeft) := by
  rw [nextNumber, if_neg h]
  rfl

/-- Work that begins by looking at the store goes on with what it sees. -/
theorem run_get_bind {α : Type} {next : Store → Work α} :
    ((get : Work Store) >>= next).run store = (next store).run store :=
  rfl

/-- A queue is added when its name and a number are free. -/
theorem run_insertQueue_of_allowed {name : QueueName}
    (h : (Change.addQueue name).Allowed store) :
    (Store.insertQueue name).run store =
      .ok (⟨store.lastQueue + 1⟩, (Change.addQueue name).apply store) := by
  obtain ⟨hnamed, hnumber⟩ := h
  rw [Store.insertQueue, run_get_bind, hnamed, Change.apply_of_no_loss (fun _ => rfl)
    (fun _ => rfl) (fun _ => rfl)]
  refine (run_bind_of_ok (run_nextNumber hnumber)).trans ?_
  simp [Change.newQueues, Change.newTransactions, Change.newMessages]
  rfl

/-- A queue is added, or it is an error. -/
theorem run_insertQueue (name : QueueName) :
    (∃ error, (Store.insertQueue name).run store = .error error) ∨
      (Change.addQueue name).Allowed store ∧
        (Store.insertQueue name).run store =
          .ok (⟨store.lastQueue + 1⟩, (Change.addQueue name).apply store) := by
  cases hnamed : store.queueNamed? name with
  | some taken =>
      rw [Store.insertQueue, run_get_bind, hnamed]
      exact .inl ⟨_, rfl⟩
  | none =>
      by_cases hnumber : store.lastQueue + 1 < half64
      · exact .inr ⟨⟨hnamed, hnumber⟩, run_insertQueue_of_allowed ⟨hnamed, hnumber⟩⟩
      · rw [Store.insertQueue, run_get_bind, hnamed]
        exact .inl ⟨_, run_bind_of_error (run_nextNumber_of_last hnumber)⟩

/-- A transaction is added when a number is free. -/
theorem run_insertTransaction_of_allowed {expiry : Instant}
    (h : (Change.start now expiry).Allowed store) :
    (Store.insertTransaction now expiry).run store =
      .ok (⟨store.lastTransaction + 1⟩, (Change.start now expiry).apply store) := by
  rw [Store.insertTransaction, run_get_bind, Change.apply_of_no_loss (fun _ => rfl) (fun _ => rfl)
    (fun _ => rfl)]
  refine (run_bind_of_ok (run_nextNumber h)).trans ?_
  simp [Change.newQueues, Change.newTransactions, Change.newMessages]
  rfl

/-- A transaction is added, or it is an error. -/
theorem run_insertTransaction (expiry : Instant) :
    (∃ error, (Store.insertTransaction now expiry).run store = .error error) ∨
      (Change.start now expiry).Allowed store ∧
        (Store.insertTransaction now expiry).run store =
          .ok (⟨store.lastTransaction + 1⟩, (Change.start now expiry).apply store) := by
  by_cases hnumber : store.lastTransaction + 1 < half64
  · exact .inr ⟨hnumber, run_insertTransaction_of_allowed hnumber⟩
  · rw [Store.insertTransaction, run_get_bind]
    exact .inl ⟨_, run_bind_of_error (run_nextNumber_of_last hnumber)⟩

/-- A queue is found among those that are there, and finding it changes nothing. -/
theorem run_findQueue (store : Store) (address : QueueAddress) :
    (∃ error, (findQueue address).run store = .error error) ∨
      ∃ queue ∈ store.queues, (findQueue address).run store = .ok (queue, store) := by
  rw [findQueue, run_get_bind]
  cases address with
  | number id =>
      cases hfind : store.queue? id with
      | none => exact .inl ⟨_, by simp [hfind]; rfl⟩
      | some queue => exact .inr ⟨queue, List.mem_of_find?_eq_some hfind, by simp [hfind]; rfl⟩
  | named name =>
      cases hfind : store.queueNamed? name with
      | none => exact .inl ⟨_, by simp [hfind]; rfl⟩
      | some queue => exact .inr ⟨queue, List.mem_of_find?_eq_some hfind, by simp [hfind]; rfl⟩

/-- A queue that is there is found by its number. -/
theorem run_requireQueue {queue : QueueId} (h : (store.queue? queue).isSome) :
    (requireQueue queue).run store = .ok ((), store) := by
  obtain ⟨found, hfind⟩ := Option.isSome_iff_exists.1 h
  have hrun : (findQueue (.number queue)).run store = .ok (found, store) := by
    rw [findQueue, run_get_bind]
    simp [hfind]
    rfl
  exact run_bind_of_ok hrun

/-- A queue that is not there is an error. -/
theorem run_requireQueue_of_none {queue : QueueId} (h : store.queue? queue = none) :
    (requireQueue queue).run store = .error (.notFound queue.display) := by
  have hrun : (findQueue (.number queue)).run store = .error (.notFound queue.display) := by
    rw [findQueue, run_get_bind]
    simp [h]
    rfl
  exact run_bind_of_error hrun

/-- A queue that has been found is deleted with its messages, which are counted. -/
theorem run_deleteQueue_of_found {address : QueueAddress} {queue : Queue}
    (hqueue : queue ∈ store.queues) (hfind : (findQueue address).run store = .ok (queue, store)) :
    (deleteQueue address).run store =
      .ok ((queue, store.messages.countP fun m => m.queue = queue.id),
        (Change.dropQueue queue.id).apply store) := by
  have hsome : (store.queue? queue.id).isSome :=
    List.find?_isSome.2 ⟨queue, hqueue, by simp⟩
  have hrun : store.deleteQueue queue.id =
      (some (store.messages.countP fun m => m.queue = queue.id),
        (Change.dropQueue queue.id).apply store) := by
    simp [Store.deleteQueue, Store.removeMessages, hsome, Change.apply_dropQueue]
  exact (run_bind_of_ok hfind).trans (run_bind_of_ok (run_modifyGet hrun))

/-- A queue is deleted if it is found. -/
theorem run_deleteQueue (address : QueueAddress) :
    (∃ error, (deleteQueue address).run store = .error error) ∨
      ∃ queue, (Change.dropQueue queue.id).Allowed store ∧
        (deleteQueue address).run store =
          .ok ((queue, store.messages.countP fun m => m.queue = queue.id),
            (Change.dropQueue queue.id).apply store) := by
  rcases run_findQueue store address with ⟨error, herror⟩ | ⟨queue, hqueue, hfind⟩
  · exact .inl ⟨error, run_bind_of_error herror⟩
  · have hsome : (store.queue? queue.id).isSome :=
      List.find?_isSome.2 ⟨queue, hqueue, by simp⟩
    exact .inr ⟨queue, hsome, run_deleteQueue_of_found hqueue hfind⟩

/-- A message whose queue and transaction are there is added when a number is free. -/
theorem run_insertMessage {draft : MessageDraft} (hqueue : (store.queue? draft.queue).isSome)
    (howner : (store.transaction? draft.owner).isSome) :
    (Store.insertMessage draft).run store =
      (nextNumber store.lastMessage >>= fun number => do
        set { store with
          messages := store.messages ++ [draft.row ⟨number⟩], lastMessage := number }
        pure ⟨number⟩ : Work MessageId).run store := by
  rw [Store.insertMessage, run_get_bind]
  simp [Option.isSome_iff_ne_none.1 hqueue, Option.isSome_iff_ne_none.1 howner]

/-- Under an open transaction a message is added when its queue is there and a number is free. -/
theorem run_enqueue_of_allowed {draft : MessageDraft} (h : (Change.add draft).Allowed store) :
    (enqueue draft).run store =
      .ok (⟨store.lastMessage + 1⟩, (Change.add draft).apply store) := by
  obtain ⟨hqueue, ⟨t, howner, _⟩, _, hnumber⟩ := h
  rw [Change.apply_of_no_loss (fun _ => rfl) (fun _ => rfl) (fun _ => rfl), enqueue,
    run_bind_of_ok (run_requireQueue hqueue), run_insertMessage hqueue (by rw [howner]; rfl)]
  refine (run_bind_of_ok (run_nextNumber hnumber)).trans ?_
  simp [Change.newQueues, Change.newTransactions, Change.newMessages]
  rfl

/-- Under an open transaction a message is added, or it is an error. -/
theorem run_enqueue (draft : MessageDraft) (hopen : store.IsOpen draft.owner draft.addTime)
    (hattempts : 0 < draft.maxAttempts) :
    (∃ error, (enqueue draft).run store = .error error) ∨
      (Change.add draft).Allowed store ∧
        (enqueue draft).run store =
          .ok (⟨store.lastMessage + 1⟩, (Change.add draft).apply store) := by
  cases hqueue : store.queue? draft.queue with
  | none => exact .inl ⟨_, run_bind_of_error (run_requireQueue_of_none hqueue)⟩
  | some queue =>
      have hsome : (store.queue? draft.queue).isSome := by simp [hqueue]
      by_cases hnumber : store.lastMessage + 1 < half64
      · have hallowed : (Change.add draft).Allowed store := ⟨hsome, hopen, hattempts, hnumber⟩
        exact .inr ⟨hallowed, run_enqueue_of_allowed hallowed⟩
      · obtain ⟨t, howner, _⟩ := hopen
        rw [enqueue, run_bind_of_ok (run_requireQueue hsome),
          run_insertMessage hsome (by rw [howner]; rfl)]
        exact .inl ⟨_, run_bind_of_error (run_nextNumber_of_last hnumber)⟩

/-- From a queue that is there and has no next message none is taken. -/
theorem run_dequeue_of_none {queue : QueueId} (owner : TransactionId)
    (hqueue : (store.queue? queue).isSome) (hnext : store.nextMessage? queue now = none) :
    (dequeue owner queue now).run store = .ok (none, store) := by
  rw [dequeue, run_bind_of_ok (run_requireQueue hqueue), Store.claimMessage, run_get_bind, hnext]
  rfl

/-- From a queue that is there the next message is taken under an open transaction. -/
theorem run_dequeue_of_some {queue : QueueId} {owner : TransactionId} {m : Message}
    (hqueue : (store.queue? queue).isSome) (hopen : store.IsOpen owner now)
    (hnext : store.nextMessage? queue now = some m) :
    (dequeue owner queue now).run store =
      .ok (some (m.take owner), (Change.take m owner now).apply store) := by
  obtain ⟨t, howner, _⟩ := hopen
  rw [dequeue, run_bind_of_ok (run_requireQueue hqueue), Store.claimMessage, run_get_bind, hnext,
    Change.apply_take]
  simp [howner, Store.updateMessages]
  rfl

/-- Under an open transaction the next message of a queue is taken, if there is one. -/
theorem run_dequeue (queue : QueueId) {owner : TransactionId} (hopen : store.IsOpen owner now) :
    (∃ error, (dequeue owner queue now).run store = .error error) ∨
      store.nextMessage? queue now = none ∧
        (dequeue owner queue now).run store = .ok (none, store) ∨
      ∃ m, m.queue = queue ∧ (Change.take m owner now).Allowed store ∧
        (dequeue owner queue now).run store =
          .ok (some (m.take owner), (Change.take m owner now).apply store) := by
  cases hqueue : store.queue? queue with
  | none => exact .inl ⟨_, run_bind_of_error (run_requireQueue_of_none hqueue)⟩
  | some found =>
      have hsome : (store.queue? queue).isSome := by simp [hqueue]
      cases hnext : store.nextMessage? queue now with
      | none => exact .inr (.inl ⟨rfl, run_dequeue_of_none owner hsome hnext⟩)
      | some m =>
          have hm : m.queue = queue := by
            have heligible := (Store.nextMessage?_eq_some hnext).2
            simp only [Message.isEligible, Bool.and_eq_true, decide_eq_true_eq] at heligible
            exact heligible.1.1.1
          exact .inr (.inr ⟨m, hm, ⟨hm ▸ hnext, hopen⟩, run_dequeue_of_some hsome hopen hnext⟩)

/-- Peeking shows the next message of a queue that is there, and changes nothing. -/
theorem run_peek (queue : QueueId) (now : Instant) :
    (∃ error, (peek queue now).run store = .error error) ∨
      (peek queue now).run store = .ok (store.nextMessage? queue now, store) := by
  cases hqueue : store.queue? queue with
  | none => exact .inl ⟨_, run_bind_of_error (run_requireQueue_of_none hqueue)⟩
  | some found =>
      have hsome : (store.queue? queue).isSome := by simp [hqueue]
      exact .inr ((run_bind_of_ok (run_requireQueue hsome)).trans rfl)

/-- A stage of a sweep repairs rows. -/
theorem repair_eq_apply (stage : SweepStage) :
    (stage.repair now store).2 = (Change.repair stage now).apply store := by
  rw [Change.apply_of_no_new (fun _ => rfl) rfl rfl rfl]
  cases stage with
  | transactions =>
      have hmessages : (Change.repair .transactions now).messageAfter store = some := rfl
      rw [hmessages, List.filterMap_some]
      rfl
  | orphanedAdds =>
      have hmessages : (store.messages.filter fun m => !store.isOrphan .add m) =
          store.messages.filterMap ((Change.repair .orphanedAdds now).messageAfter store) := by
        rw [← List.map_id' (List.filter _ _)]
        refine map_filter_eq_filterMap fun m => ?_
        cases hm : store.isOrphan .add m <;> simp [Change.messageAfter, hm]
      rw [← hmessages,
        List.map_id'' (f := (Change.repair .orphanedAdds now).transactionAfter) fun _ => rfl]
      rfl
  | orphanedPulls =>
      have hmessages : (store.messages.map fun m =>
          if store.isOrphan .pull m then m.giveBack now else m) =
          store.messages.filterMap ((Change.repair .orphanedPulls now).messageAfter store) := by
        refine map_eq_filterMap fun m => ?_
        cases hm : store.isOrphan .pull m <;> simp [Change.messageAfter, hm]
      have hgive := Store.giveBack_eq (store.isOrphan .pull) now store
        fun m => m.isOrphan_exhaust store .pull now
      rw [← hmessages,
        List.map_id'' (f := (Change.repair .orphanedPulls now).transactionAfter) fun _ => rfl]
      exact congrArg Prod.snd hgive
  | lifetimes =>
      have hmessages : (store.messages.map fun m =>
          if m.state = .active && m.lifetimePassed now then m.close .expired now else m) =
          store.messages.filterMap ((Change.repair .lifetimes now).messageAfter store) := by
        refine map_eq_filterMap fun m => ?_
        simp only [Change.messageAfter, apply_ite some]
      rw [← hmessages,
        List.map_id'' (f := (Change.repair .lifetimes now).transactionAfter) fun _ => rfl]
      rfl
  | attempts =>
      have hmessages : (store.messages.map fun m =>
          if m.state = .active && m.maxAttempts ≤ m.attempts then m.close .attemptsExceeded now
          else m) =
          store.messages.filterMap ((Change.repair .attempts now).messageAfter store) := by
        refine map_eq_filterMap fun m => ?_
        simp only [Change.messageAfter, apply_ite some]
      rw [← hmessages,
        List.map_id'' (f := (Change.repair .attempts now).transactionAfter) fun _ => rfl]
      rfl

/-! ## Looking -/

/-- Whatever the work answers, the store is as it was. -/
def OnlyLooks {α : Type} (work : Work α) : Prop :=
  ∀ store answer changed, work.run store = .ok (answer, changed) → changed = store

/-- An answer that needs no look changes nothing. -/
theorem onlyLooks_pure {α : Type} (answer : α) : OnlyLooks (pure answer) := by
  intro store answer changed h
  cases h
  rfl

/-- An error changes nothing. -/
theorem onlyLooks_throw {α : Type} (error : Error) : OnlyLooks (throw error : Work α) := by
  intro store answer changed h
  cases h

/-- Looking twice is looking. -/
theorem OnlyLooks.bind {α β : Type} {work : Work α} {next : α → Work β} (h : OnlyLooks work)
    (hnext : ∀ answer, OnlyLooks (next answer)) : OnlyLooks (work >>= next) := by
  intro store answer changed hrun
  cases hwork : work.run store with
  | error error => cases (run_bind_of_error hwork).symm.trans hrun
  | ok result =>
      obtain ⟨first, between⟩ := result
      have hbetween := h store first between hwork
      subst hbetween
      exact hnext first between answer changed ((run_bind_of_ok hwork).symm.trans hrun)

/-- Seeing the whole store changes nothing. -/
theorem onlyLooks_get : OnlyLooks (get : Work Store) := by
  intro store answer changed h
  cases h
  rfl

/-- Finding a queue changes nothing. -/
theorem onlyLooks_findQueue (address : QueueAddress) : OnlyLooks (findQueue address) := by
  intro store answer changed h
  rcases run_findQueue store address with ⟨error, herror⟩ | ⟨queue, _, hfound⟩
  · cases h.symm.trans herror
  · cases h.symm.trans hfound
    rfl

/-- Finding a transaction changes nothing. -/
theorem onlyLooks_findTransaction (id : TransactionId) : OnlyLooks (findTransaction id) := by
  refine onlyLooks_get.bind fun store => ?_
  split
  · exact onlyLooks_pure _
  · exact onlyLooks_throw _

/-- Finding a message changes nothing. -/
theorem onlyLooks_findMessage (id : MessageId) : OnlyLooks (findMessage id) := by
  refine onlyLooks_get.bind fun store => ?_
  split
  · exact onlyLooks_pure _
  · exact onlyLooks_throw _

/-- Counting messages changes nothing. -/
theorem onlyLooks_count (queue : QueueId) (state : Option MessageState) :
    OnlyLooks (count queue state) :=
  ((onlyLooks_findQueue _).bind fun _ => onlyLooks_pure _).bind fun _ =>
    onlyLooks_get.bind fun _ => onlyLooks_pure _

/-- Counting messages by state changes nothing. -/
theorem onlyLooks_stats (address : QueueAddress) : OnlyLooks (stats address) :=
  (onlyLooks_findQueue address).bind fun _ => onlyLooks_get.bind fun _ => onlyLooks_pure _

end Work

end WorkQueue
