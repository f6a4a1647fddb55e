import WorkQueue.Proofs.Store.Coupling

/-!
# How transactions end

What a commit and a rollback make of a whole store, written out row by row and column by column:
`Store.committed` and `Store.undone`. A message is told by whom it names as its holder and for what,
and a transaction by its number. Every store that a run can reach is such that the statements, which
also look at the state of a row, come to the same: `endings_exact`.
-/

namespace WorkQueue

namespace Message

/-- The message once a transaction has been committed: what the transaction was adding is there to
be taken, and what it had taken is used up. -/
def committedBy (m : Message) (id : TransactionId) (now : Instant) : Message :=
  if m.owner = some id then
    match m.action with
    | some .add =>
        { m with state := .active, closeTime := none, owner := none, action := none }
    | some .pull =>
        { m with state := .processed, closeTime := some now, owner := none, action := none }
    | none => m
  else m

/-- The message once a transaction has been undone, unless the transaction was adding it: what it
had taken has been tried once more, and is there to be taken again if that was not the last time. -/
def undoneBy (m : Message) (id : TransactionId) (now : Instant) : Option Message :=
  if m.owner = some id then
    match m.action with
    | some .add => none
    | some .pull =>
        if m.maxAttempts ≤ m.attempts + 1 then
          some { m with
            attempts := m.attempts + 1, state := .attemptsExceeded, closeTime := some now
            owner := none, action := none }
        else
          some { m with
            attempts := m.attempts + 1, state := .active, owner := none, action := none }
    | none => some m
  else some m

end Message

/-- The transaction once the one with a number has come to an end. -/
def Transaction.endedBy (t : Transaction) (id : TransactionId) (target : TransactionState)
    (now : Instant) (reason : String) : Transaction :=
  if t.id = id then { t with state := target, endTime := some now, endReason := some reason }
  else t

namespace Store

/-- The store in which a transaction has been committed. -/
def committed (store : Store) (id : TransactionId) (now : Instant) : Store :=
  { store with
    transactions := store.transactions.map fun t => t.endedBy id .committed now committedReason
    messages := store.messages.map fun m => m.committedBy id now }

/-- The store in which a transaction has been undone. -/
def undone (store : Store) (id : TransactionId) (target : TransactionState) (reason : String)
    (now : Instant) : Store :=
  { store with
    transactions := store.transactions.map fun t => t.endedBy id target now reason
    messages := store.messages.filterMap fun m => m.undoneBy id now }

end Store

namespace Message.Coupled

variable {m : Message} {id : TransactionId} {action : TransactionAction}

/-- A message that names a transaction is in it. -/
theorem isHeldBy_eq (h : m.Coupled) :
    m.isHeldBy id action = (m.owner = some id && m.action = some action) := by
  unfold Message.isHeldBy
  by_cases howner : m.owner = some id
  · have hstate : m.state = .inTransaction := h.owner_iff.1 (by rw [howner]; rfl)
    simp [hstate]
  · simp [howner]

/-- What a commit makes of a message, told by whom the message names. -/
theorem messageAfter_commit (h : m.Coupled) (store : Store) (now : Instant) :
    (Change.commit id now).messageAfter store m = some (m.committedBy id now) := by
  show (if m.isHeldBy id .add then some (m.moveTo .active now)
    else if m.isHeldBy id .pull then some (m.moveTo .processed now) else some m) = _
  rw [h.isHeldBy_eq, h.isHeldBy_eq, committedBy]
  by_cases howner : m.owner = some id
  · cases haction : m.action with
    | none => simp [howner]
    | some action => cases action <;> simp [howner, Message.moveTo, MessageState.isTerminal]
  · simp [howner]

/-- What undoing a transaction makes of a message, told by whom the message names. -/
theorem messageAfter_undo (h : m.Coupled) (store : Store) (target : TransactionState)
    (reason : String) (now : Instant) :
    (Change.undo id target reason now).messageAfter store m = m.undoneBy id now := by
  show (if m.isHeldBy id .add then none
    else if m.isHeldBy id .pull then some (m.giveBack now) else some m) = _
  rw [h.isHeldBy_eq, h.isHeldBy_eq, undoneBy]
  by_cases howner : m.owner = some id
  · cases haction : m.action with
    | none => simp [howner]
    | some action =>
        cases action with
        | add => simp [howner]
        | pull =>
            by_cases hlast : m.maxAttempts ≤ m.attempts + 1
            · simp [howner, Message.giveBack, isLastAttempt, hlast, exhaust]
            · simp [howner, Message.giveBack, isLastAttempt, hlast, requeue]
  · simp [howner]

end Message.Coupled

namespace Store

variable {store : Store} {id : TransactionId}

/-- Where the transaction with a number is active, all that have the number are active. -/
theorem Numbered.isActive_eq (h : store.Numbered)
    (hactive : ∃ t ∈ store.transactions, t.id = id ∧ t.isActive = true) {t : Transaction}
    (ht : t ∈ store.transactions) : (t.id = id && t.isActive) = decide (t.id = id) := by
  obtain ⟨found, hfound, hid, hopen⟩ := hactive
  by_cases hsame : t.id = id
  · rw [h.transaction_eq ht hfound (hsame.trans hid.symm), hopen, Bool.and_true]
  · simp [hsame]

namespace Sound

variable (h : store.Sound) (hactive : ∃ t ∈ store.transactions, t.id = id ∧ t.isActive = true)
include h hactive

/-- Committing an active transaction comes to the store in which it has been committed. -/
theorem apply_commit (now : Instant) :
    (Change.commit id now).apply store = store.committed id now := by
  have htransactions : store.transactions.map (Change.commit id now).transactionAfter =
      store.transactions.map fun t => t.endedBy id .committed now committedReason := by
    refine List.map_congr_left fun t ht => ?_
    show (if (t.id = id && t.isActive) = true then t.close .committed now committedReason
      else t) = _
    rw [h.numbered.isActive_eq hactive ht, Transaction.endedBy]
    simp only [decide_eq_true_eq, Transaction.close]
  have hmessages : store.messages.filterMap ((Change.commit id now).messageAfter store) =
      store.messages.map fun m => m.committedBy id now := by
    rw [← List.filterMap_eq_map]
    exact List.filterMap_congr fun m hm => (h.coupled.messages m hm).messageAfter_commit store now
  rw [Change.apply_of_no_new (fun _ => rfl) rfl rfl rfl, htransactions, hmessages]
  rfl

/-- Undoing an active transaction comes to the store in which it has been undone. -/
theorem apply_undo (target : TransactionState) (reason : String) (now : Instant) :
    (Change.undo id target reason now).apply store = store.undone id target reason now := by
  have htransactions : store.transactions.map (Change.undo id target reason now).transactionAfter =
      store.transactions.map fun t => t.endedBy id target now reason := by
    refine List.map_congr_left fun t ht => ?_
    show (if (t.id = id && t.isActive) = true then t.close target now reason else t) = _
    rw [h.numbered.isActive_eq hactive ht, Transaction.endedBy]
    simp only [decide_eq_true_eq, Transaction.close]
  have hmessages :
      store.messages.filterMap ((Change.undo id target reason now).messageAfter store) =
        store.messages.filterMap fun m => m.undoneBy id now :=
    List.filterMap_congr fun m hm =>
      (h.coupled.messages m hm).messageAfter_undo store target reason now
  rw [Change.apply_of_no_new (fun _ => rfl) rfl rfl rfl, htransactions, hmessages]
  rfl

end Sound

/-- What a transaction holds is counted by whom the messages name. -/
theorem Coupled.countP_isHeldBy (h : store.Coupled) (id : TransactionId)
    (action : TransactionAction) (p : Message → Bool) :
    (store.messages.countP fun m => m.isHeldBy id action && p m) =
      store.messages.countP fun m => m.owner = some id && m.action = some action && p m := by
  refine List.countP_congr fun m hm => ?_
  rw [(h.messages m hm).isHeldBy_eq]

end Store

namespace Move

variable {broker : Broker} {id : TransactionId}

/-- A commit of an open transaction, once its storage transaction has begun. -/
theorem commit_of_open (hbegin : broker.outages.hitsNext = false)
    (hopen : broker.store.IsOpen id broker.clock) :
    (Move.commit id).answer broker =
        .ok ⟨broker.store.messages.countP fun m => m.isHeldBy id .add,
          broker.store.messages.countP fun m => m.isHeldBy id .pull⟩ ∧
      ((Move.commit id).after broker).store =
        (Change.commit id broker.clock).apply broker.store := by
  rw [answer, after, call, Broker.commit, Broker.run_now_bind,
    Broker.run_bind_of_ok (Broker.run_under_of_ok hbegin hopen (Work.run_commit hopen))]
  exact ⟨rfl, rfl⟩

/-- A rollback of an open transaction, once its storage transaction has begun. -/
theorem rollback_of_open (reason : String) (hbegin : broker.outages.hitsNext = false)
    (hopen : broker.store.IsOpen id broker.clock) :
    (Move.rollback id reason).answer broker =
        .ok (broker.store.unwound fun action m => m.isHeldBy id action) ∧
      ((Move.rollback id reason).after broker).store =
        (Change.undo id .rolledBack reason broker.clock).apply broker.store := by
  have hunwound := Work.run_unwind .rolledBack reason broker.clock hopen.exists_active
  rw [answer, after, call, Broker.rollback, Broker.run_now_bind,
    Broker.run_bind_of_ok (Broker.run_under_of_ok hbegin hopen hunwound)]
  exact ⟨rfl, rfl⟩

end Move

namespace Broker

/-- After every run, for every transaction that is open then, if a storage transaction can be begun:
a commit leaves the store in which the transaction has been committed, and answers how many messages
it was adding and how many it had taken; a rollback leaves the store in which the transaction has
been undone for the reason given, and answers how many messages it was adding, and of how many that
it had taken another attempt is left and is not left. -/
theorem endings_exact (broker : Broker) (moves : List Move) (id : TransactionId) (reason : String)
    (hbegin : (play moves broker.emptied).outages.hitsNext = false)
    (hopen : (play moves broker.emptied).store.IsOpen id (play moves broker.emptied).clock) :
    let found := play moves broker.emptied
    let held (action : TransactionAction) (p : Message → Bool) : Nat :=
      found.store.messages.countP fun m => m.owner = some id && m.action = some action && p m
    ((Move.commit id).answer found =
        .ok ⟨held .add fun _ => true, held .pull fun _ => true⟩ ∧
      ((Move.commit id).after found).store = found.store.committed id found.clock) ∧
      (Move.rollback id reason).answer found =
        .ok ⟨held .add fun _ => true, held .pull fun m => m.attempts + 1 < m.maxAttempts,
          held .pull fun m => m.maxAttempts ≤ m.attempts + 1⟩ ∧
      ((Move.rollback id reason).after found).store =
        found.store.undone id .rolledBack reason found.clock := by
  intro found held
  have hsound : found.store.Sound := play_sound broker moves
  have hall (action : TransactionAction) :
      (found.store.messages.countP fun m => m.isHeldBy id action) = held action fun _ => true := by
    have hcount := hsound.coupled.countP_isHeldBy id action fun _ => true
    simpa only [held, Bool.and_true] using hcount
  have hleft : (found.store.messages.countP fun m => m.isHeldBy id .pull && !m.isLastAttempt) =
      held .pull fun m => m.attempts + 1 < m.maxAttempts := by
    rw [hsound.coupled.countP_isHeldBy]
    refine List.countP_congr fun m _ => ?_
    simp [Message.isLastAttempt]
  have hlast : (found.store.messages.countP fun m => m.isHeldBy id .pull && m.isLastAttempt) =
      held .pull fun m => m.maxAttempts ≤ m.attempts + 1 :=
    hsound.coupled.countP_isHeldBy id .pull Message.isLastAttempt
  have hcommit := Move.commit_of_open hbegin hopen
  have hrollback := Move.rollback_of_open reason hbegin hopen
  rw [hsound.apply_commit hopen.exists_active, hall, hall] at hcommit
  rw [hsound.apply_undo hopen.exists_active, Store.unwound, hall, hleft, hlast] at hrollback
  exact ⟨hcommit, hrollback⟩

/-- A run in which the second transaction adds a message and has taken two, of which the first may
be tried once only, while the third transaction has taken one more. -/
def mixedHolds : List Move :=
  [.createQueue "q", .start (.ofSeconds 60),
    .enqueue ⟨1⟩ ⟨1⟩ { payload := [], maxAttempts := 1 },
    .enqueue ⟨1⟩ ⟨1⟩ { payload := [] }, .enqueue ⟨1⟩ ⟨1⟩ { payload := [] }, .commit ⟨1⟩,
    .start (.ofSeconds 60), .enqueue ⟨2⟩ ⟨1⟩ { payload := [] }, .dequeue ⟨2⟩ ⟨1⟩,
    .dequeue ⟨2⟩ ⟨1⟩, .start (.ofSeconds 60), .dequeue ⟨3⟩ ⟨1⟩, .setClock ⟨30, 0⟩]

/-- Committed, the second transaction leaves what it added active and what it had taken processed;
rolled back, it leaves nothing of the first, and of what it had taken one message to be taken
again. -/
theorem endings_exact_mixedHolds :
    let found := play mixedHolds (emptied { clock := ⟨0, 0⟩ })
    (Move.commit ⟨2⟩).answer found = .ok ⟨1, 2⟩ ∧
      ((Move.commit ⟨2⟩).after found).store.messages.map Message.state =
        [.processed, .processed, .inTransaction, .active] ∧
      (Move.rollback ⟨2⟩ "later").answer found = .ok ⟨1, 1, 1⟩ ∧
      ((Move.rollback ⟨2⟩ "later").after found).store.messages.map Message.state =
        [.attemptsExceeded, .active, .inTransaction] := by
  intro found
  obtain ⟨⟨hcommitted, hstore⟩, hundone, hrest⟩ :=
    endings_exact { clock := ⟨0, 0⟩ } mixedHolds ⟨2⟩ "later" (by decide +kernel)
      (by decide +kernel)
  refine ⟨hcommitted.trans (by decide +kernel), ?_, hundone.trans (by decide +kernel), ?_⟩
  · rw [hstore]
    decide +kernel
  · rw [hrest]
    decide +kernel

end Broker

end WorkQueue
