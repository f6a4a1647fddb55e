import WorkQueue.Proofs.Queues.Identity

/-!
# Rows as the tables have them

In the tables states and actions are words, a number of a row is a signed number of 64 bits, and so
is the number that a statement is given to find a row by. A run in which every message that is added
has a priority and a correlation of their widths leaves no row that its columns cannot hold: what is
read from them is the row. A number of which half of the 64 bits' values are above is bound as a
negative number, and that finds no row, as it should.
-/

namespace WorkQueue

/-- Does the number have 32 bits, with a sign? -/
def Fits32 (number : Int) : Prop :=
  -half32 ≤ number ∧ number < half32

/-- Does the number have 64 bits, with a sign? -/
def Fits64 (number : Int) : Prop :=
  -half64 ≤ number ∧ number < half64

/-- Reading the bits of a number back gives the number. -/
theorem ofSigned_toSigned {value : Nat} (h : value < UInt64.size) :
    ofSigned (toSigned value) = value := by
  unfold toSigned ofSigned
  split <;> simp only [half64, UInt64.size] at * <;> omega

/-- Numbers with the same bits are the same. -/
theorem toSigned_inj {a b : Nat} (ha : a < UInt64.size) (hb : b < UInt64.size) :
    toSigned a = toSigned b ↔ a = b := by
  refine ⟨fun h => ?_, congrArg toSigned⟩
  rw [← ofSigned_toSigned ha, h, ofSigned_toSigned hb]

/-- The lower half has 64 bits. -/
theorem lt_size_of_lt_half64 {value : Nat} (h : value < half64) : value < UInt64.size :=
  Nat.lt_trans h (by decide)

/-- A number of the lower half is bound as it is. -/
theorem fits64_toSigned {value : Nat} (h : value < half64) : Fits64 (toSigned value) := by
  rw [toSigned, if_pos h]
  exact ⟨by omega, by omega⟩

/-- A count of the lower half of 32 bits has 32 bits with a sign. -/
theorem fits32_of_lt {count : Nat} (h : count < half32) : Fits32 count :=
  ⟨by omega, by omega⟩

/-- A number of the upper half is bound as a negative one. -/
theorem toSigned_neg {value : Nat} (h : half64 ≤ value) (hlt : value < UInt64.size) :
    toSigned value < 0 := by
  rw [toSigned, if_neg (Nat.not_lt.2 h)]
  omega

/-- The columns of a queue. -/
structure QueueColumns where
  id : Int
  name : String
  nameKey : String
  deriving DecidableEq, Repr

/-- The columns of a transaction. -/
structure TransactionColumns where
  id : Int
  state : String
  startTime : Instant
  expiryTime : Instant
  endTime : Option Instant
  endReason : Option String
  deriving DecidableEq, Repr

/-- The columns of a message. -/
structure MessageColumns where
  id : Int
  queue : Int
  owner : Option Int
  action : Option String
  state : String
  addTime : Instant
  closeTime : Option Instant
  priority : Int
  maxAttempts : Int
  attempts : Int
  expiryTime : Option Instant
  correlation : Int
  group : Option String
  metadata : String
  payload : List UInt8
  deriving DecidableEq, Repr

/-- What is stored of a queue. -/
def Queue.columns (queue : Queue) : QueueColumns where
  id := toSigned queue.id.value
  name := queue.name
  nameKey := foldCase queue.name

/-- What is stored of a transaction. -/
def Transaction.columns (t : Transaction) : TransactionColumns where
  id := toSigned t.id.value
  state := t.state.word
  startTime := t.startTime
  expiryTime := t.expiryTime
  endTime := t.endTime
  endReason := t.endReason

/-- What is stored of a message. -/
def Message.columns (m : Message) : MessageColumns where
  id := toSigned m.id.value
  queue := toSigned m.queue.value
  owner := m.owner.map fun owner => toSigned owner.value
  action := m.action.map TransactionAction.word
  state := m.state.word
  addTime := m.addTime
  closeTime := m.closeTime
  priority := m.priority
  maxAttempts := m.maxAttempts
  attempts := m.attempts
  expiryTime := m.expiryTime
  correlation := m.correlation
  group := m.group
  metadata := m.metadata
  payload := m.payload

/-- Do the columns hold the queue? -/
def QueueColumns.Fit (row : QueueColumns) : Prop :=
  Fits64 row.id

/-- Do the columns hold the transaction? -/
def TransactionColumns.Fit (row : TransactionColumns) : Prop :=
  Fits64 row.id

/-- Do the columns hold the message? -/
structure MessageColumns.Fit (row : MessageColumns) : Prop where
  id : Fits64 row.id
  queue : Fits64 row.queue
  owner : ∀ owner, row.owner = some owner → Fits64 owner
  priority : Fits32 row.priority
  maxAttempts : Fits32 row.maxAttempts
  attempts : Fits32 row.attempts
  correlation : Fits64 row.correlation

/-- Read a queue. -/
def QueueColumns.read (row : QueueColumns) : Queue where
  id := ⟨ofSigned row.id⟩
  name := row.name

/-- Read a transaction. -/
def TransactionColumns.read (row : TransactionColumns) : Except Error Transaction := do
  let state ← TransactionState.ofText row.state
  pure {
    id := ⟨ofSigned row.id⟩
    state
    startTime := row.startTime
    expiryTime := row.expiryTime
    endTime := row.endTime
    endReason := row.endReason }

/-- Read a message. A negative number of attempts is read as none. -/
def MessageColumns.read (row : MessageColumns) : Except Error Message := do
  let action ← row.action.mapM TransactionAction.ofText
  let state ← MessageState.ofText row.state
  pure {
    id := ⟨ofSigned row.id⟩
    queue := ⟨ofSigned row.queue⟩
    owner := row.owner.map fun owner => ⟨ofSigned owner⟩
    action
    state
    addTime := row.addTime
    closeTime := row.closeTime
    priority := row.priority
    maxAttempts := row.maxAttempts.toNat
    attempts := row.attempts.toNat
    expiryTime := row.expiryTime
    correlation := row.correlation
    group := row.group
    metadata := row.metadata
    payload := row.payload }

namespace Message

variable {a b : Message} (h : a.content = b.content)
include h

/-- Messages of one content are equally urgent. -/
theorem priority_eq_of_content : a.priority = b.priority := by
  show a.content.priority = b.content.priority
  rw [h]

/-- Messages of one content have one correlation. -/
theorem correlation_eq_of_content : a.correlation = b.correlation := by
  show a.content.correlation = b.content.correlation
  rw [h]

end Message

namespace Store

/-- The numbers given out so far, and those that messages are made with, have their widths. -/
structure Fits (store : Store) : Prop where
  last : ∀ kind, store.last kind < half64
  messages : ∀ m ∈ store.messages,
    Fits32 m.priority ∧ Fits64 m.correlation ∧ m.maxAttempts < half32

/-- The rows are held by their columns, from which they are read as they are, and they are found by
the numbers that are bound for them. -/
structure Readable (store : Store) : Prop where
  queues : ∀ queue ∈ store.queues, queue.columns.Fit ∧ queue.columns.read = queue
  transactions : ∀ t ∈ store.transactions, t.columns.Fit ∧ t.columns.read = .ok t
  messages : ∀ m ∈ store.messages, m.columns.Fit ∧ m.columns.read = .ok m
  queue? : ∀ id : QueueId, id.value < UInt64.size →
    (store.queues.find? fun queue => queue.columns.id = toSigned id.value) = store.queue? id
  transaction? : ∀ id : TransactionId, id.value < UInt64.size →
    (store.transactions.find? fun t => t.columns.id = toSigned id.value) = store.transaction? id
  message? : ∀ id : MessageId, id.value < UInt64.size →
    (store.messages.find? fun m => m.columns.id = toSigned id.value) = store.message? id
  inQueue : ∀ m ∈ store.messages, ∀ id : QueueId, id.value < UInt64.size →
    (m.columns.queue = toSigned id.value ↔ m.queue = id)
  owned : ∀ m ∈ store.messages, ∀ id : TransactionId, id.value < UInt64.size →
    (m.columns.owner = some (toSigned id.value) ↔ m.owner = some id)
  upper : ∀ value, half64 ≤ value → value < UInt64.size →
    toSigned value < 0 ∧ store.queue? ⟨value⟩ = none ∧ store.transaction? ⟨value⟩ = none ∧
      store.message? ⟨value⟩ = none

/-- The empty store fits. -/
theorem fits_empty : Fits {} where
  last kind := by cases kind <;> simp [Store.last]
  messages m hm := by cases hm

end Store

/-! ## Every row fits -/

/-- Are the priority and the correlation of the message that the move adds, if it adds one, of their
widths? -/
def Move.Fits : Move → Prop
  | .enqueue _ _ new => Fits32 new.priority ∧ Fits64 new.correlation
  | _ => True

namespace Change

variable {change : Change} {store : Store}

/-- A change gives out no number, or the next one, which is below the half. -/
theorem last_apply (hallowed : change.Allowed store) (kind : RowKind) :
    (change.apply store).last kind = store.last kind ∨
      (change.apply store).last kind = store.last kind + 1 ∧ store.last kind + 1 < half64 := by
  cases change with
  | addQueue name =>
      cases kind with
      | queue => exact .inr ⟨rfl, hallowed.2⟩
      | _ => exact .inl rfl
  | start now expiry =>
      cases kind with
      | transaction => exact .inr ⟨rfl, hallowed⟩
      | _ => exact .inl rfl
  | add draft =>
      cases kind with
      | message => exact .inr ⟨rfl, hallowed.2.2.2⟩
      | _ => exact .inl rfl
  | _ => cases kind <;> exact .inl rfl

/-- Every change that adds no message out of width leaves a store that fits. -/
theorem fits_apply (hallowed : change.Allowed store) (h : store.Fits)
    (hdraft : ∀ draft, change = .add draft → Fits32 draft.priority ∧ Fits64 draft.correlation) :
    (change.apply store).Fits where
  last kind := by
    rcases last_apply hallowed kind with hsame | ⟨hnext, hlt⟩
    · rw [hsame]
      exact h.last kind
    · rw [hnext]
      exact hlt
  messages m hm := by
    rcases mem_messages_apply.1 hm with ⟨old, hold, hkept⟩ | hnew
    · have hcontent := content_messageAfter hkept
      obtain ⟨hpriority, hcorrelation, hattempts⟩ := h.messages old hold
      refine ⟨?_, ?_, ?_⟩
      · rwa [Message.priority_eq_of_content hcontent]
      · rwa [Message.correlation_eq_of_content hcontent]
      · rwa [Message.maxAttempts_eq_of_content hcontent]
    · cases change with
      | add draft =>
          obtain rfl := List.mem_singleton.1 hnew
          obtain ⟨hpriority, hcorrelation⟩ := hdraft draft rfl
          refine ⟨hpriority, hcorrelation, ?_⟩
          have := Nat.min_le_right draft.maxAttempts maxAttemptsLimit
          simp only [MessageDraft.row, maxAttemptsLimit, half32] at *
          omega
      | _ => cases hnew

end Change

/-- A move whose message is of its widths leaves a store that fits. -/
theorem Move.fits_after (move : Move) (hmove : move.Fits) {broker : Broker}
    (h : broker.store.Fits) : (move.after broker).store.Fits := by
  obtain ⟨change, hallowed, hcomes, hstore⟩ := move.explained broker
  replace hstore : (move.after broker).store = change.apply broker.store := hstore
  rw [hstore]
  refine Change.fits_apply hallowed h ?_
  rintro draft rfl
  generalize (move.call.run broker).1 = answer at hcomes
  cases hcomes
  exact hmove

/-- A run whose messages are of their widths leaves a store that fits. -/
theorem Broker.fits_play {moves : List Move} (hmoves : ∀ move ∈ moves, move.Fits) {broker : Broker}
    (h : broker.store.Fits) : (play moves broker).store.Fits := by
  induction moves generalizing broker with
  | nil => exact h
  | cons move rest ih =>
      exact ih (fun later hlater => hmoves later (List.mem_cons_of_mem _ hlater))
        (move.fits_after (hmoves move List.mem_cons_self) h)

/-! ## Every row is read as it is -/

/-- Rows are found by the numbers that are bound for their own. -/
theorem find?_bound {Row Id : Type} [DecidableEq Id] {rows : List Row} {id : Row → Id}
    {value : Id → Nat} (hvalue : ∀ a b, value a = value b → a = b)
    (hrows : ∀ row ∈ rows, value (id row) < half64) {wanted : Id}
    (hwanted : value wanted < UInt64.size) :
    (rows.find? fun row => toSigned (value (id row)) = toSigned (value wanted)) =
      rows.find? fun row => id row = wanted := by
  induction rows with
  | nil => rfl
  | cons row rest ih =>
      have hrow := lt_size_of_lt_half64 (hrows row List.mem_cons_self)
      have hrest := ih fun other hother => hrows other (List.mem_cons_of_mem _ hother)
      have hsame : toSigned (value (id row)) = toSigned (value wanted) ↔ id row = wanted :=
        (toSigned_inj hrow hwanted).trans ⟨hvalue _ _, congrArg value⟩
      simp only [List.find?_cons, hsame, hrest]

/-- No row is found by a number of the upper half. -/
theorem find?_upper {Row Id : Type} [DecidableEq Id] {rows : List Row} {id : Row → Id}
    {value : Id → Nat} (hrows : ∀ row ∈ rows, value (id row) < half64) {wanted : Id}
    (hwanted : half64 ≤ value wanted) : (rows.find? fun row => id row = wanted) = none := by
  refine List.find?_eq_none.2 fun row hrow hid => ?_
  rw [← of_decide_eq_true hid] at hwanted
  exact Nat.not_lt.2 hwanted (hrows row hrow)

/-- A message has not been given back more often than it may be. -/
theorem Message.Coupled.attempts_le {m : Message} (h : m.Coupled) : m.attempts ≤ m.maxAttempts := by
  by_cases hstate : m.state = .attemptsExceeded
  · exact Nat.le_of_eq (h.attempts_eq hstate)
  · exact Nat.le_of_lt (h.attempts_lt hstate)

namespace Store

variable {store : Store}

namespace Fits

variable (h : store.Fits) (hsound : store.Sound)
include h hsound

/-- The number of a queue that is there is below the half. -/
theorem queue_lt {queue : Queue} (hqueue : queue ∈ store.queues) : queue.id.value < half64 :=
  Nat.lt_of_le_of_lt (hsound.numbered.queues.le_last queue hqueue) (h.last .queue)

/-- The number of a transaction that is there is below the half. -/
theorem transaction_lt {t : Transaction} (ht : t ∈ store.transactions) : t.id.value < half64 :=
  Nat.lt_of_le_of_lt (hsound.numbered.transactions.le_last t ht) (h.last .transaction)

/-- The number of a message that is there is below the half. -/
theorem message_lt {m : Message} (hm : m ∈ store.messages) : m.id.value < half64 :=
  Nat.lt_of_le_of_lt (hsound.numbered.messages.le_last m hm) (h.last .message)

/-- The number of the queue of a message that is there is below the half. -/
theorem inQueue_lt {m : Message} (hm : m ∈ store.messages) : m.queue.value < half64 := by
  obtain ⟨queue, hqueue, hid⟩ := hsound.coupled.queues m hm
  rw [← hid]
  exact h.queue_lt hsound hqueue

/-- The number of the transaction that holds a message that is there is below the half. -/
theorem owner_lt {m : Message} (hm : m ∈ store.messages) {owner : TransactionId}
    (howner : m.owner = some owner) : owner.value < half64 := by
  obtain ⟨t, ht, hid, _⟩ := hsound.coupled.owners m hm owner howner
  rw [← hid]
  exact h.transaction_lt hsound ht

/-- The columns hold every message. -/
theorem columns_fit {m : Message} (hm : m ∈ store.messages) : m.columns.Fit where
  id := fits64_toSigned (h.message_lt hsound hm)
  queue := fits64_toSigned (h.inQueue_lt hsound hm)
  owner := by
    intro bound hbound
    obtain ⟨owner, howner, rfl⟩ := Option.map_eq_some_iff.1 hbound
    exact fits64_toSigned (h.owner_lt hsound hm howner)
  priority := (h.messages m hm).1
  maxAttempts := fits32_of_lt (h.messages m hm).2.2
  attempts := fits32_of_lt
    (Nat.lt_of_le_of_lt (hsound.coupled.messages m hm).attempts_le (h.messages m hm).2.2)
  correlation := (h.messages m hm).2.1

/-- What is read from a message's columns is the message. -/
theorem columns_read {m : Message} (hm : m ∈ store.messages) : m.columns.read = .ok m := by
  have haction : (m.action.map TransactionAction.word).mapM TransactionAction.ofText =
      .ok m.action := by
    cases m.action with
    | none => rfl
    | some action => simp [TransactionAction.ofText]
  have hstate : MessageState.ofText m.state.word = .ok m.state := by
    simp [MessageState.ofText]
  have howner : ((m.owner.map fun owner => toSigned owner.value).map fun owner =>
      TransactionId.mk (ofSigned owner)) = m.owner := by
    cases howner : m.owner with
    | none => rfl
    | some owner =>
      have hlt := h.owner_lt hsound hm howner
      simp [ofSigned_toSigned (lt_size_of_lt_half64 hlt)]
  have hid := ofSigned_toSigned (lt_size_of_lt_half64 (h.message_lt hsound hm))
  have hqueue := ofSigned_toSigned (lt_size_of_lt_half64 (h.inQueue_lt hsound hm))
  simp only [MessageColumns.read, Message.columns, haction, hstate, howner, hid, hqueue]
  rfl

/-- A sound store that fits can be read. -/
theorem readable : store.Readable where
  queues queue hqueue := by
    have hlt := h.queue_lt hsound hqueue
    refine ⟨fits64_toSigned hlt, ?_⟩
    simp [Queue.columns, QueueColumns.read, ofSigned_toSigned (lt_size_of_lt_half64 hlt)]
  transactions t ht := by
    have hlt := h.transaction_lt hsound ht
    refine ⟨fits64_toSigned hlt, ?_⟩
    simp [Transaction.columns, TransactionColumns.read, TransactionState.ofText,
      ofSigned_toSigned (lt_size_of_lt_half64 hlt)]
  messages m hm := ⟨h.columns_fit hsound hm, h.columns_read hsound hm⟩
  queue? id hid := find?_bound (fun _ _ => congrArg QueueId.mk)
    (fun _ hqueue => h.queue_lt hsound hqueue) hid
  transaction? id hid := find?_bound (fun _ _ => congrArg TransactionId.mk)
    (fun _ ht => h.transaction_lt hsound ht) hid
  message? id hid := find?_bound (fun _ _ => congrArg MessageId.mk)
    (fun _ hm => h.message_lt hsound hm) hid
  inQueue m hm id hid :=
    (toSigned_inj (lt_size_of_lt_half64 (h.inQueue_lt hsound hm)) hid).trans
      ⟨congrArg QueueId.mk, congrArg QueueId.value⟩
  owned m hm id hid := by
    rw [Message.columns, Option.map_eq_some_iff]
    constructor
    · rintro ⟨owner, howner, hsame⟩
      have hlt := lt_size_of_lt_half64 (h.owner_lt hsound hm howner)
      rw [howner]
      exact congrArg (some ∘ TransactionId.mk) ((toSigned_inj hlt hid).1 hsame)
    · exact fun howner => ⟨id, howner, rfl⟩
  upper _ hvalue hlt :=
    ⟨toSigned_neg hvalue hlt, find?_upper (fun _ hqueue => h.queue_lt hsound hqueue) hvalue,
      find?_upper (fun _ ht => h.transaction_lt hsound ht) hvalue,
      find?_upper (fun _ hm => h.message_lt hsound hm) hvalue⟩

end Fits

end Store

end WorkQueue
