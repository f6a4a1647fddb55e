import WorkQueue.Proofs.Store.Numbers

/-!
# What becomes of messages and transactions

A change leaves a message as it is, deletes it, or changes its row in one of seven ways, and it
leaves a transaction as it is or changes its row in one of four. `Change.message_fate` and
`Change.transaction_fate` are the places where the changes are gone through for that: what holds of
a row in each of these ways holds of it after every change.
-/

namespace WorkQueue

namespace Message

variable {m : Message} {now : Instant} {owner : TransactionId} {action : TransactionAction}

/-- What it is for a transaction to hold a message. -/
theorem isHeldBy_iff :
    m.isHeldBy owner action = true ↔
      m.owner = some owner ∧ m.action = some action ∧ m.state = .inTransaction := by
  simp only [isHeldBy, Bool.and_eq_true, decide_eq_true_eq, and_assoc]

/-- What it is for a message to be taken. -/
theorem isTaken_iff : m.isTaken = true ↔ m.state = .inTransaction ∧ m.action = some .pull := by
  simp only [isTaken, Bool.and_eq_true, decide_eq_true_eq]

/-- What it is for a message to be eligible. -/
theorem isEligible_iff {queue : QueueId} :
    m.isEligible queue now = true ↔
      m.queue = queue ∧ m.state = .active ∧ m.attempts < m.maxAttempts ∧
        m.lifetimePassed now = false := by
  simp only [isEligible, Bool.and_eq_true, decide_eq_true_eq, Bool.not_eq_true', and_assoc]

/-- A message that a transaction has taken is taken. -/
theorem isTaken_of_isHeldBy (h : m.isHeldBy owner .pull = true) : m.isTaken = true :=
  isTaken_iff.2 ⟨(isHeldBy_iff.1 h).2.2, (isHeldBy_iff.1 h).2.1⟩

/-- A message of an expired transaction that had taken it is taken. -/
theorem isTaken_of_isOrphan {store : Store} (h : store.isOrphan .pull m = true) :
    m.isTaken = true := by
  simp only [Store.isOrphan, Bool.and_eq_true, decide_eq_true_eq] at h
  exact isTaken_iff.2 h.1

/-- What can become of the row of a message that a change does not delete. -/
inductive Fate (store : Store) (m : Message) : Change → Message → Prop where
  /-- The row stays as it is: no transaction that holds the message ends, and nobody takes it. -/
  | same (change : Change) :
      (∀ id, change.ends? = some id →
        ¬ m.isHeldBy id .add = true ∧ ¬ m.isHeldBy id .pull = true) →
      change.delivers m.id = false → Fate store m change m
  | released (id : TransactionId) (now : Instant) :
      m.isHeldBy id .add = true → Fate store m (.commit id now) (m.moveTo .active now)
  | processed (id : TransactionId) (now : Instant) :
      m.isHeldBy id .pull = true → Fate store m (.commit id now) (m.moveTo .processed now)
  | undone (id : TransactionId) (target : TransactionState) (reason : String) (now : Instant) :
      m.isHeldBy id .pull = true → Fate store m (.undo id target reason now) (m.giveBack now)
  | recovered (now : Instant) :
      store.isOrphan .pull m = true → Fate store m (.repair .orphanedPulls now) (m.giveBack now)
  | taken (owner : TransactionId) (now : Instant) :
      store.nextMessage? m.queue now = some m → store.IsOpen owner now →
      Fate store m (.take m owner now) (m.take owner)
  | lapsed (now : Instant) :
      m.state = .active → m.lifetimePassed now = true →
      Fate store m (.repair .lifetimes now) (m.close .expired now)
  | outworn (now : Instant) :
      m.state = .active → m.maxAttempts ≤ m.attempts →
      Fate store m (.repair .attempts now) (m.close .attemptsExceeded now)

/-- A change that ends no transaction and does not deliver the message may leave its row as it
is. -/
theorem Fate.untouched {store : Store} {change : Change} (hends : change.ends? = none)
    (hdelivers : change.delivers m.id = false) : Fate store m change m := by
  refine .same change (fun id hid => ?_) hdelivers
  rw [hends] at hid
  cases hid

/-- What a message was made with outlasts every fate. -/
theorem Fate.content_eq {store : Store} {kept : Message} {change : Change}
    (h : Fate store m change kept) : kept.content = m.content := by
  cases h with
  | undone | recovered => exact m.content_giveBack _
  | _ => rfl

end Message

namespace Transaction

/-- What can become of the row of a transaction. -/
inductive Fate (t : Transaction) : Change → Transaction → Prop where
  /-- The row stays as it is; if the transaction is active it is not ended. -/
  | same (change : Change) : (t.state = .active → change.ends? ≠ some t.id) → Fate t change t
  | extended (now expiry : Instant) :
      t.state = .active → Fate t (.extend t.id now expiry) { t with expiryTime := expiry }
  | committed (now : Instant) :
      t.state = .active → Fate t (.commit t.id now) (t.close .committed now committedReason)
  | undone (target : TransactionState) (reason : String) (now : Instant) :
      t.state = .active → Fate t (.undo t.id target reason now) (t.close target now reason)
  | expired (now : Instant) :
      t.state = .active → t.expiryTime.storedLe now = true →
      Fate t (.repair .transactions now) (t.close .expired now expiredReason)

/-- A change that ends no transaction may leave its row as it is. -/
theorem Fate.untouched {t : Transaction} {change : Change} (hends : change.ends? = none) :
    Fate t change t := by
  refine .same change fun _ hid => ?_
  rw [hends] at hid
  cases hid

/-- A transaction that is over stays as it is. -/
theorem Fate.eq_of_ended {t kept : Transaction} {change : Change} (h : Fate t change kept)
    (hended : t.state ≠ .active) : kept = t := by
  cases h with
  | same => rfl
  | _ => exact absurd ‹t.state = .active› hended

end Transaction

namespace Change

variable {change : Change} {store : Store} {m kept : Message}

/-- The fate of every message that a change does not delete. -/
theorem message_fate (hallowed : change.Allowed store) (hnumbered : store.Numbered)
    (hm : m ∈ store.messages) (hkept : change.messageAfter store m = some kept) :
    Message.Fate store m change kept := by
  cases change with
  | nothing | addQueue | start | extend | add => cases hkept; exact .untouched rfl rfl
  | dropQueue id =>
      simp only [messageAfter] at hkept
      split at hkept
      · cases hkept
      · cases hkept; exact .untouched rfl rfl
  | commit id now =>
      simp only [messageAfter] at hkept
      split at hkept
      · next hadded => cases hkept; exact .released id now hadded
      · next hadded =>
          split at hkept
          · next htaken => cases hkept; exact .processed id now htaken
          · next htaken =>
              cases hkept
              refine .same _ ?_ rfl
              rintro _ ⟨⟩
              exact ⟨hadded, htaken⟩
  | undo id target reason now =>
      simp only [messageAfter] at hkept
      split at hkept
      · cases hkept
      · next hadded =>
          split at hkept
          · next htaken => cases hkept; exact .undone id target reason now htaken
          · next htaken =>
              cases hkept
              refine .same _ ?_ rfl
              rintro _ ⟨⟩
              exact ⟨hadded, htaken⟩
  | take message owner now =>
      simp only [messageAfter] at hkept
      split at hkept
      · next hid =>
          cases hkept
          cases hnumbered.message_eq hm (Store.nextMessage?_eq_some hallowed.1).1 hid
          exact .taken owner now hallowed.1 hallowed.2
      · next hid =>
          cases hkept
          refine .untouched rfl ?_
          simpa [delivers, delivery?] using fun h => hid h.symm
  | repair stage now =>
      cases stage with
      | transactions => cases hkept; exact .untouched rfl rfl
      | orphanedAdds =>
          simp only [messageAfter] at hkept
          split at hkept
          · cases hkept
          · cases hkept; exact .untouched rfl rfl
      | orphanedPulls =>
          simp only [messageAfter] at hkept
          split at hkept
          · next horphan => cases hkept; exact .recovered now horphan
          · cases hkept; exact .untouched rfl rfl
      | lifetimes =>
          simp only [messageAfter, Bool.and_eq_true, decide_eq_true_eq] at hkept
          split at hkept
          · next hpassed => cases hkept; exact .lapsed now hpassed.1 hpassed.2
          · cases hkept; exact .untouched rfl rfl
      | attempts =>
          simp only [messageAfter, Bool.and_eq_true, decide_eq_true_eq] at hkept
          split at hkept
          · next hworn => cases hkept; exact .outworn now hworn.1 hworn.2
          · cases hkept; exact .untouched rfl rfl

/-- A message that is there after a change has had its fate, or is new. -/
theorem origin (hallowed : change.Allowed store) (hnumbered : store.Numbered)
    (hkept : kept ∈ (change.apply store).messages) :
    (∃ m ∈ store.messages, kept.content = m.content ∧ Message.Fate store m change kept) ∨
      ∃ draft, change = .add draft ∧ kept = draft.row ⟨store.lastMessage + 1⟩ := by
  rcases mem_messages_apply.1 hkept with ⟨m, hm, hafter⟩ | hnew
  · have hfate := message_fate hallowed hnumbered hm hafter
    exact .inl ⟨m, hm, hfate.content_eq, hfate⟩
  · cases change with
    | add draft => exact .inr ⟨draft, rfl, List.mem_singleton.1 hnew⟩
    | _ => cases hnew

/-- The fate of every transaction. -/
theorem transaction_fate (change : Change) (t : Transaction) :
    t.Fate change (change.transactionAfter t) := by
  have hactive {id : TransactionId} (h : (t.id = id && t.isActive) = true) :
      t.id = id ∧ t.state = .active := by
    simpa [Transaction.isActive] using h
  have hspared {id : TransactionId} (h : ¬ (t.id = id && t.isActive) = true)
      (hstate : t.state = .active) : some id ≠ some t.id := by
    rintro ⟨⟩
    simp [Transaction.isActive, hstate] at h
  cases change with
  | nothing | addQueue | dropQueue | start | add | take => exact .untouched rfl
  | extend id now expiry =>
      simp only [transactionAfter]
      split
      · next h =>
          obtain ⟨rfl, hstate⟩ := hactive h
          exact .extended now expiry hstate
      · exact .untouched rfl
  | commit id now =>
      simp only [transactionAfter]
      split
      · next h =>
          obtain ⟨rfl, hstate⟩ := hactive h
          exact .committed now hstate
      · next h => exact .same _ (hspared h)
  | undo id target reason now =>
      simp only [transactionAfter]
      split
      · next h =>
          obtain ⟨rfl, hstate⟩ := hactive h
          exact .undone target reason now hstate
      · next h => exact .same _ (hspared h)
  | repair stage now =>
      cases stage with
      | transactions =>
          simp only [transactionAfter, Bool.and_eq_true]
          split
          · next h => exact .expired now (by simpa [Transaction.isActive] using h.1) h.2
          · exact .untouched rfl
      | _ => exact .untouched rfl

/-- A change delivers a message that is there and active, and leaves it in its taker's hands. -/
theorem exists_active_of_delivers {id : MessageId} (hallowed : change.Allowed store)
    (h : change.delivers id = true) :
    ∃ m ∈ store.messages, m.id = id ∧ m.state = .active ∧
      ∃ owner, change.messageAfter store m = some (m.take owner) := by
  cases change with
  | take message owner now =>
      obtain ⟨hmessage, heligible⟩ := Store.nextMessage?_eq_some hallowed.1
      have hid : message.id = id := by simpa [delivers, delivery?] using h
      exact ⟨message, hmessage, hid, (Message.isEligible_iff.1 heligible).2.1, owner, if_pos rfl⟩
  | _ => cases h

end Change

namespace Store

/-- Is the message as told, if it is still there? Its number was given out, so that no message to
come has it. -/
structure Tells (store : Store) (id : MessageId) (Told : Message → Prop) : Prop where
  le_last : id.value ≤ store.lastMessage
  told : ∀ m ∈ store.messages, m.id = id → Told m

/-- A message that is there is as told when it is so told. -/
theorem Numbered.tells {store : Store} (h : store.Numbered) {m : Message} (hm : m ∈ store.messages)
    {Told : Message → Prop} (htold : Told m) : store.Tells m.id Told where
  le_last := h.messages.le_last m hm
  told other hother hid := by
    rw [h.message_eq hother hm hid]
    exact htold

/-- What is told of a message changes with its fate. -/
theorem Tells.apply {store : Store} {id : MessageId} {Told Next : Message → Prop}
    (h : store.Tells id Told) {change : Change} (hallowed : change.Allowed store)
    (hnumbered : store.Numbered)
    (hfate : ∀ m kept, m ∈ store.messages → m.id = id → Told m →
      Message.Fate store m change kept → Next kept) : (change.apply store).Tells id Next where
  le_last := Nat.le_trans h.le_last (Nat.le_add_right _ _)
  told kept hkept hid := by
    rcases Change.origin hallowed hnumbered hkept with ⟨m, hm, hcontent, hpast⟩ | ⟨draft, _, rfl⟩
    · have hsame : m.id = id := (Message.id_eq_of_content hcontent).symm.trans hid
      exact hfate m kept hm hsame (h.told m hm hsame) hpast
    · have hlast : id.value = store.lastMessage + 1 := by rw [← hid]; rfl
      exact absurd h.le_last (by omega)

end Store

end WorkQueue
