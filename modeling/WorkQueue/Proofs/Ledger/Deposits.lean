import WorkQueue.Proofs.Visibility.Barrier

/-!
# Deposits

A message that is added is a deposit, with the transaction that adds it and the queue that it is
added to. The deposits of a run are kept account of in the store: every message in it was deposited,
and a deposit is there as long as its queue is and its transaction is active or committed, in the
hands of the transaction in the first case and out of them in the second. Every change of the store
keeps that, so it is so after every run: `play_books`.
-/

namespace WorkQueue

/-- A message that was added: its number, the transaction that added it, and its queue. -/
structure Deposit where
  message : MessageId
  owner : TransactionId
  queue : QueueId
  deriving DecidableEq, Repr

/-- The deposit that a move makes by its answer. -/
def Move.deposit? : (move : Move) → Except Error move.Answer → Option Deposit
  | .enqueue owner queue _, .ok message => some ⟨message, owner, queue⟩
  | _, _ => none

/-- The deposit that a change makes. -/
def Change.deposit? (store : Store) : Change → Option Deposit
  | .add draft => some ⟨⟨store.lastMessage + 1⟩, draft.owner, draft.queue⟩
  | _ => none

/-- The deposit that a step makes. -/
def Step.deposit? (step : Step) : Option Deposit :=
  step.move.deposit? (step.move.answer step.before)

/-- The deposits of a run. -/
def deposits (steps : List Step) : List Deposit :=
  steps.filterMap Step.deposit?

/-- A further step may make a further deposit. -/
theorem deposits_append_singleton (steps : List Step) (step : Step) :
    deposits (steps ++ [step]) = deposits steps ++ step.deposit?.toList := by
  rw [deposits, List.filterMap_append, deposits]
  cases hdeposit : step.deposit? <;> simp [hdeposit]

/-- What a move deposits is what its change deposits. -/
theorem ComesTo.deposit_eq {store : Store} {now : Instant} {move : Move}
    {answer : Except Error move.Answer} {change : Change}
    (h : ComesTo store now move answer change) : move.deposit? answer = change.deposit? store := by
  cases h with
  | refused move error => cases move <;> rfl
  | looked move answer hlook => cases move <;> first | rfl | cases hlook
  | lapsed move id howner => cases move <;> rfl
  | _ => rfl

/-- A deposit is an addition. -/
theorem Step.addition_of_deposit {step : Step} {deposit : Deposit}
    (h : step.deposit? = some deposit) :
    step.addition? = some (deposit.message, deposit.owner) := by
  obtain ⟨before, move⟩ := step
  rw [Step.deposit?] at h
  rw [Step.addition?]
  generalize Move.answer _ before = answer at h
  cases move with
  | enqueue owner queue new =>
      cases answer with
      | error error => cases h
      | ok message => cases h; rfl
  | _ => cases answer <;> cases h

namespace Change

variable {change : Change} {store : Store} {m kept : Message}

/-- A message is deleted with its queue, or with the transaction that adds it, or because that
transaction has expired. -/
theorem deletion_cases (h : change.messageAfter store m = none) :
    change = .dropQueue m.queue ∨
      (∃ id target reason now, change = .undo id target reason now ∧
        m.isHeldBy id .add = true) ∨
      ∃ now, change = .repair .orphanedAdds now ∧ store.isOrphan .add m = true := by
  cases change with
  | nothing | addQueue | start | extend | add => cases h
  | dropQueue id =>
      simp only [messageAfter] at h
      split at h
      · next hqueue => exact .inl (by rw [hqueue])
      · cases h
  | commit id now =>
      simp only [messageAfter] at h
      split at h
      · cases h
      · split at h <;> cases h
  | undo id target reason now =>
      simp only [messageAfter] at h
      split at h
      · next hadded => exact .inr (.inl ⟨id, target, reason, now, rfl, hadded⟩)
      · split at h <;> cases h
  | take message owner now =>
      simp only [messageAfter] at h
      split at h <;> cases h
  | repair stage now =>
      cases stage with
      | orphanedAdds =>
          simp only [messageAfter] at h
          split at h
          · next horphan => exact .inr (.inr ⟨now, rfl, horphan⟩)
          · cases h
      | transactions => cases h
      | orphanedPulls | lifetimes | attempts =>
          simp only [messageAfter] at h
          split at h <;> cases h

end Change

namespace Deposit

variable {deposit : Deposit} {store : Store} {t after : Transaction} {change : Change}

/-- Is the deposited message there, and as it should be? -/
def There (deposit : Deposit) (store : Store) (Should : Message → Prop) : Prop :=
  ∃ m ∈ store.messages, m.id = deposit.message ∧ m.queue = deposit.queue ∧ Should m

/-- What is so of a deposit under a transaction in some state: as long as the transaction may be
committed the message is there in its hands, and once it is committed the message is there and was
let go. -/
def KeptFor (deposit : Deposit) (store : Store) : TransactionState → Prop
  | .active => deposit.There store fun m => m.isHeldBy deposit.owner .add = true
  | .committed => deposit.There store fun m => m.action ≠ some .add
  | .rolledBack | .expired => True

/-- A deposit is kept unless its queue is lost. -/
def Kept (deposit : Deposit) (store : Store) : Prop :=
  store.HasLost deposit.queue ∨
    ∃ t ∈ store.transactions, t.id = deposit.owner ∧ deposit.KeptFor store t.state

/-- A deposited message that outlasts a change is there after it. -/
theorem There.apply {Next : Message → Prop} {m kept : Message} (hm : m ∈ store.messages)
    (hid : m.id = deposit.message) (hqueue : m.queue = deposit.queue)
    (hkept : change.messageAfter store m = some kept) (hnext : Next kept) :
    deposit.There (change.apply store) Next := by
  have hcontent := Change.content_messageAfter hkept
  exact ⟨kept, Change.mem_messages_apply.2 (.inl ⟨m, hm, hkept⟩),
    (Message.id_eq_of_content hcontent).trans hid,
    (Message.queue_eq_of_content hcontent).trans hqueue, hnext⟩

/-- A message that an active transaction is adding is there until the transaction ends, and is let
go when it is committed. -/
theorem keptFor_of_active (hallowed : change.Allowed store) (hnumbered : store.Numbered)
    (hspared : change ≠ .dropQueue deposit.queue) (ht : t ∈ store.transactions)
    (hid : t.id = deposit.owner) (hactive : t.state = .active) (hfate : t.Fate change after)
    (h : deposit.There store fun m => m.isHeldBy deposit.owner .add = true) :
    deposit.KeptFor (change.apply store) after.state := by
  obtain ⟨m, hm, hnumber, hqueue, hheld⟩ := h
  rw [← hid] at hheld
  obtain ⟨howner, haction, hin⟩ := Message.isHeldBy_iff.1 hheld
  cases hkept : change.messageAfter store m with
  | none =>
      rcases Change.deletion_cases hkept with
        rfl | ⟨id, target, reason, now, rfl, hadded⟩ | ⟨now, rfl, horphan⟩
      · exact absurd (by rw [hqueue]) hspared
      · -- The transaction that is undone is the one that is adding the message.
        cases (Message.isHeldBy_iff.1 hadded).1.symm.trans howner
        cases hfate with
        | same _ hends => exact absurd rfl (hends hactive)
        | undone => rcases hallowed with ⟨rfl, _⟩ | ⟨rfl, _⟩ <;> exact trivial
      · simp only [Store.isOrphan, howner, Option.any_some, Bool.and_eq_true] at horphan
        exact absurd horphan.2 (by simp [hnumbered.hasExpired_eq ht, hactive])
  | some kept =>
      have hmfate := Change.message_fate hallowed hnumbered hm hkept
      have hbarred := Change.barred_of_held hallowed hnumbered ht hfate (.inl hactive) hheld hmfate
      cases hstate : after.state with
      | rolledBack | expired => exact trivial
      | active =>
          rw [hstate, hid] at hbarred
          exact There.apply hm hnumber hqueue hkept hbarred
      | committed =>
          rw [hstate] at hbarred
          refine There.apply hm hnumber hqueue hkept ?_
          cases hmfate with
          | same => exact absurd hheld hbarred
          | released => simp [Message.moveTo]
          | processed id now htaken | undone id target reason now htaken =>
              cases haction.symm.trans (Message.isHeldBy_iff.1 htaken).2.1
          | recovered now horphan =>
              cases haction.symm.trans
                (Message.isTaken_iff.1 (Message.isTaken_of_isOrphan horphan)).2
          | taken => simp [Message.take]
          | lapsed now hstate | outworn now hstate => cases hin.symm.trans hstate

/-- A message whose transaction was committed is there and stays let go. -/
theorem keptFor_of_committed (hallowed : change.Allowed store) (hnumbered : store.Numbered)
    (hspared : change ≠ .dropQueue deposit.queue)
    (h : deposit.There store fun m => m.action ≠ some .add) :
    deposit.KeptFor (change.apply store) .committed := by
  obtain ⟨m, hm, hnumber, hqueue, haction⟩ := h
  cases hkept : change.messageAfter store m with
  | none =>
      rcases Change.deletion_cases hkept with
        rfl | ⟨id, target, reason, now, rfl, hadded⟩ | ⟨now, rfl, horphan⟩
      · exact absurd (by rw [hqueue]) hspared
      · exact absurd (Message.isHeldBy_iff.1 hadded).2.1 haction
      · simp only [Store.isOrphan, Bool.and_eq_true, decide_eq_true_eq] at horphan
        exact absurd horphan.1.2 haction
  | some kept =>
      refine There.apply hm hnumber hqueue hkept ?_
      cases Change.message_fate hallowed hnumbered hm hkept with
      | same | lapsed | outworn => exact haction
      | released | processed => simp [Message.moveTo]
      | undone | recovered => simp [m.action_giveBack]
      | taken => simp [Message.take]

/-- A deposit is kept after every change. -/
theorem Kept.apply (h : deposit.Kept store) (hallowed : change.Allowed store)
    (hnumbered : store.Numbered) : deposit.Kept (change.apply store) := by
  rcases h with hlost | ⟨t, ht, hid, hkept⟩
  · exact .inl (hlost.apply change)
  by_cases hdropped : change = .dropQueue deposit.queue
  · subst hdropped
    exact .inl (hnumbered.hasLost_dropQueue hallowed)
  · refine .inr ⟨change.transactionAfter t, Change.mem_transactions_apply.2 (.inl ⟨t, ht, rfl⟩),
      (change.id_transactionAfter t).trans hid, ?_⟩
    have hfate := change.transaction_fate t
    cases hstate : t.state with
    | active =>
        rw [hstate] at hkept
        exact keptFor_of_active hallowed hnumbered hdropped ht hid hstate hfate hkept
    | committed =>
        rw [hfate.eq_of_ended (by rw [hstate]; decide), hstate]
        rw [hstate] at hkept
        exact keptFor_of_committed hallowed hnumbered hdropped hkept
    | rolledBack | expired =>
        rw [hfate.eq_of_ended (by rw [hstate]; decide), hstate]
        exact trivial

/-- A new deposit is kept. -/
theorem kept_of_add {draft : MessageDraft} (hallowed : (Change.add draft).Allowed store) :
    Kept ⟨⟨store.lastMessage + 1⟩, draft.owner, draft.queue⟩ ((Change.add draft).apply store) := by
  obtain ⟨t, hfind, hactive, _⟩ := hallowed.2.1
  obtain ⟨ht, hid⟩ := Store.transaction?_eq_some hfind
  refine .inr ⟨t, Change.mem_transactions_apply.2 (.inl ⟨t, ht, rfl⟩), hid, ?_⟩
  rw [hactive]
  exact ⟨draft.row ⟨store.lastMessage + 1⟩,
    Change.mem_messages_apply.2 (.inr (List.mem_singleton_self _)), rfl, rfl,
    Message.isHeldBy_iff.2 ⟨rfl, rfl, rfl⟩⟩

end Deposit

namespace Store

/-- The deposits are kept account of in the store. -/
structure Books (store : Store) (deposits : List Deposit) : Prop where
  numbered : Ascending (fun d : Deposit => d.message.value) store.lastMessage deposits
  entered : ∀ m ∈ store.messages, ∃ d ∈ deposits, d.message = m.id ∧ d.queue = m.queue
  kept : ∀ d ∈ deposits, d.Kept store

/-- The empty store is without deposits. -/
theorem books_empty : Books {} [] :=
  ⟨.nil, fun _ hmem => absurd hmem List.not_mem_nil, fun _ hmem => absurd hmem List.not_mem_nil⟩

/-- The deposits are kept account of after every change. -/
theorem Books.apply {store : Store} {deposits : List Deposit} (h : store.Books deposits)
    {change : Change} (hallowed : change.Allowed store) (hnumbered : store.Numbered) :
    (change.apply store).Books (deposits ++ (change.deposit? store).toList) where
  numbered := by
    cases change with
    | add draft => exact h.numbered.append rfl
    | _ => simpa [Change.apply, Change.newMessages, Change.deposit?] using h.numbered
  entered := by
    intro m hm
    rcases Change.origin hallowed hnumbered hm with ⟨old, hold, hcontent, _⟩ | ⟨draft, rfl, rfl⟩
    · obtain ⟨d, hd, hnumber, hqueue⟩ := h.entered old hold
      exact ⟨d, List.mem_append_left _ hd, hnumber.trans (Message.id_eq_of_content hcontent).symm,
        hqueue.trans (Message.queue_eq_of_content hcontent).symm⟩
    · exact ⟨_, List.mem_append_right _ (List.mem_singleton_self _), rfl, rfl⟩
  kept := by
    intro d hd
    rcases List.mem_append.1 hd with hold | hnew
    · exact (h.kept d hold).apply hallowed hnumbered
    · cases change with
      | add draft =>
          cases List.mem_singleton.1 hnew
          exact Deposit.kept_of_add hallowed
      | _ => cases hnew

end Store

/-- After every run the deposits are kept account of in the store. -/
theorem Broker.play_books (broker : Broker) (moves : List Move) :
    (play moves broker.emptied).store.Books (deposits (trace moves broker.emptied)) := by
  refine (play_invariant
    (fun steps broker => broker.store.Sound ∧ broker.store.Books (deposits steps))
    ⟨Store.sound_empty, Store.books_empty⟩ ?_ moves).2
  rintro steps before move ⟨hsound, hbooks⟩
  refine ⟨Step.sound_after ⟨before, move⟩ hsound, ?_⟩
  obtain ⟨change, hallowed, hcomes, hstore⟩ := Step.explained ⟨before, move⟩
  replace hstore : (move.after before).store = change.apply before.store := hstore
  rw [hstore, deposits_append_singleton, Step.deposit?, hcomes.deposit_eq]
  exact hbooks.apply hallowed hsound.numbered

end WorkQueue
