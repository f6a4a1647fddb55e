import WorkQueue.Proofs.Broker.Storage
import WorkQueue.Proofs.Run.Moves

/-!
# What a move comes to

`Move.explained` is the one place that says what a move can do: which change it makes to the
store, that the change was allowed, and what the move answers. A move that fails changes nothing,
unless it is the first to come upon a transaction whose lifetime has passed; then it undoes the
transaction and says that it has expired. What every change keeps, every run keeps:
`Broker.play_store`.
-/

namespace WorkQueue

namespace Broker

/-- What a call that takes a message does while it holds the claim lock. -/
def takeNext (owner : TransactionId) (queue : QueueId) : Call (Option Message) := do
  let now ← now
  match ← under owner now (Work.dequeue owner queue now) with
  | none =>
      note [countOperation .dequeueEmpty queue]
      pure none
  | some message =>
      note [countOperation .dequeue queue,
        .event (.messageClaimed message.id queue owner message.attempts)]
      pure (some message)

/-- A call that takes a message holds the claim lock all the while. -/
theorem dequeue_eq (owner : TransactionId) (queue : QueueId) :
    dequeue owner queue = holdingClaim queue (takeNext owner queue) :=
  rfl

/-- What a call that deletes a queue does in its storage transaction. -/
def dropQueue (ref : QueueRef) : Call (Queue × Nat) := do
  let address ← check (QueueAddress.ofRef ref)
  inStorage (Work.deleteQueue address)

/-- What a call that deletes a queue does after that: it forgets the claim lock. -/
def forgetQueue (queue : Queue) (removed : Nat) : Call Nat := do
  modify fun broker => { broker with locks := broker.locks.evict queue.id }
  note [.counted (.queueOperation .delete queue.name) 1,
    .event (.queueDeleted queue.id queue.name removed)]
  pure removed

/-- A queue is deleted before its claim lock is forgotten. -/
theorem deleteQueue_eq (ref : QueueRef) :
    deleteQueue ref = dropQueue ref >>= fun (queue, removed) => forgetQueue queue removed := by
  rw [deleteQueue, dropQueue, bind_assoc]
  rfl

/-- Dropping a queue fails and changes nothing, or drops a queue that is there. -/
theorem dropQueue_cases (ref : QueueRef) (broker : Broker) :
    (∃ error after, (dropQueue ref).run broker = (.error error, after) ∧
      after.store = broker.store) ∨
      ∃ queue after, (Change.dropQueue queue.id).Allowed broker.store ∧
        (dropQueue ref).run broker =
          (.ok (queue, broker.store.messages.countP fun m => m.queue = queue.id), after) ∧
        after.store = (Change.dropQueue queue.id).apply broker.store := by
  rw [dropQueue]
  cases haddress : QueueAddress.ofRef ref with
  | error error => exact .inl ⟨error, broker, run_bind_of_error (run_check_of_error rfl), rfl⟩
  | ok address =>
      rw [run_bind_of_ok (run_check_of_ok rfl)]
      rcases inStorage_cases (Work.deleteQueue address) broker with
        hrefused | ⟨answer, changed, hwork, hrun⟩
      · exact .inl hrefused
      · rcases Work.run_deleteQueue address with ⟨error, herror⟩ | ⟨queue, hallowed, hdropped⟩
        · cases hwork.symm.trans herror
        · cases hwork.symm.trans hdropped
          exact .inr ⟨queue, _, hallowed, hrun, rfl⟩

end Broker

namespace Move

/-- Does the move leave the store alone? Peeking does too, and is told apart for its answer. -/
def isLook : Move → Bool
  | .findQueue _ | .listQueues | .findTransaction _ | .findMessage _ | .count _ _ | .stats _
  | .setClock _ | .setOutages _ => true
  | _ => false

/-- The transaction under which the move works. -/
def owner? : Move → Option TransactionId
  | .extend id _ | .commit id | .rollback id _ | .enqueue id _ _ | .dequeue id _ => some id
  | _ => none

end Move

/-- What a move can come to: its answer, and the change of the store that goes with it. -/
inductive ComesTo (store : Store) (now : Instant) :
    (move : Move) → Except Error move.Answer → Change → Prop where
  | refused (move : Move) (error : Error) : ComesTo store now move (.error error) .nothing
  | looked (move : Move) (answer : move.Answer) :
      move.isLook = true → ComesTo store now move (.ok answer) .nothing
  | peeked (queue : QueueId) :
      ComesTo store now (.peek queue) (.ok (store.nextMessage? queue now)) .nothing
  | tookNothing (owner : TransactionId) (queue : QueueId) :
      store.nextMessage? queue now = none →
      ComesTo store now (.dequeue owner queue) (.ok none) .nothing
  | lapsed (move : Move) (id : TransactionId) :
      move.owner? = some id →
      ComesTo store now move (.error (.expired id)) (.undo id .expired expiredReason now)
  | queueCreated (text : String) (name : QueueName) :
      QueueName.ofText text = .ok name →
      ComesTo store now (.createQueue text) (.ok ⟨store.lastQueue + 1⟩) (.addQueue name)
  | queueDeleted (ref : QueueRef) (id : QueueId) :
      ComesTo store now (.deleteQueue ref)
        (.ok (store.messages.countP fun m => m.queue = id)) (.dropQueue id)
  | started (lifetime : Duration) (expiry : Instant) :
      Broker.expiryAfter now lifetime = .ok expiry →
      ComesTo store now (.start lifetime) (.ok ⟨store.lastTransaction + 1⟩)
        (.start now expiry)
  | extended (id : TransactionId) (lifetime : Duration) (expiry : Instant) :
      Broker.expiryAfter now lifetime = .ok expiry →
      ComesTo store now (.extend id lifetime) (.ok expiry) (.extend id now expiry)
  | committed (id : TransactionId) :
      ComesTo store now (.commit id)
        (.ok ⟨store.messages.countP fun m => m.isHeldBy id .add,
          store.messages.countP fun m => m.isHeldBy id .pull⟩)
        (.commit id now)
  | rolledBack (id : TransactionId) (reason : String) :
      ComesTo store now (.rollback id reason)
        (.ok (store.unwound fun action m => m.isHeldBy id action))
        (.undo id .rolledBack reason now)
  | added (owner : TransactionId) (queue : QueueId) (new : NewMessage) (expiry : Option Instant) :
      Broker.messageExpiry new now = .ok expiry →
      ComesTo store now (.enqueue owner queue new) (.ok ⟨store.lastMessage + 1⟩)
        (.add (new.draft queue owner now expiry))
  | took (owner : TransactionId) (message : Message) :
      ComesTo store now (.dequeue owner message.queue) (.ok (some (message.take owner)))
        (.take message owner now)
  | repaired (stage : SweepStage) (instant : Instant) :
      ComesTo store now (.sweep stage instant) (.ok (stage.repair instant store).1)
        (.repair stage instant)

/-- A new message that is checked may be tried at least once. -/
theorem NewMessage.maxAttempts_pos {new : NewMessage} (h : new.check = .ok ()) :
    0 < new.maxAttempts := by
  rw [check] at h
  split at h
  · cases h
  · omega

namespace Move

/-- The result of a move is explained by a change: the change was allowed, it goes with the answer,
and it is what has become of the store. -/
def Explained (move : Move) (broker : Broker) (result : Except Error move.Answer × Broker) :
    Prop :=
  ∃ change : Change, change.Allowed broker.store ∧
    ComesTo broker.store broker.clock move result.1 change ∧
      result.2.store = change.apply broker.store

variable {broker after : Broker} {move : Move} {α : Type} {work : Work α}
  {finish : α → Call move.Answer}

/-- A move that fails and leaves the store alone makes no change. -/
theorem explained_of_refused {error : Error} (hstore : after.store = broker.store) :
    move.Explained broker (.error error, after) :=
  ⟨.nothing, trivial, .refused move error, by rw [Change.apply_nothing]; exact hstore⟩

/-- A move that only looks makes no change. -/
theorem explained_of_look {result : Except Error move.Answer × Broker}
    (hlook : move.isLook = true) (hstore : result.2.store = broker.store) :
    move.Explained broker result := by
  rcases result with ⟨answer | answer, after⟩
  · exact explained_of_refused hstore
  · refine ⟨.nothing, trivial, .looked move answer hlook, ?_⟩
    rw [Change.apply_nothing]
    exact hstore

/-- A move that does its work in a storage transaction is explained by what the work does, if what
comes after it answers and leaves the store alone. -/
theorem explained_of_inStorage (conclude : α → move.Answer)
    (hfinish : ∀ answer broker, ∃ after,
      (finish answer).run broker = (.ok (conclude answer), after) ∧ after.store = broker.store)
    (hwork : ∀ answer changed, work.run broker.store = .ok (answer, changed) →
      ∃ change : Change, change.Allowed broker.store ∧
        ComesTo broker.store broker.clock move (.ok (conclude answer)) change ∧
          changed = change.apply broker.store) :
    move.Explained broker ((Broker.inStorage work >>= finish).run broker) := by
  rcases Broker.inStorage_cases work broker with
    ⟨error, after, hrun, hstore⟩ | ⟨answer, changed, hdone, hrun⟩
  · rw [Broker.run_bind_of_error hrun]
    exact explained_of_refused hstore
  · obtain ⟨after, hafter, hstore⟩ := hfinish answer { broker.begun with store := changed }
    obtain ⟨change, hallowed, hcomes, hchanged⟩ := hwork answer changed hdone
    rw [Broker.run_bind_of_ok hrun, hafter]
    exact ⟨change, hallowed, hcomes, hstore.trans hchanged⟩

/-- A move that does its work under a transaction is explained by what the work does if the
transaction is open, and by undoing the transaction if it has lapsed. -/
theorem explained_of_under {id : TransactionId} (conclude : α → move.Answer)
    (howner : move.owner? = some id)
    (hfinish : ∀ answer broker, ∃ after,
      (finish answer).run broker = (.ok (conclude answer), after) ∧ after.store = broker.store)
    (hwork : broker.store.IsOpen id broker.clock →
      ∀ answer changed, work.run broker.store = .ok (answer, changed) →
        ∃ change : Change, change.Allowed broker.store ∧
          ComesTo broker.store broker.clock move (.ok (conclude answer)) change ∧
          changed = change.apply broker.store) :
    move.Explained broker ((Broker.under id broker.clock work >>= finish).run broker) := by
  obtain ⟨error, after, hrun, hstore⟩ | ⟨after, hlapsed, hrun, hstore⟩ |
      ⟨hopen, answer, changed, hdone, hrun⟩ := Broker.under_cases id broker.clock work broker
  · rw [Broker.run_bind_of_error hrun]
    exact explained_of_refused hstore
  · rw [Broker.run_bind_of_error hrun]
    exact ⟨.undo id .expired expiredReason broker.clock, .inr ⟨rfl, rfl, hlapsed⟩,
      .lapsed move id howner, hstore⟩
  · obtain ⟨after, hafter, hstore⟩ := hfinish answer { broker.begun with store := changed }
    obtain ⟨change, hallowed, hcomes, hchanged⟩ := hwork hopen answer changed hdone
    rw [Broker.run_bind_of_ok hrun, hafter]
    exact ⟨change, hallowed, hcomes, hstore.trans hchanged⟩

/-- Creating a queue adds it. -/
theorem explained_createQueue (text : String) :
    (Move.createQueue text).Explained broker ((Move.createQueue text).call.run broker) := by
  rw [call, Broker.createQueue]
  cases hname : QueueName.ofText text with
  | error error =>
      rw [Broker.run_bind_of_error (Broker.run_check_of_error rfl)]
      exact explained_of_refused rfl
  | ok name =>
      rw [Broker.run_bind_of_ok (Broker.run_check_of_ok rfl)]
      refine explained_of_inStorage id (fun _ _ => ⟨_, rfl, rfl⟩) ?_
      intro answer changed hwork
      rcases Work.run_insertQueue name with ⟨error, herror⟩ | ⟨hallowed, hadded⟩
      · cases hwork.symm.trans herror
      · cases hwork.symm.trans hadded
        exact ⟨_, hallowed, .queueCreated text name hname, rfl⟩

/-- Deleting a queue drops it. -/
theorem explained_deleteQueue (ref : QueueRef) :
    (Move.deleteQueue ref).Explained broker ((Move.deleteQueue ref).call.run broker) := by
  rw [call, Broker.deleteQueue_eq]
  rcases Broker.dropQueue_cases ref broker with
    ⟨error, after, hrun, hstore⟩ | ⟨queue, after, hallowed, hrun, hstore⟩
  · rw [Broker.run_bind_of_error hrun]
    exact explained_of_refused hstore
  · rw [Broker.run_bind_of_ok hrun]
    exact ⟨_, hallowed, .queueDeleted ref queue.id, hstore⟩

/-- Starting a transaction adds it. -/
theorem explained_start (lifetime : Duration) :
    (Move.start lifetime).Explained broker ((Move.start lifetime).call.run broker) := by
  rw [call, Broker.start, Broker.run_now_bind]
  cases hexpiry : Broker.expiryAfter broker.clock lifetime with
  | error error =>
      rw [Broker.run_bind_of_error (Broker.run_check_of_error rfl)]
      exact explained_of_refused rfl
  | ok expiry =>
      rw [Broker.run_bind_of_ok (Broker.run_check_of_ok rfl)]
      refine explained_of_inStorage id (fun _ _ => ⟨_, rfl, rfl⟩) ?_
      intro answer changed hwork
      rcases Work.run_insertTransaction expiry with ⟨error, herror⟩ | ⟨hallowed, hadded⟩
      · cases hwork.symm.trans herror
      · cases hwork.symm.trans hadded
        exact ⟨_, hallowed, .started lifetime expiry hexpiry, rfl⟩

/-- Extending a transaction changes its expiry. -/
theorem explained_extend (id : TransactionId) (lifetime : Duration) :
    (Move.extend id lifetime).Explained broker ((Move.extend id lifetime).call.run broker) := by
  rw [call, Broker.extend, Broker.run_now_bind]
  cases hexpiry : Broker.expiryAfter broker.clock lifetime with
  | error error =>
      rw [Broker.run_bind_of_error (Broker.run_check_of_error rfl)]
      exact explained_of_refused rfl
  | ok expiry =>
      rw [Broker.run_bind_of_ok (Broker.run_check_of_ok rfl)]
      refine explained_of_under (fun _ => expiry) rfl (fun _ _ => ⟨_, rfl, rfl⟩) ?_
      intro hopen answer changed hwork
      cases hwork.symm.trans (Work.run_extend hopen)
      exact ⟨.extend id broker.clock expiry, hopen, .extended id lifetime expiry hexpiry, rfl⟩

/-- Committing a transaction makes final what it did. -/
theorem explained_commit (id : TransactionId) :
    (Move.commit id).Explained broker ((Move.commit id).call.run broker) := by
  rw [call, Broker.commit, Broker.run_now_bind]
  refine explained_of_under (fun summary => summary) rfl (fun _ _ => ⟨_, rfl, rfl⟩) ?_
  intro hopen answer changed hwork
  cases hwork.symm.trans (Work.run_commit hopen)
  exact ⟨.commit id broker.clock, hopen, .committed id, rfl⟩

/-- Rolling a transaction back undoes what it did. -/
theorem explained_rollback (id : TransactionId) (reason : String) :
    (Move.rollback id reason).Explained broker ((Move.rollback id reason).call.run broker) := by
  rw [call, Broker.rollback, Broker.run_now_bind]
  refine explained_of_under (fun undone => undone) rfl (fun _ _ => ⟨_, rfl, rfl⟩) ?_
  intro hopen answer changed hwork
  cases hwork.symm.trans (Work.run_unwind _ _ _ hopen.exists_active)
  exact ⟨.undo id .rolledBack reason broker.clock, .inl ⟨rfl, hopen⟩, .rolledBack id reason, rfl⟩

/-- Adding a message adds it in its transaction's hands. -/
theorem explained_enqueue (owner : TransactionId) (queue : QueueId) (new : NewMessage) :
    (Move.enqueue owner queue new).Explained broker
      ((Move.enqueue owner queue new).call.run broker) := by
  rw [call, Broker.enqueue]
  cases hcheck : new.check with
  | error error =>
      rw [Broker.run_bind_of_error (Broker.run_check_of_error rfl)]
      exact explained_of_refused rfl
  | ok =>
      rw [Broker.run_bind_of_ok (Broker.run_check_of_ok rfl), Broker.run_now_bind]
      cases hexpiry : Broker.messageExpiry new broker.clock with
      | error error =>
          rw [Broker.run_bind_of_error (Broker.run_check_of_error rfl)]
          exact explained_of_refused rfl
      | ok expiry =>
          rw [Broker.run_bind_of_ok (Broker.run_check_of_ok rfl)]
          refine explained_of_under (fun id => id) rfl (fun _ _ => ⟨_, rfl, rfl⟩) ?_
          intro hopen answer changed hwork
          have hattempts := NewMessage.maxAttempts_pos hcheck
          rcases Work.run_enqueue (new.draft queue owner broker.clock expiry) hopen hattempts with
            ⟨error, herror⟩ | ⟨hallowed, hadded⟩
          · cases hwork.symm.trans herror
          · cases hwork.symm.trans hadded
            exact ⟨_, hallowed, .added owner queue new expiry hexpiry, rfl⟩

/-- Holding a claim lock does not touch the store. -/
theorem explained_of_holdingClaim {queue : QueueId} {call : Call move.Answer}
    (h : ∀ broker, move.Explained broker (call.run broker)) :
    move.Explained broker ((Broker.holdingClaim queue call).run broker) := by
  unfold Broker.holdingClaim
  simp only [ExceptT.run_mk]
  split
  · exact h broker
  · exact h { broker with locks := broker.locks.acquire () queue }

/-- What a call does that takes a message, but for holding the claim lock, puts the message in its
taker's hands. -/
theorem explained_takeNext (broker : Broker) (owner : TransactionId) (queue : QueueId) :
    (Move.dequeue owner queue).Explained broker ((Broker.takeNext owner queue).run broker) := by
  rw [Broker.takeNext, Broker.run_now_bind]
  refine explained_of_under (fun message => message) rfl ?_ ?_
  · intro answer broker
    cases answer <;> exact ⟨_, rfl, rfl⟩
  · intro hopen answer changed hwork
    rcases Work.run_dequeue queue hopen with
      ⟨error, herror⟩ | ⟨hnext, hnone⟩ | ⟨message, rfl, hallowed, htaken⟩
    · cases hwork.symm.trans herror
    · cases hwork.symm.trans hnone
      exact ⟨.nothing, trivial, .tookNothing owner queue hnext, (Change.apply_nothing _).symm⟩
    · cases hwork.symm.trans htaken
      exact ⟨_, hallowed, .took owner message, rfl⟩

/-- Taking a message puts it in its taker's hands. -/
theorem explained_dequeue (owner : TransactionId) (queue : QueueId) :
    (Move.dequeue owner queue).Explained broker ((Move.dequeue owner queue).call.run broker) := by
  rw [call, Broker.dequeue_eq]
  exact explained_of_holdingClaim fun broker => explained_takeNext broker owner queue

/-- Peeking shows the next message. -/
theorem explained_peek (queue : QueueId) :
    (Move.peek queue).Explained broker ((Move.peek queue).call.run broker) := by
  rw [call, Broker.peek, Broker.run_now_bind, ← bind_pure (Broker.inStorage _)]
  refine explained_of_inStorage (fun message => message) (fun _ _ => ⟨_, rfl, rfl⟩) ?_
  intro answer changed hwork
  rcases Work.run_peek queue broker.clock with ⟨error, herror⟩ | hpeeked
  · cases hwork.symm.trans herror
  · cases hwork.symm.trans hpeeked
    exact ⟨.nothing, trivial, .peeked queue, (Change.apply_nothing _).symm⟩

/-- A stage of a sweep repairs rows. -/
theorem explained_sweep (stage : SweepStage) (instant : Instant) :
    (Move.sweep stage instant).Explained broker ((Move.sweep stage instant).call.run broker) := by
  rw [call, Broker.sweepStages]
  refine explained_of_inStorage (fun rows => rows ++ []) (fun _ _ => ⟨_, rfl, rfl⟩) ?_
  intro answer changed hwork
  have hrepair : stage.repair instant broker.store = (answer, changed) := Except.ok.inj hwork
  have hrows : answer ++ [] = (stage.repair instant broker.store).1 := by
    rw [List.append_nil, hrepair]
  have hstore : changed = (stage.repair instant broker.store).2 := by rw [hrepair]
  rw [hrows, hstore, Work.repair_eq_apply]
  exact ⟨.repair stage instant, trivial, .repaired stage instant, rfl⟩

/-- Work that only looks at the store leaves it as it was. -/
theorem store_of_onlyLooks {work : Work α} (h : work.OnlyLooks) :
    ((Broker.inStorage work).run broker).2.store = broker.store := by
  rcases Broker.inStorage_cases work broker with
    ⟨error, after, hrun, hstore⟩ | ⟨answer, changed, hwork, hrun⟩
  · rw [hrun]
    exact hstore
  · rw [hrun]
    exact h broker.store answer changed hwork

/-- Every move is explained by a change. -/
theorem explained (move : Move) (broker : Broker) :
    move.Explained broker (move.call.run broker) := by
  cases move with
  | createQueue text => exact explained_createQueue text
  | deleteQueue ref => exact explained_deleteQueue ref
  | start lifetime => exact explained_start lifetime
  | extend id lifetime => exact explained_extend id lifetime
  | commit id => exact explained_commit id
  | rollback id reason => exact explained_rollback id reason
  | enqueue owner queue new => exact explained_enqueue owner queue new
  | dequeue owner queue => exact explained_dequeue owner queue
  | peek queue => exact explained_peek queue
  | sweep stage instant => exact explained_sweep stage instant
  | setClock now => exact explained_of_look rfl rfl
  | setOutages outages => exact explained_of_look rfl rfl
  | listQueues =>
      exact explained_of_look rfl
        (store_of_onlyLooks (Work.onlyLooks_get.bind fun _ => Work.onlyLooks_pure _))
  | findTransaction id =>
      exact explained_of_look rfl (store_of_onlyLooks (Work.onlyLooks_findTransaction id))
  | findMessage id =>
      exact explained_of_look rfl (store_of_onlyLooks (Work.onlyLooks_findMessage id))
  | count queue state =>
      exact explained_of_look rfl (store_of_onlyLooks (Work.onlyLooks_count queue state))
  | findQueue ref =>
      refine explained_of_look rfl ?_
      rw [call, Broker.findQueue]
      cases haddress : QueueAddress.ofRef ref with
      | error error => rw [Broker.run_bind_of_error (Broker.run_check_of_error rfl)]
      | ok address =>
          rw [Broker.run_bind_of_ok (Broker.run_check_of_ok rfl)]
          exact store_of_onlyLooks (Work.onlyLooks_findQueue address)
  | stats ref =>
      refine explained_of_look rfl ?_
      rw [call, Broker.stats]
      cases haddress : QueueAddress.ofRef ref with
      | error error => rw [Broker.run_bind_of_error (Broker.run_check_of_error rfl)]
      | ok address =>
          rw [Broker.run_bind_of_ok (Broker.run_check_of_ok rfl)]
          exact store_of_onlyLooks (Work.onlyLooks_stats address)

/-- A move that can come to no change leaves the store alone. -/
theorem store_after_of_nothing
    (h : ∀ answer change, ComesTo broker.store broker.clock move answer change →
      change = .nothing) : (move.after broker).store = broker.store := by
  obtain ⟨change, _, hcomes, hstore⟩ := move.explained broker
  rw [h _ change hcomes, Change.apply_nothing] at hstore
  exact hstore

/-- A look leaves the store alone. -/
theorem store_after_of_isLook (move : Move) (hlook : move.isLook = true) :
    (move.after broker).store = broker.store := by
  refine store_after_of_nothing fun answer change hcomes => ?_
  cases hcomes with
  | refused | looked => rfl
  | lapsed _ _ howner => cases move <;> simp [isLook, owner?] at hlook howner
  | _ => cases hlook

/-- Peeking leaves the store alone. -/
theorem store_after_peek (queue : QueueId) :
    ((Move.peek queue).after broker).store = broker.store := by
  refine store_after_of_nothing fun answer change hcomes => ?_
  cases hcomes with
  | refused | looked | peeked => rfl
  | lapsed _ _ howner => cases howner

end Move

/-- Every step is explained by a change. -/
theorem Step.explained (step : Step) :
    ∃ change : Change, change.Allowed step.before.store ∧
      ComesTo step.before.store step.before.clock step.move (step.move.answer step.before) change ∧
      step.after.store = change.apply step.before.store :=
  step.move.explained step.before

namespace ComesTo

variable {store : Store} {now : Instant} {move : Move} {answer : Except Error move.Answer}
  {change : Change}

/-- What a move delivers is what its change delivers. -/
theorem delivery_eq (h : ComesTo store now move answer change) :
    move.delivery? answer = change.delivery? := by
  cases h with
  | refused move error => cases move <;> rfl
  | looked move answer hlook => cases move <;> first | rfl | cases hlook
  | lapsed move id howner => cases move <;> rfl
  | _ => rfl

/-- What a move adds is what its change adds. -/
theorem addition_eq (h : ComesTo store now move answer change) :
    move.addition? answer = change.addition? store := by
  cases h with
  | refused move error => cases move <;> rfl
  | looked move answer hlook => cases move <;> first | rfl | cases hlook
  | lapsed move id howner => cases move <;> rfl
  | _ => rfl

/-- A transaction is undone by its rollback, or by a move that finds it lapsed and says so. -/
theorem of_undo {id : TransactionId} {target : TransactionState} {reason : String}
    {instant : Instant}
    (h : ComesTo store now move answer (.undo id target reason instant)) :
    ((∃ given, move = .rollback id given) ∧ (∃ undone, answer = .ok undone) ∧
        target = .rolledBack ∧ instant = now) ∨
      (move.owner? = some id ∧ answer = .error (.expired id) ∧ target = .expired ∧
        instant = now) := by
  cases h with
  | lapsed _ _ howner => exact .inr ⟨howner, rfl, rfl, rfl⟩
  | rolledBack => exact .inl ⟨⟨reason, rfl⟩, ⟨_, rfl⟩, rfl, rfl⟩

/-- Rows are repaired by a sweep. -/
theorem of_repair {stage : SweepStage} {instant : Instant}
    (h : ComesTo store now move answer (.repair stage instant)) : move = .sweep stage instant := by
  cases h
  rfl

end ComesTo

namespace Broker

/-- A property of the store that every change keeps is kept by every run. -/
theorem play_store (Holds : Store → Prop)
    (hchange : ∀ change store, Change.Allowed store change → Holds store →
      Holds (change.apply store))
    (moves : List Move) {broker : Broker} (h : Holds broker.store) :
    Holds (play moves broker).store := by
  refine play_invariant (fun _ broker => Holds broker.store) h ?_ moves
  intro _ before move h
  obtain ⟨change, hallowed, _, hstore⟩ := move.explained before
  rw [Move.after, hstore]
  exact hchange change before.store hallowed h

end Broker

end WorkQueue
