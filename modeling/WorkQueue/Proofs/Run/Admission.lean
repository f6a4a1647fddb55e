import WorkQueue.Proofs.Run.Outcomes

/-!
# Calls under a transaction

Extending, committing, rolling back, adding and taking are calls under a transaction. Each of them
comes to one storage transaction, which looks at the transaction first: unless there is something
to object to before that, or the storage transaction cannot be begun, the call answers what
`Work.under` comes to: `Move.owned`. So it is refused under a transaction that is over, and if it
says that the transaction has expired, then that is what the store says from then on.
-/

namespace WorkQueue

/-- Is the move a call under a transaction, with nothing to object to before the transaction is
looked at? -/
def Move.WorksAt (now : Instant) : Move → Prop
  | .commit _ | .rollback _ _ | .dequeue _ _ => True
  | .extend _ lifetime => ∃ expiry, Broker.expiryAfter now lifetime = .ok expiry
  | .enqueue _ _ new =>
      new.check = .ok () ∧ ∃ expiry, Broker.messageExpiry new now = .ok expiry
  | _ => False

/-- What a call answers for what working under its transaction has come to. -/
def Admitted.answer {α β : Type} (id : TransactionId) (conclude : α → β) :
    Admitted α → Except Error β
  | .done answer => .ok (conclude answer)
  | .lapsed _ => .error (.expired id)

namespace Work

variable {α β : Type} {work : Work α}

/-! ## Work that never says that a transaction has expired -/

/-- Whatever the work fails with, it is not that a transaction has expired. -/
def NeverExpires (work : Work α) : Prop :=
  ∀ store id, work.run store ≠ .error (.expired id)

/-- An answer is not an error. -/
theorem neverExpires_pure (answer : α) : NeverExpires (pure answer) := by
  intro store id h
  cases h

/-- Other errors say something else. -/
theorem neverExpires_throw {error : Error} (h : ∀ id, error ≠ .expired id) :
    NeverExpires (throw error : Work α) := by
  intro store id hrun
  cases hrun
  exact h id rfl

/-- Work in two parts says nothing that neither part says. -/
theorem NeverExpires.bind {next : α → Work β} (h : NeverExpires work)
    (hnext : ∀ answer, NeverExpires (next answer)) : NeverExpires (work >>= next) := by
  intro store id hrun
  cases hwork : work.run store with
  | error error =>
      have herror := (run_bind_of_error hwork).symm.trans hrun
      cases herror
      exact h store id hwork
  | ok result => exact hnext result.1 result.2 id ((run_bind_of_ok hwork).symm.trans hrun)

/-- Looking does not fail. -/
theorem neverExpires_get : NeverExpires (get : Work Store) := by
  intro store id h
  cases h

/-- Putting another store in place does not fail. -/
theorem neverExpires_set (changed : Store) : NeverExpires (set changed : Work PUnit) := by
  intro store id h
  cases h

/-- Changing the store as a function says does not fail. -/
theorem neverExpires_modifyGet (f : Store → α × Store) :
    NeverExpires (modifyGet f : Work α) := by
  intro store id h
  cases h

/-- One of two pieces of work says nothing that neither of them says. -/
theorem NeverExpires.ite {p : Prop} [Decidable p] {other : Work α} (h : NeverExpires work)
    (hother : NeverExpires other) : NeverExpires (if p then work else other) := by
  split
  · exact h
  · exact hother

/-- Giving out a number may fail for lack of numbers only. -/
theorem neverExpires_nextNumber (last : Nat) : NeverExpires (nextNumber last) :=
  .ite (neverExpires_pure _) (neverExpires_throw fun _ => by simp)

/-- A queue that is not there is another error. -/
theorem neverExpires_requireQueue (queue : QueueId) : NeverExpires (requireQueue queue) := by
  refine .bind (.bind neverExpires_get fun store => ?_) fun _ => neverExpires_pure _
  dsimp only
  split
  · exact neverExpires_pure _
  · exact neverExpires_throw fun _ => by simp

/-- Closing a transaction may fail because it is closed. -/
theorem neverExpires_close (id : TransactionId) (target : TransactionState) (now : Instant)
    (reason : String) : NeverExpires (close id target now reason) :=
  (neverExpires_modifyGet _).bind fun _ =>
    .ite (neverExpires_pure _) (neverExpires_throw fun _ => by simp)

/-- Extending a transaction may fail because it is closed. -/
theorem neverExpires_extend (id : TransactionId) (expiry : Instant) :
    NeverExpires (extend id expiry) :=
  (neverExpires_modifyGet _).bind fun _ =>
    .ite (neverExpires_pure _) (neverExpires_throw fun _ => by simp)

/-- Undoing a transaction fails only when closing it does. -/
theorem neverExpires_unwind (id : TransactionId) (target : TransactionState) (reason : String)
    (now : Instant) : NeverExpires (unwind id target reason now) :=
  (neverExpires_close id target now reason).bind fun _ =>
    (neverExpires_modifyGet _).bind fun _ => (neverExpires_modifyGet _).bind fun _ =>
      neverExpires_pure _

/-- Moving messages out of a transaction's hands may break a rule about rows only. -/
theorem neverExpires_transitionOwned (owner : TransactionId) (action : TransactionAction)
    (target : MessageState) (now : Instant) :
    NeverExpires (Store.transitionOwned owner action target now) :=
  have hmoved {changed : Store} {rows : Nat} :
      NeverExpires (set changed >>= fun _ => pure rows : Work Nat) :=
    (neverExpires_set _).bind fun _ => neverExpires_pure _
  neverExpires_get.bind fun _ =>
    .ite ((neverExpires_throw fun _ => by simp).bind fun _ => hmoved) hmoved

/-- Committing a transaction fails only when a part of it does. -/
theorem neverExpires_commit (id : TransactionId) (now : Instant) : NeverExpires (commit id now) :=
  (neverExpires_transitionOwned _ _ _ _).bind fun _ =>
    (neverExpires_transitionOwned _ _ _ _).bind fun _ =>
      (neverExpires_close _ _ _ _).bind fun _ => neverExpires_pure _

/-- Adding a message may fail for other reasons. -/
theorem neverExpires_enqueue (draft : MessageDraft) : NeverExpires (enqueue draft) := by
  refine (neverExpires_requireQueue draft.queue).bind fun _ => neverExpires_get.bind fun store => ?_
  have hadded : NeverExpires (nextNumber store.lastMessage >>= fun number => do
      set { store with
        messages := store.messages ++ [draft.row ⟨number⟩], lastMessage := number }
      pure ⟨number⟩ : Work MessageId) :=
    (neverExpires_nextNumber _).bind fun _ => (neverExpires_set _).bind fun _ =>
      neverExpires_pure _
  exact .ite ((neverExpires_throw fun _ => by simp).bind fun _ => hadded) hadded

/-- Taking a message may fail for other reasons. -/
theorem neverExpires_dequeue (owner : TransactionId) (queue : QueueId) (now : Instant) :
    NeverExpires (dequeue owner queue now) := by
  refine (neverExpires_requireQueue queue).bind fun _ => neverExpires_get.bind fun store => ?_
  dsimp only
  split
  · exact neverExpires_pure _
  · have htaken {changed : Store} {answer : Option Message} :
        NeverExpires (set changed >>= fun _ => pure answer : Work (Option Message)) :=
      (neverExpires_set _).bind fun _ => neverExpires_pure _
    exact .ite ((neverExpires_throw fun _ => by simp).bind fun _ => htaken) htaken

end Work

namespace Move

variable {broker : Broker} {move : Move} {id : TransactionId}

/-- What a call under a transaction may come to, by its answer and the store after it: there was
something to object to, its storage transaction could not be begun, or it answers what working
under the transaction comes to, and leaves the store that this leaves. -/
def Owned (move : Move) (id : TransactionId) (broker : Broker)
    (result : Except Error move.Answer × Broker) : Prop :=
  (¬ move.WorksAt broker.clock ∧ ∃ why, result.1 = .error (.invalidArgument why)) ∨
    (broker.outages.hitsNext = true ∧ result.1 = .error (.storage .noConnection)) ∨
    ∃ (α : Type) (work : Work α) (conclude : α → move.Answer), work.NeverExpires ∧
      result.1 = ((Work.under id broker.clock work).finish broker.store).1.bind
        (Admitted.answer id conclude) ∧
      result.2.store = ((Work.under id broker.clock work).finish broker.store).2

/-- A call that is objected to does nothing else. -/
theorem owned_of_objection {α : Type} {result : Except Error α} {why : String}
    {next : α → Call move.Answer} (hresult : result = .error (.invalidArgument why))
    (hworks : ¬ move.WorksAt broker.clock) :
    move.Owned id broker ((Broker.check result >>= next).run broker) := by
  rw [Broker.run_bind_of_error (Broker.run_check_of_error hresult)]
  exact .inl ⟨hworks, why, rfl⟩

/-- Work under a transaction, with what comes after it, comes to what it comes to in its storage
transaction. -/
theorem owned_under {α : Type} {work : Work α} {finish : α → Call move.Answer}
    (conclude : α → move.Answer) (hwork : work.NeverExpires)
    (hfinish : ∀ answer broker, ∃ after,
      (finish answer).run broker = (.ok (conclude answer), after) ∧ after.store = broker.store) :
    move.Owned id broker ((Broker.under id broker.clock work >>= finish).run broker) := by
  cases hbegin : broker.outages.hitsNext with
  | true =>
      have hrun : (Broker.under id broker.clock work).run broker =
          (.error (.storage .noConnection), broker.begun) :=
        Broker.run_bind_of_error (Broker.run_inStorage_of_outage hbegin)
      rw [Broker.run_bind_of_error hrun]
      exact .inr (.inl ⟨hbegin, rfl⟩)
  | false =>
      refine .inr (.inr ⟨α, work, conclude, hwork, ?_⟩)
      cases hunder : (Work.under id broker.clock work).run broker.store with
      | error error =>
          have hrun : (Broker.under id broker.clock work).run broker =
              (.error error, broker.begun) :=
            Broker.run_bind_of_error (Broker.run_inStorage_of_error hbegin hunder)
          rw [Broker.run_bind_of_error hrun, Work.finish, hunder]
          exact ⟨rfl, rfl⟩
      | ok result =>
          obtain ⟨admitted, changed⟩ := result
          have hstorage := Broker.run_inStorage_of_ok hbegin hunder
          rw [Work.finish, hunder]
          cases admitted with
          | lapsed undone =>
              have hrun : ∃ after, (Broker.under id broker.clock work).run broker =
                  (.error (.expired id), after) ∧ after.store = changed :=
                ⟨_, Broker.run_bind_of_ok hstorage, rfl⟩
              obtain ⟨after, hrun, hstore⟩ := hrun
              rw [Broker.run_bind_of_error hrun]
              exact ⟨rfl, hstore⟩
          | done answer =>
              have hrun : (Broker.under id broker.clock work).run broker =
                  (.ok answer, { broker.begun with store := changed }) :=
                Broker.run_bind_of_ok hstorage
              obtain ⟨after, hafter, hstore⟩ :=
                hfinish answer { broker.begun with store := changed }
              rw [Broker.run_bind_of_ok hrun, hafter]
              exact ⟨rfl, hstore⟩

/-- Holding a claim lock makes no difference to what a call comes to. -/
theorem owned_holdingClaim {queue : QueueId} {call : Call move.Answer}
    (h : ∀ broker, move.Owned id broker (call.run broker)) :
    move.Owned id broker ((Broker.holdingClaim queue call).run broker) := by
  unfold Broker.holdingClaim
  simp only [ExceptT.run_mk]
  split
  · exact h broker
  · exact h { broker with locks := broker.locks.acquire () queue }

/-- A lifetime that ends nowhere is an invalid argument. -/
theorem expiryAfter_cases (now : Instant) (lifetime : Duration) :
    (∃ expiry, Broker.expiryAfter now lifetime = .ok expiry) ∨
      ∃ why, Broker.expiryAfter now lifetime = .error (.invalidArgument why) := by
  unfold Broker.expiryAfter
  split
  · exact .inr ⟨_, rfl⟩
  · split
    · exact .inl ⟨_, rfl⟩
    · exact .inr ⟨_, rfl⟩

/-- A new message in which there is a fault is an invalid argument. -/
theorem check_cases (new : NewMessage) :
    new.check = .ok () ∨ ∃ why, new.check = .error (.invalidArgument why) := by
  unfold NewMessage.check
  split
  · exact .inr ⟨_, rfl⟩
  · split
    · exact .inr ⟨_, rfl⟩
    · exact .inl rfl

/-- A message's lifetime that ends nowhere is an invalid argument. -/
theorem messageExpiry_cases (new : NewMessage) (now : Instant) :
    (∃ expiry, Broker.messageExpiry new now = .ok expiry) ∨
      ∃ why, Broker.messageExpiry new now = .error (.invalidArgument why) := by
  unfold Broker.messageExpiry
  split
  · exact .inl ⟨_, rfl⟩
  · split
    · exact .inl ⟨_, rfl⟩
    · exact .inr ⟨_, rfl⟩

/-- Every call under a transaction comes to what `Owned` says. -/
theorem owned (howner : move.owner? = some id) (broker : Broker) :
    move.Owned id broker (move.call.run broker) := by
  cases move with
  | extend owner lifetime =>
      cases howner
      rw [call, Broker.extend, Broker.run_now_bind]
      rcases expiryAfter_cases broker.clock lifetime with ⟨expiry, hexpiry⟩ | ⟨why, hwhy⟩
      · rw [Broker.run_bind_of_ok (Broker.run_check_of_ok hexpiry)]
        exact owned_under (fun _ => expiry) (Work.neverExpires_extend id expiry)
          fun _ _ => ⟨_, rfl, rfl⟩
      · refine owned_of_objection hwhy ?_
        rintro ⟨expiry, hexpiry⟩
        cases hexpiry.symm.trans hwhy
  | commit owner =>
      cases howner
      rw [call, Broker.commit, Broker.run_now_bind]
      exact owned_under (fun summary => summary) (Work.neverExpires_commit id broker.clock)
        fun _ _ => ⟨_, rfl, rfl⟩
  | rollback owner reason =>
      cases howner
      rw [call, Broker.rollback, Broker.run_now_bind]
      exact owned_under (fun undone => undone) (Work.neverExpires_unwind id _ _ _)
        fun _ _ => ⟨_, rfl, rfl⟩
  | enqueue owner queue new =>
      cases howner
      rw [call, Broker.enqueue]
      rcases check_cases new with hcheck | ⟨why, hwhy⟩
      · rw [Broker.run_bind_of_ok (Broker.run_check_of_ok hcheck), Broker.run_now_bind]
        rcases messageExpiry_cases new broker.clock with ⟨expiry, hexpiry⟩ | ⟨why, hwhy⟩
        · rw [Broker.run_bind_of_ok (Broker.run_check_of_ok hexpiry)]
          exact owned_under (fun id => id) (Work.neverExpires_enqueue _) fun _ _ => ⟨_, rfl, rfl⟩
        · refine owned_of_objection hwhy ?_
          rintro ⟨_, expiry, hexpiry⟩
          cases hexpiry.symm.trans hwhy
      · refine owned_of_objection hwhy ?_
        rintro ⟨hcheck, _⟩
        cases hcheck.symm.trans hwhy
  | dequeue owner queue =>
      cases howner
      rw [call, Broker.dequeue_eq]
      refine owned_holdingClaim fun broker => ?_
      rw [Broker.takeNext, Broker.run_now_bind]
      refine owned_under (fun message => message) (Work.neverExpires_dequeue id queue _) ?_
      intro answer broker
      cases answer <;> exact ⟨_, rfl, rfl⟩
  | _ => cases howner

/-- A call under a transaction that is neither open nor lapsed is refused, and leaves the store as
it was. -/
theorem answer_of_refused (howner : move.owner? = some id) (hworks : move.WorksAt broker.clock)
    (hbegin : broker.outages.hitsNext = false) (hopen : ¬ broker.store.IsOpen id broker.clock)
    (hlapsed : ¬ broker.store.HasLapsed id broker.clock) :
    move.answer broker = .error (broker.store.refusal id) ∧
      (move.after broker).store = broker.store := by
  rcases owned howner broker with ⟨hnot, _⟩ | ⟨hhit, _⟩ | ⟨α, work, conclude, _, hanswer, hstore⟩
  · exact absurd hworks hnot
  · cases hbegin.symm.trans hhit
  · rw [Work.finish, Work.run_under_of_refused work hopen hlapsed] at hanswer hstore
    exact ⟨hanswer, hstore⟩

/-- A call under a transaction that says that a transaction has expired says so of that one. The
transaction was known to have expired, and the store is as it was, or the call has come upon it
lapsed and has undone it. -/
theorem expiry_cases {other : TransactionId} (howner : move.owner? = some id)
    (hsaid : move.answer broker = .error (.expired other)) :
    other = id ∧
      ((∃ t, broker.store.transaction? id = some t ∧ t.state = .expired) ∧
          (move.after broker).store = broker.store ∨
        broker.store.HasLapsed id broker.clock ∧
          (move.after broker).store =
            (Change.undo id .expired expiredReason broker.clock).apply broker.store) := by
  rcases owned howner broker with
    ⟨_, why, hwhy⟩ | ⟨_, hfault⟩ | ⟨α, work, conclude, hwork, hanswer, hstore⟩
  · cases hwhy.symm.trans hsaid
  · cases hfault.symm.trans hsaid
  replace hanswer := hanswer.symm.trans hsaid
  by_cases hopen : broker.store.IsOpen id broker.clock
  · -- Under an open transaction the work is done, and it does not fail in this way.
    rw [Work.finish, Work.run_under_of_open work hopen, StateT.run_map] at hanswer
    cases hrun : work.run broker.store with
    | error error =>
        rw [hrun] at hanswer
        cases Except.error.inj hanswer
        exact absurd hrun (hwork broker.store other)
    | ok result =>
        rw [hrun] at hanswer
        cases hanswer
  · by_cases hlapsed : broker.store.HasLapsed id broker.clock
    · rw [Work.finish, Work.run_under_of_lapsed work hlapsed] at hanswer hstore
      cases hanswer
      exact ⟨rfl, .inr ⟨hlapsed, hstore⟩⟩
    · rw [Work.finish, Work.run_under_of_refused work hopen hlapsed] at hanswer hstore
      have hrefusal : broker.store.refusal id = .expired other := Except.error.inj hanswer
      rw [Store.refusal] at hrefusal
      cases hfind : broker.store.transaction? id with
      | none => rw [hfind] at hrefusal; cases hrefusal
      | some t =>
          rw [hfind] at hrefusal
          by_cases hstate : t.state = .expired
          · simp only [hstate, if_true] at hrefusal
            cases hrefusal
            exact ⟨rfl, .inl ⟨⟨t, rfl, hstate⟩, hstore⟩⟩
          · simp [hstate] at hrefusal

end Move

end WorkQueue
