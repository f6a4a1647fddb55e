import WorkQueue.Proofs.Sending.Outcomes
import WorkQueue.Proofs.Time.Minutes
import WorkQueue.Proofs.Visibility.Barrier

/-!
# What is given with a message stays with it

A message is added by a call of the broker, by a request to the service, or by sending it. From then
on, as long as the message is there, every call that shows it shows what was given with it, whatever
has become of the message meanwhile: `content_kept`. What a call shows is compared with what was
given column by column (`Message.MadeOf`), so that no column can stand in for another, and the
columns that changes leave alone are the message's content, which outlasts every change. A message
that is sent while others make their calls is one that was added under its transaction by the
broker, so that the theorem holds of it as well.
-/

namespace WorkQueue

/-- A call that adds a message. -/
inductive Posting where
  /-- To the broker, under a transaction. -/
  | enqueue (owner : TransactionId) (queue : QueueId) (new : NewMessage)
  /-- To the service, under a transaction, with a lifetime in minutes. -/
  | queueMessage (request : MessageRequest)
  /-- To the service, under a transaction of its own. -/
  | send (queue : QueueId) (new : NewMessage)
  deriving DecidableEq, Repr

namespace Posting

/-- The queue that the message is for. -/
def queue : Posting → QueueId
  | .enqueue _ queue _ | .send queue _ => queue
  | .queueMessage request => request.queue

/-- What is given with the message. -/
def given : Posting → NewMessage
  | .enqueue _ _ new | .send _ new => new
  | .queueMessage request =>
      { payload := request.payload
        metadata := request.metadata
        priority := request.priority
        maxAttempts := request.maxAttempts
        lifetime := request.expiryMinutes.map fun minutes => .ofSeconds (60 * minutes)
        correlation := request.correlation
        group := request.group }

/-- Make the call: the number of the message, if it answers, and the broker after it. -/
def run (posting : Posting) (broker : Broker) : Option MessageId × Broker :=
  match posting with
  | .enqueue owner queue new => ((Broker.enqueue owner queue new).run broker).map Except.toOption id
  | .queueMessage request => ((Service.queueMessage request).run broker).map Except.toOption id
  | .send queue new => ((Service.send queue new).run broker).map Except.toOption id

end Posting

/-- Does the message show what was given with it, and when? -/
structure Message.MadeOf (m : Message) (queue : QueueId) (new : NewMessage) (now : Instant) :
    Prop where
  queue_eq : m.queue = queue
  payload_eq : m.payload = new.payload
  metadata_eq : m.metadata = new.metadata
  priority_eq : m.priority = new.priority
  correlation_eq : m.correlation = new.correlation
  group_eq : m.group = new.group
  addTime_eq : m.addTime = now
  expiryTime_eq : m.expiryTime = new.lifetime.map now.shift
  maxAttempts_eq : m.maxAttempts = min new.maxAttempts (2 ^ 31 - 1)

/-- A message that a call on the broker or on its service shows. -/
inductive Broker.Shows (broker : Broker) : Message → Prop where
  | found {m : Message} (id : MessageId) :
      (Move.findMessage id).answer broker = .ok m → Shows broker m
  | peeked {m : Message} (queue : QueueId) :
      (Move.peek queue).answer broker = .ok (some m) → Shows broker m
  | taken {m : Message} (owner : TransactionId) (queue : QueueId) :
      (Move.dequeue owner queue).answer broker = .ok (some m) → Shows broker m
  | viewFound {m : Message} (id : MessageId) :
      ((Service.findMessage id).run broker).1 = .ok m.view → Shows broker m
  | viewPeeked {m : Message} (queue : QueueId) :
      ((Service.peek queue).run broker).1 = .ok (some m.view) → Shows broker m
  | viewTaken {m : Message} (owner : TransactionId) (queue : QueueId) :
      ((Service.dequeue owner queue).run broker).1 = .ok (some m.view) → Shows broker m

/-! ## Rows -/

namespace Message.MadeOf

variable {m kept : Message} {queue : QueueId} {new : NewMessage} {now : Instant}
  {owner : TransactionId} {lives : Option Instant}

/-- What a message shows is part of its content. -/
theorem of_content (h : m.MadeOf queue new now) (hcontent : kept.content = m.content) :
    kept.MadeOf queue new now where
  queue_eq := (congrArg Message.queue hcontent).trans h.queue_eq
  payload_eq := (congrArg Message.payload hcontent).trans h.payload_eq
  metadata_eq := (congrArg Message.metadata hcontent).trans h.metadata_eq
  priority_eq := (congrArg Message.priority hcontent).trans h.priority_eq
  correlation_eq := (congrArg Message.correlation hcontent).trans h.correlation_eq
  group_eq := (congrArg Message.group hcontent).trans h.group_eq
  addTime_eq := (congrArg Message.addTime hcontent).trans h.addTime_eq
  expiryTime_eq := (congrArg Message.expiryTime hcontent).trans h.expiryTime_eq
  maxAttempts_eq := (congrArg Message.maxAttempts hcontent).trans h.maxAttempts_eq

/-- A message's lifetime ends so long after the message was added. -/
theorem lives_eq (h : Broker.messageExpiry new now = .ok lives) :
    lives = new.lifetime.map now.shift := by
  unfold Broker.messageExpiry Instant.shift? at h
  cases hlifetime : new.lifetime with
  | none =>
      rw [hlifetime] at h
      cases h
      rfl
  | some lifetime =>
      rw [hlifetime] at h
      dsimp only at h
      split at h
      · next hmoved =>
          split at hmoved
          · cases hmoved; cases h; rfl
          · cases hmoved
      · cases h

/-- A new row shows what was given with the message. -/
theorem row (h : Broker.messageExpiry new now = .ok lives) (id : MessageId) :
    ((new.draft queue owner now lives).row id).MadeOf queue new now where
  queue_eq := rfl
  payload_eq := rfl
  metadata_eq := rfl
  priority_eq := rfl
  correlation_eq := rfl
  group_eq := rfl
  addTime_eq := rfl
  expiryTime_eq := lives_eq h
  maxAttempts_eq := rfl

end Message.MadeOf

/-! ## Adding a message -/

namespace Posting

/-- A call that answers a number has the answer of its program. -/
theorem run_of_toOption {α ε : Type} {result : Except ε α × Broker} {answer : α} {after : Broker}
    (h : result.map Except.toOption id = (some answer, after)) : result = (.ok answer, after) := by
  rcases result with ⟨error | found, left⟩
  · cases h
  · cases h
    rfl

variable {broker after : Broker} {id : MessageId}

/-- Is the message there, and does the store tell of it what was given with it? -/
structure Leaves (posting : Posting) (now : Instant) (id : MessageId) (store : Store) : Prop where
  sound : store.Sound
  tells : store.Tells id fun m => m.MadeOf posting.queue posting.given now
  present : ∃ m ∈ store.messages, m.id = id

/-- A message that the broker has added shows what was given with it. -/
theorem leaves_of_run_enqueue (posting : Posting) (hsound : broker.store.Sound)
    {owner : TransactionId} {queue : QueueId} {new : NewMessage}
    (h : (Broker.enqueue owner queue new).run broker = (.ok id, after))
    (hqueue : posting.queue = queue) (hgiven : posting.given = new) :
    posting.Leaves broker.clock id after.store := by
  obtain ⟨change, hallowed, hcomes, hstore⟩ := (Move.enqueue owner queue new).explained broker
  rw [Move.call, h] at hcomes hstore
  cases hcomes with
  | looked _ _ hlook => cases hlook
  | added _ _ _ lives hlives =>
      have hafter := Change.sound_apply hallowed hsound
      have hnew : (new.draft queue owner broker.clock lives).row ⟨broker.store.lastMessage + 1⟩ ∈
          ((Change.add (new.draft queue owner broker.clock lives)).apply broker.store).messages :=
        Change.mem_messages_apply.2 (.inr (List.mem_singleton.2 rfl))
      rw [← hstore] at hafter hnew
      subst hqueue hgiven
      exact ⟨hafter, hafter.numbered.tells hnew (.row hlives _), _, hnew, rfl⟩

/-- A request is for the message that is given with it. -/
theorem given_of_newMessage {request : MessageRequest} {new : NewMessage}
    (h : Service.newMessage request = .ok new) : (Posting.queueMessage request).given = new := by
  unfold Service.newMessage at h
  cases hminutes : request.expiryMinutes with
  | none =>
      rw [hminutes] at h
      cases h
      simp only [given, hminutes, Option.map_none]
  | some count =>
      rw [hminutes] at h
      cases hcount : Service.minutes count with
      | error error =>
          simp only [Option.mapM_some, hcount] at h
          cases h
      | ok lifetime =>
          obtain ⟨_, rfl⟩ := Service.minutes_of_ok hcount
          simp only [Option.mapM_some, hcount] at h
          cases h
          simp only [given, hminutes, Option.map_some]

/-- A message that was sent shows what was given with it. -/
theorem leaves_of_run_send (hsound : broker.store.Sound) {queue : QueueId} {new : NewMessage}
    (h : (Service.send queue new).run broker = (.ok id, after)) :
    (Posting.send queue new).Leaves broker.clock id after.store := by
  have hafter : after.store.Sound := by
    have hkept : ((Service.send queue new).run broker).2.store.Sound :=
      (Service.isRun_send queue new).store
        (fun _ _ hallowed hsound => Change.sound_apply hallowed hsound) hsound
    rw [h] at hkept
    exact hkept
  have hsent := Service.sendsTo hsound queue new
  rw [h] at hsent
  generalize hstore : after.store = store at hsent hafter
  cases hsent with
  | sent expiry lives hexpiry hlives =>
      let row := (broker.store.adding broker.clock expiry lives queue new).moveTo .active
        broker.clock
      have hnew : row ∈ broker.store.messages ++ [row] :=
        List.mem_append_right _ (List.mem_singleton.2 rfl)
      have hadded : (broker.store.adding broker.clock expiry lives queue new).MadeOf queue new
          broker.clock :=
        .row hlives ⟨broker.store.lastMessage + 1⟩
      have hmade : row.MadeOf queue new broker.clock := hadded.of_content rfl
      exact ⟨hafter, hafter.numbered.tells hnew hmade, row, hnew, rfl⟩

/-- A message that was added shows what was given with it. -/
theorem leaves_of_run (posting : Posting) (hsound : broker.store.Sound)
    (h : posting.run broker = (some id, after)) :
    posting.Leaves broker.clock id after.store := by
  cases posting with
  | enqueue owner queue new =>
      exact leaves_of_run_enqueue _ hsound (run_of_toOption h) rfl rfl
  | send queue new => exact leaves_of_run_send hsound (run_of_toOption h)
  | queueMessage request =>
      have hrun : (Broker.check (Service.newMessage request) >>= fun new =>
          Broker.enqueue request.transaction request.queue new).run broker = (.ok id, after) :=
        Service.run_of_run_reply (run_of_toOption h)
      cases hnew : Service.newMessage request with
      | error error =>
          rw [Broker.run_bind_of_error (Broker.run_check_of_error hnew)] at hrun
          cases hrun
      | ok new =>
          rw [Broker.run_bind_of_ok (Broker.run_check_of_ok hnew)] at hrun
          exact leaves_of_run_enqueue _ hsound hrun rfl (given_of_newMessage hnew)

/-- What is given with a message outlasts every change. -/
theorem tells_apply {posting : Posting} {now : Instant} {store : Store} {change : Change}
    (hallowed : change.Allowed store) (hnumbered : store.Numbered)
    (h : store.Tells id fun m => m.MadeOf posting.queue posting.given now) :
    (change.apply store).Tells id fun m => m.MadeOf posting.queue posting.given now :=
  h.apply hallowed hnumbered fun _ _ _ _ hmade hfate => hmade.of_content hfate.content_eq

end Posting

/-! ## Showing a message -/

namespace Broker

variable {broker : Broker} {m : Message}

/-- A message is found if it is there. -/
theorem run_findMessage (store : Store) (id : MessageId) :
    (Work.findMessage id).run store =
      match store.message? id with
      | some m => .ok (m, store)
      | none => .error (.notFound id.display) := by
  rw [Work.findMessage, Work.run_get_bind]
  cases store.message? id <;> rfl

/-- A message that is found is there. -/
theorem mem_of_findMessage {id : MessageId} (h : (Move.findMessage id).answer broker = .ok m) :
    m ∈ broker.store.messages := by
  have hrun : ((inStorage (Work.findMessage id)).run broker).1 = .ok m := h
  rcases inStorage_cases (Work.findMessage id) broker with
    ⟨error, after, hfailed, _⟩ | ⟨answer, changed, hwork, hdone⟩
  · cases (congrArg Prod.fst hfailed).symm.trans hrun
  · cases (congrArg Prod.fst hdone).symm.trans hrun
    rw [run_findMessage] at hwork
    cases hfind : broker.store.message? id with
    | none =>
        rw [hfind] at hwork
        cases hwork
    | some row =>
        rw [hfind] at hwork
        cases hwork
        exact (Store.message?_eq_some hfind).1

/-- A message that is there is found. -/
theorem answer_findMessage {id : MessageId} (hbegin : broker.outages.hitsNext = false)
    (h : broker.store.message? id = some m) : (Move.findMessage id).answer broker = .ok m := by
  have hwork : (Work.findMessage id).run broker.store = .ok (m, broker.store) := by
    rw [run_findMessage, h]
  exact congrArg Prod.fst (run_inStorage_of_ok hbegin hwork)

/-- A message that is delivered shows the content of a row. -/
theorem exists_row_of_dequeue {owner : TransactionId} {queue : QueueId}
    (h : (Move.dequeue owner queue).answer broker = .ok (some m)) :
    ∃ row ∈ broker.store.messages, m.content = row.content := by
  obtain ⟨change, hallowed, hcomes, _⟩ := (Move.dequeue owner queue).explained broker
  rw [Move.answer] at h
  generalize ((Move.dequeue owner queue).call.run broker).1 = shown at h hcomes
  cases hcomes with
  | refused | lapsed | tookNothing => cases h
  | looked _ _ hlook => cases hlook
  | took _ row =>
      cases h
      exact ⟨row, (Store.nextMessage?_eq_some hallowed.1).1, rfl⟩

/-- A reply that shows an answer is to a call that has given it. -/
theorem answer_of_run_reply_map {α β : Type} {shown : α → β} {call : Call α} {seen : β}
    (h : ((Service.reply (shown <$> call)).run broker).1 = .ok seen) :
    ∃ answer, (call.run broker).1 = .ok answer ∧ shown answer = seen := by
  rw [Service.answer_run_reply, answer_run_map] at h
  cases hcall : (call.run broker).1 with
  | error error => rw [hcall] at h; cases h
  | ok answer =>
      rw [hcall] at h
      exact ⟨answer, rfl, Except.ok.inj h⟩

/-- What a call shows of a message is the content of a row. -/
theorem Shows.exists_row (h : broker.Shows m) :
    ∃ row ∈ broker.store.messages, m.content = row.content := by
  cases h with
  | found id hshown => exact ⟨m, mem_of_findMessage hshown, rfl⟩
  | peeked queue hshown => exact ⟨m, (Move.mem_of_peek hshown).1, rfl⟩
  | taken owner queue hshown => exact exists_row_of_dequeue hshown
  | viewFound id hshown =>
      obtain ⟨row, hrow, hview⟩ := answer_of_run_reply_map hshown
      exact ⟨row, mem_of_findMessage hrow, (congrArg _ (Message.view_injective hview)).symm⟩
  | viewPeeked queue hshown =>
      obtain ⟨found, hfound, hview⟩ := answer_of_run_reply_map hshown
      obtain ⟨row, rfl, hrow⟩ := Option.map_eq_some_iff.1 hview
      obtain rfl := Message.view_injective hrow
      exact ⟨row, (Move.mem_of_peek hfound).1, rfl⟩
  | viewTaken owner queue hshown =>
      obtain ⟨found, hfound, hview⟩ := answer_of_run_reply_map hshown
      obtain ⟨row, rfl, hrow⟩ := Option.map_eq_some_iff.1 hview
      obtain rfl := Message.view_injective hrow
      exact exists_row_of_dequeue hfound

/-- After every run, let a message be added, in any of the three ways: then it is there. Let there
be any moves after that. Whatever shows the message then shows what was given with it, and the
instant at which it was added; and the message is found by its number as long as it is there and
storage transactions can be begun. -/
theorem content_kept (broker : Broker) (moves later : List Move) (posting : Posting)
    (id : MessageId) (after : Broker)
    (hadded : posting.run (play moves broker.emptied) = (some id, after)) :
    let now := (play moves broker.emptied).clock
    let reached := play later after
    (∃ m ∈ after.store.messages, m.id = id) ∧
      (∀ m, reached.Shows m → m.id = id → m.MadeOf posting.queue posting.given now) ∧
      ∀ m ∈ reached.store.messages, m.id = id →
        m.MadeOf posting.queue posting.given now ∧
          (reached.outages.hitsNext = false →
            (Move.findMessage id).answer reached = .ok m ∧
              ((Service.findMessage id).run reached).1 = .ok m.view) := by
  intro now reached
  have hleft := posting.leaves_of_run (play_sound broker moves) hadded
  have hreached : reached.store.Sound ∧
      reached.store.Tells id fun m => m.MadeOf posting.queue posting.given now :=
    play_store (fun store => store.Sound ∧
        store.Tells id fun m => m.MadeOf posting.queue posting.given now)
      (fun _ _ hallowed h => ⟨Change.sound_apply hallowed h.1,
        Posting.tells_apply hallowed h.1.numbered h.2⟩)
      later ⟨hleft.sound, hleft.tells⟩
  obtain ⟨hsound, htells⟩ := hreached
  refine ⟨hleft.present, fun m hshown hid => ?_, fun m hm hid => ?_⟩
  · obtain ⟨row, hrow, hcontent⟩ := hshown.exists_row
    exact (htells.told row hrow ((Message.id_eq_of_content hcontent).symm.trans hid)).of_content
      hcontent
  · refine ⟨htells.told m hm hid, fun hbegin => ?_⟩
    have hfound : (Move.findMessage id).answer reached = .ok m :=
      answer_findMessage hbegin (hid ▸ hsound.numbered.message?_eq hm)
    refine ⟨hfound, ?_⟩
    rw [Service.findMessage, Service.answer_run_reply, answer_run_map]
    show (((Move.findMessage id).answer reached).map Message.view).mapError Fault.ofError = _
    rw [hfound]
    rfl

/-- A request with more attempts than the store keeps, and with something in every column. -/
def fullRequest : MessageRequest where
  transaction := ⟨1⟩
  queue := ⟨1⟩
  payload := [0, 255]
  metadata := "m"
  priority := -5
  maxAttempts := 3_000_000_000
  expiryMinutes := some 10
  correlation := -7
  group := some "g"

/-- A run that commits the message of a request, and in which it is taken twice: it is given back by
a rollback and then by a sweep, with the clock set back meanwhile. -/
def givenBackTwice : List Move :=
  [.commit ⟨1⟩, .start (.ofSeconds 60), .dequeue ⟨2⟩ ⟨1⟩, .rollback ⟨2⟩ "", .setClock ⟨0, 0⟩,
    .start (.ofSeconds 60), .dequeue ⟨3⟩ ⟨1⟩, .sweep .transactions ⟨60, 0⟩,
    .sweep .orphanedPulls ⟨60, 0⟩]

/-- The message is shown with two attempts, and with what was given during a leap second. -/
theorem content_kept_givenBackTwice :
    let clock : Instant := ⟨59, 1_500_000_000⟩
    let found := play [.createQueue "q", .start (.ofSeconds 60)] (emptied { clock })
    let reached := play givenBackTwice ((Posting.queueMessage fullRequest).run found).2
    ∃ m, (Move.peek ⟨1⟩).answer reached = .ok (some m) ∧ m.attempts = 2 ∧
      m.MadeOf ⟨1⟩ (Posting.queueMessage fullRequest).given found.clock ∧ m.addTime = clock ∧
      m.expiryTime = some ⟨659, 500_000_000⟩ ∧ m.maxAttempts = 2147483647 := by
  intro clock found reached
  have hadded : (Posting.queueMessage fullRequest).run found =
      (some ⟨1⟩, ((Posting.queueMessage fullRequest).run found).2) :=
    Prod.ext (by decide +kernel) rfl
  obtain ⟨_, hshows, _⟩ := content_kept { clock } [.createQueue "q", .start (.ofSeconds 60)]
    givenBackTwice (.queueMessage fullRequest) ⟨1⟩ _ hadded
  have hpeeked : (Move.peek ⟨1⟩).answer reached =
      .ok (some ⟨⟨1⟩, ⟨1⟩, none, none, .active, clock, none, -5, 2147483647, 2,
        some ⟨659, 500_000_000⟩, -7, some "g", "m", [0, 255]⟩) := by decide +kernel
  exact ⟨_, hpeeked, rfl, hshows _ (.peeked ⟨1⟩ hpeeked) rfl, rfl, rfl, rfl⟩

end Broker

end WorkQueue
