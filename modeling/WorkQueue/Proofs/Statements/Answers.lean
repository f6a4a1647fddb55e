import WorkQueue.Proofs.Sending.Outcomes
import WorkQueue.Proofs.Statements.Columns
import WorkQueue.Proofs.Statements.Success
import WorkQueue.Proofs.Sweep.Restart

/-!
# Every call is answered

After every run, whatever is asked for next, no statement fails and no rule of the tables is broken:
a call answers, or fails with an error that clients are told about. What is stored can be read, and
is found by the numbers that are bound for it. Only a storage transaction that cannot be begun, or
a lack of further numbers, is an error of another kind: `statements_never_fail`.
-/

namespace WorkQueue

namespace Broker

variable {α β : Type} {call : Call α} {broker : Broker}

/-! ## Errors that clients are told about -/

/-- A check whose error clients are told about may come before a call. -/
theorem ordinary_check_bind {result : Except Error α} {next : α → Call β} (h : Ordinary result)
    (hnext : ∀ value, Ordinary ((next value).run broker).1) :
    Ordinary ((check result >>= next).run broker).1 := by
  cases result with
  | error error =>
      rw [run_bind_of_error (run_check_of_error rfl)]
      rintro _ ⟨⟩
      exact h error rfl
  | ok value =>
      rw [run_bind_of_ok (run_check_of_ok rfl)]
      exact hnext value

/-- The answer of a call may be put in other words. -/
theorem ordinary_map {f : α → β} (h : Ordinary (call.run broker).1) :
    Ordinary ((f <$> call).run broker).1 := by
  rw [map_eq_pure_bind]
  rcases hrun : call.run broker with ⟨error | answer, after⟩
  · rw [run_bind_of_error hrun]
    rw [hrun] at h
    rintro _ ⟨⟩
    exact h error rfl
  · rw [run_bind_of_ok hrun]
    exact nofun

/-- A sweep that meets no outage does not fail. -/
theorem ordinary_sweep (hcalm : broker.outages = {}) : Ordinary (sweep.run broker).1 := by
  have hsame : { broker with outages := {} } = broker := by rw [← hcalm]
  have hanswer := (run_sweepAt_undisturbed broker.clock broker).1
  rw [hsame] at hanswer
  rw [sweep, run_now_bind, hanswer]
  exact nofun

end Broker

namespace Service

open Broker

/-- What clients can ask of the service. -/
inductive Operation where
  | createQueue (text : String)
  | deleteQueue (ref : QueueRef)
  | queueInfo (ref : QueueRef)
  | listQueues
  | start (lifetime : Int)
  | extend (id : TransactionId) (lifetime : Int)
  | findTransaction (id : TransactionId)
  | commit (id : TransactionId)
  | rollback (id : TransactionId) (reason : String)
  | queueMessage (request : MessageRequest)
  | send (queue : QueueId) (new : NewMessage)
  | dequeue (owner : TransactionId) (queue : QueueId)
  | peek (queue : QueueId)
  | findMessage (id : MessageId)
  | count (queue : QueueId) (state : Option MessageState)
  | sweep
  deriving DecidableEq, Repr

namespace Operation

/-- What an operation answers. -/
abbrev Answer : Operation → Type
  | .createQueue _ => QueueId
  | .deleteQueue _ => Nat
  | .queueInfo _ => QueueInfo
  | .listQueues => List QueueInfo
  | .start _ => TransactionId
  | .extend _ _ => Instant
  | .findTransaction _ => Transaction
  | .commit _ => CommitSummary
  | .rollback _ _ => RollbackSummary
  | .queueMessage _ => MessageId
  | .send _ _ => MessageId
  | .dequeue _ _ => Option MessageView
  | .peek _ => Option MessageView
  | .findMessage _ => MessageView
  | .count _ _ => Nat
  | .sweep => SweepReport

/-- The call of the service that an operation is. -/
def call : (operation : Operation) → Reply operation.Answer
  | .createQueue text => Service.createQueue text
  | .deleteQueue ref => Service.deleteQueue ref
  | .queueInfo ref => Service.queueInfo ref
  | .listQueues => Service.listQueues
  | .start lifetime => Service.start lifetime
  | .extend id lifetime => Service.extend id lifetime
  | .findTransaction id => Service.findTransaction id
  | .commit id => Service.commit id
  | .rollback id reason => Service.rollback id reason
  | .queueMessage request => Service.queueMessage request
  | .send queue new => Service.send queue new
  | .dequeue owner queue => Service.dequeue owner queue
  | .peek queue => Service.peek queue
  | .findMessage id => Service.findMessage id
  | .count queue state => Service.count queue state
  | .sweep => Service.sweep

/-- Is there a number left for every row that the operation adds? -/
def HasRoom (store : Store) : Operation → Prop
  | .createQueue _ => store.lastQueue + 1 < half64
  | .start _ => store.lastTransaction + 1 < half64
  | .queueMessage _ => store.lastMessage + 1 < half64
  | .send _ _ => store.lastTransaction + 1 < half64 ∧ store.lastMessage + 1 < half64
  | _ => True

end Operation

variable {α : Type} {broker : Broker}

/-- Is the fault, if there is one, for an error that clients are told about? -/
def Plain (answer : Except Fault α) : Prop :=
  ∀ fault, answer = .error fault → fault.code ∈ ordinaryCodes

/-- A reply is plain if clients are told about the error of the call. -/
theorem plain_reply {call : Call α} (h : Ordinary (call.run broker).1) :
    Plain ((reply call).run broker).1 := by
  rcases hrun : call.run broker with ⟨error | answer, after⟩
  · rw [run_reply_of_error hrun]
    rw [hrun] at h
    rintro _ ⟨⟩
    exact h error rfl
  · rw [run_reply_of_ok hrun]
    exact nofun

/-- A number of minutes that is no lifetime is an invalid argument. -/
theorem ordinary_minutes (count : Int) : Ordinary (minutes count) := by
  refine ordinary_of_cases ?_
  unfold minutes
  split
  · exact .inr ⟨_, rfl⟩
  · split
    · exact .inl ⟨_, rfl⟩
    · exact .inr ⟨_, rfl⟩

/-- A request whose minutes are no lifetime is an invalid argument. -/
theorem ordinary_newMessage (request : MessageRequest) : Ordinary (newMessage request) := by
  rw [newMessage]
  cases request.expiryMinutes with
  | none => exact nofun
  | some count =>
      have hminutes := ordinary_minutes count
      rw [Option.mapM_some]
      cases hcount : minutes count with
      | error error =>
          rintro _ ⟨⟩
          exact hminutes error hcount
      | ok lifetime => exact nofun

/-- Sending a message is answered plainly: if anything is in the way of it, that is in the way of
starting its transaction or of adding the message. -/
theorem plain_send (hcalm : broker.outages = {}) (hsound : broker.store.Sound)
    (hnamed : broker.store.Named) {queue : QueueId} {new : NewMessage}
    (hroom : (Operation.send queue new).HasRoom broker.store) :
    Plain ((send queue new).run broker).1 := by
  let start := Move.start (Duration.ofSeconds 60)
  rcases Move.start_cases (Duration.ofSeconds 60) broker with
    ⟨error, _, hstart, _⟩ | ⟨expiry, _, hexpiry, _⟩
  · rw [send, run_bind_of_error (run_reply_of_error hstart)]
    rintro _ ⟨⟩
    exact start.ordinary_answer (begins_of_calm hcalm) (hsound.lawful hnamed) hroom.1 error
      (congrArg Prod.fst hstart)
  obtain ⟨begun, hstart, hopened, hclock, hpass⟩ :=
    exists_run_start (begins_of_calm hcalm) hexpiry hroom.1
  have hlawful : begun.store.Lawful := by
    have hbegun : start.after broker = begun := congrArg Prod.snd hstart
    exact hbegun ▸ (Step.sound_after ⟨broker, start⟩ hsound).lawful (start.named_after hnamed)
  have hroom' : begun.store.lastMessage + 1 < half64 := by
    rw [hopened]
    exact hroom.2
  generalize (broker.store.opening broker.clock expiry).id = owner at hstart
  rcases hadd : (Broker.enqueue owner queue new).run begun with ⟨error | id, filled⟩
  · obtain ⟨last, hundo⟩ := exists_run_undo owner error filled
    rw [send, run_bind_of_ok (run_reply_of_ok hstart), (run_lift_bind hadd).trans hundo]
    rintro _ ⟨⟩
    exact (Move.enqueue owner queue new).ordinary_answer
      (begins_of_calm (hpass.trans (pass_of_calm hcalm))) hlawful hroom' error
      (congrArg Prod.fst hadd)
  · obtain ⟨hcheck, lives, hlives, hqueue, _⟩ := allowed_of_run_enqueue hadd
    rw [hclock] at hlives
    rw [hopened] at hqueue
    have hcan : CanSend broker queue new := {
      queue_found := hqueue
      checked := hcheck
      ends := ⟨expiry, hexpiry⟩
      lives := ⟨lives, hlives⟩
      transactions_left := hroom.1
      messages_left := hroom.2
      begins := by rw [hcalm]; exact ⟨rfl, rfl, rfl⟩ }
    rw [hcan.answer hsound]
    rintro _ ⟨⟩

/-- Every operation is answered plainly when nothing is in its way. -/
theorem plain_call (operation : Operation) (hcalm : broker.outages = {})
    (hsound : broker.store.Sound) (hnamed : broker.store.Named)
    (hroom : operation.HasRoom broker.store) : Plain (operation.call.run broker).1 := by
  have hordinary (move : Move) (hroom : move.HasRoom broker.store) :
      Ordinary (move.call.run broker).1 :=
    move.ordinary_answer (begins_of_calm hcalm) (hsound.lawful hnamed) hroom
  cases operation with
  | createQueue text => exact plain_reply (hordinary (.createQueue text) hroom)
  | deleteQueue ref => exact plain_reply (hordinary (.deleteQueue ref) trivial)
  | queueInfo ref => exact plain_reply (ordinary_map (hordinary (.findQueue ref) trivial))
  | listQueues => exact plain_reply (ordinary_map (hordinary .listQueues trivial))
  | start lifetime =>
      exact plain_reply (ordinary_check_bind (ordinary_minutes lifetime) fun lifetime =>
        hordinary (.start lifetime) hroom)
  | extend id lifetime =>
      exact plain_reply (ordinary_check_bind (ordinary_minutes lifetime) fun lifetime =>
        hordinary (.extend id lifetime) trivial)
  | findTransaction id => exact plain_reply (hordinary (.findTransaction id) trivial)
  | commit id => exact plain_reply (hordinary (.commit id) trivial)
  | rollback id reason => exact plain_reply (hordinary (.rollback id reason) trivial)
  | queueMessage request =>
      exact plain_reply (ordinary_check_bind (ordinary_newMessage request) fun new =>
        hordinary (.enqueue request.transaction request.queue new) hroom)
  | send queue new => exact plain_send hcalm hsound hnamed hroom
  | dequeue owner queue =>
      exact plain_reply (ordinary_map (hordinary (.dequeue owner queue) trivial))
  | peek queue => exact plain_reply (ordinary_map (hordinary (.peek queue) trivial))
  | findMessage id => exact plain_reply (ordinary_map (hordinary (.findMessage id) trivial))
  | count queue state => exact plain_reply (hordinary (.count queue state) trivial)
  | sweep => exact plain_reply (ordinary_sweep hcalm)

end Service

namespace Broker

/-- After every run whose messages are of their widths, in which there may have been outages, but
with none to come: the rules of the tables hold, every row can be read, and rows are found by the
numbers that are bound for them. Every move issues statements none of which fails, of which each
finds what it is to change and leaves the rules unbroken, and comes to what these say; what it
answers is no error, or one that clients are told about. So is what the service answers, and a
sweep is always made. A call that adds a row needs a number for it. -/
theorem statements_never_fail (broker : Broker) (moves : List Move)
    (hmoves : ∀ move ∈ moves, move.Fits) :
    let reached := { play moves broker.emptied with outages := {} }
    reached.store.Lawful ∧ reached.store.Readable ∧
      (∀ move : Move, move.HasRoom reached.store →
        (move.script reached.clock).Passes (fun answer _ => Ordinary answer) reached.store ∧
        (move.answer reached, (move.after reached).store) =
          (move.script reached.clock).finish reached.store ∧
        Ordinary (move.answer reached)) ∧
      (∀ operation : Service.Operation, operation.HasRoom reached.store →
        ∀ fault, (operation.call.run reached).1 = .error fault → fault.code ∈ ordinaryCodes) ∧
      ∀ now, ∃ report, ((sweepAt now).run reached).1 = .ok report := by
  intro reached
  have hsound : reached.store.Sound := play_sound broker moves
  have hnamed : reached.store.Named := play_named broker moves
  have hfits : reached.store.Fits := fits_play hmoves Store.fits_empty
  have hlawful := hsound.lawful hnamed
  refine ⟨hlawful, hfits.readable hsound, fun move hroom => ⟨?_, ?_, ?_⟩, fun operation hroom => ?_,
    fun now => ?_⟩
  · exact move.passes_script reached.clock hlawful hroom
  · exact follows_script move rfl
  · exact move.ordinary_answer rfl hlawful hroom
  · exact Service.plain_call operation rfl hsound hnamed hroom
  · exact ⟨_, (run_sweepAt_undisturbed now (play moves broker.emptied)).1⟩

/-- A run that leaves a message in the hands of a transaction. -/
def messageInHand : List Move :=
  [.createQueue "jobs", .start (.ofSeconds 60),
    .enqueue ⟨1⟩ ⟨1⟩ { payload := [], priority := -5, maxAttempts := 4294967295 }, .commit ⟨1⟩,
    .start (.ofSeconds 60), .dequeue ⟨2⟩ ⟨1⟩]

/-- The message's row is held by its columns, its attempts being as many as these can hold. It is
used up when the transaction commits, and the statements for that go through; a transaction with the
highest number of all is not found. -/
theorem statements_never_fail_messageInHand :
    let reached := { play messageInHand (emptied { clock := ⟨0, 0⟩ }) with outages := {} }
    (reached.store.messages.map fun m =>
        (m.columns.owner, m.columns.action, m.columns.state, m.columns.maxAttempts)) =
      [(some 2, some "pull", "in_transaction", 2147483647)] ∧
      (∀ m ∈ reached.store.messages, m.columns.Fit ∧ m.columns.read = .ok m) ∧
      ((Move.commit ⟨2⟩).script reached.clock).Passes (fun answer _ => Ordinary answer)
        reached.store ∧
      (Move.commit ⟨2⟩).answer reached = .ok ⟨0, 1⟩ ∧
      (Move.commit ⟨18446744073709551615⟩).answer reached =
        .error (.notFound "transaction#18446744073709551615") := by
  have hmoves : ∀ move ∈ messageInHand, move.Fits := by
    intro move hmove
    simp only [messageInHand, List.mem_cons, List.not_mem_nil, or_false] at hmove
    rcases hmove with rfl | rfl | rfl | rfl | rfl | rfl <;> simp [Move.Fits, Fits32, Fits64]
  obtain ⟨_, hreadable, hmoves, _⟩ := statements_never_fail { clock := ⟨0, 0⟩ } messageInHand hmoves
  exact ⟨by decide +kernel, hreadable.messages, (hmoves (.commit ⟨2⟩) trivial).1,
    by decide +kernel, by decide +kernel⟩

end Broker

end WorkQueue
