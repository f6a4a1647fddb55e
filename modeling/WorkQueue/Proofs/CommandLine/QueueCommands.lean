import WorkQueue.Proofs.CommandLine.Scripts
import WorkQueue.Proofs.Queues.Neighbours

/-!
# Commands about a queue

Commands about a queue are given a word for it. What such a command does depends on the queue that
the word means and not on the word itself, which is at most repeated; it leaves all other queues
alone. If the word means no queue the command fails, and leaves the store alone. So whether a word
addresses a queue is seen from what it means: `addresses_of_meant` and `addressesNone_of_meant`.
-/

namespace WorkQueue.CommandLine

open CommandLine.Script

/-- The commands that are about a queue, but for the word that is given for it. -/
inductive QueueCommand where
  | info
  | stats
  | delete
  | send (sending : Sending)
  | receive (rollback : Bool) (minutes : Int)
  | peek
  deriving DecidableEq, Repr

/-- Receive a message from a queue that is known. -/
def receiveFrom (queue : QueueId) (rollback : Bool) (minutes : Int) : Script Unit := do
  let owner ← change (Service.start minutes)
  match ← service (Service.dequeue owner queue) with
  | none =>
      let _ ← service (Service.rollback owner "nothing to receive")
      printLine "Queue is empty."
  | some message =>
      printMessage message
      if rollback then
        let undone ← service (Service.rollback owner "released by operator")
        printLine (if 0 < undone.exhausted then "Rolled back; message is out of attempts."
          else "Rolled back; message returned to the queue.")
      else
        let _ ← service (Service.commit owner)
        printLine "Committed."

namespace QueueCommand

/-- The command with a word for the queue. -/
def about (word : String) : QueueCommand → Command
  | .info => .queueInfo word
  | .stats => .queueStats word
  | .delete => .deleteQueue word
  | .send sending => .send word sending
  | .receive rollback minutes => .receive word rollback minutes
  | .peek => .peekQueue word

/-- What the command does with a queue. The word for it is only repeated. -/
def on (queue : Queue) (word : String) : QueueCommand → Script Unit
  | .info => do
      printLine (queueLine "ID" "NAME")
      printLine (queueLine (toString queue.id.value) queue.name)
  | .stats => do
      printStats (← withBroker (Broker.stats (.byId queue.id)) Error.message)
  | .delete => do
      let removed ← change (Service.deleteQueue (.byId queue.id))
      printLine ("Deleted " ++ word ++ " (" ++ toString removed ++ " message(s) removed)")
  | .send sending => do
      let new ← ExceptT.mk (pure sending.newMessage)
      attempt (Service.start 1)
      let id ← service (Service.send queue.id new)
      printLine ("Sent: " ++ id.display)
  | .receive rollback minutes => receiveFrom queue.id rollback minutes
  | .peek => do
      printNext (← service (Service.peek queue.id))

end QueueCommand

variable {session : Session} {queue : Queue} {word : String}

/-- The queue that is meant is shown. -/
theorem run_queueInfo_of_meant (hcalm : session.broker.outages = {})
    (hmeant : session.broker.store.meant (queueRef word) = .ok queue) :
    (service (Service.queueInfo (queueRef word))).run session = (.ok queue.info, session) := by
  have hsame : session.broker.begun = session.broker := by
    rw [Broker.begun, Broker.pass_of_calm hcalm, ← hcalm]
  have hfind := Broker.run_findQueue_of_meant (Broker.begins_of_calm hcalm) hmeant
  rw [hsame] at hfind
  have hinfo : (Queue.info <$> Broker.findQueue (queueRef word)).run session.broker =
      (.ok queue.info, session.broker) := by
    rw [map_eq_pure_bind, Broker.run_bind_of_ok hfind]
    rfl
  rw [service, run_withBroker, Service.queueInfo, Service.run_reply_of_ok hinfo]
  rfl

/-- The number of the queue that is meant is found. -/
theorem run_resolve_of_meant (hcalm : session.broker.outages = {})
    (hmeant : session.broker.store.meant (queueRef word) = .ok queue) :
    (resolve word).run session = (.ok queue.id, session) :=
  Broker.run_bind_of_ok (run_queueInfo_of_meant hcalm hmeant)

/-- A command does what it does with the queue that its word means. -/
theorem QueueCommand.run_about_of_meant (command : QueueCommand) (session : Session)
    (hnumbered : session.broker.store.Numbered) (hcalm : session.broker.outages = {})
    (hmeant : session.broker.store.meant (queueRef word) = .ok queue) :
    (command.about word).script.run session = (command.on queue word).run session := by
  have hnumber := hnumbered.meant_byId (Store.mem_of_meant hmeant)
  have hresolve := run_resolve_of_meant hcalm hmeant
  cases command with
  | info =>
      refine (Broker.run_bind_of_ok (run_queueInfo_of_meant hcalm hmeant)).trans ?_
      rw [on, Queue.info]
  | stats =>
      refine Broker.run_bind_congr ?_
      simp only [run_withBroker, Broker.run_stats_congr hmeant hnumber]
  | delete =>
      refine Broker.run_bind_congr (run_change_congr ?_)
      exact Service.run_reply_congr (Broker.run_deleteQueue_congr hmeant hnumber)
  | send sending => exact Broker.run_bind_of_ok hresolve
  | receive rollback minutes => exact Broker.run_bind_of_ok hresolve
  | peek => exact Broker.run_bind_of_ok hresolve

/-- A command whose word means no queue is refused. -/
theorem QueueCommand.refuses_about (command : QueueCommand) (session : Session)
    (hcalm : session.broker.outages = {}) {error : Error}
    (hmeant : session.broker.store.meant (queueRef word) = .error error) :
    Refuses (command.about word).script session := by
  have hbegin := Broker.begins_of_calm hcalm
  have hinfo : Refuses (service (Service.queueInfo (queueRef word))) session := by
    obtain ⟨hanswer, hstore⟩ := Broker.findQueue_meant (queueRef word) hbegin
    have hfailed : ((Broker.findQueue (queueRef word)).run session.broker).1 = .error error :=
      hanswer.trans hmeant
    refine refuses_withBroker Fault.display (Fault.ofError error) ?_ ?_
    · rw [Service.queueInfo, Service.answer_run_reply, Broker.answer_run_map, hfailed]
      rfl
    · rw [Service.queueInfo, Service.store_run_reply, Broker.store_run_map]
      exact hstore
  have hresolve : Refuses (resolve word) session := hinfo.bind _
  cases command with
  | info => exact hinfo.bind _
  | stats =>
      obtain ⟨hanswer, hstore⟩ := Broker.stats_meant (queueRef word) hbegin
      rw [hmeant] at hanswer
      exact (refuses_withBroker Error.message error hanswer hstore).bind _
  | delete =>
      obtain ⟨hanswer, hstore, _⟩ := Broker.deleteQueue_meant (queueRef word) hbegin
      rw [hmeant] at hanswer hstore
      have hfailed : ((Broker.deleteQueue (queueRef word)).run session.broker).1 = .error error :=
        hanswer
      refine (refuses_change (Fault.ofError error) ?_ ?_).bind _
      · rw [Service.deleteQueue, Service.answer_run_reply, hfailed]
        rfl
      · rw [Service.deleteQueue, Service.store_run_reply]
        exact hstore.trans (Change.apply_nothing _)
  | send sending => exact hresolve.bind _
  | receive rollback minutes => exact hresolve.bind _
  | peek => exact hresolve.bind _

/-! ## What commands leave alone -/

variable {store : Store} {owner : TransactionId}

/-- Have the other queues been left alone, and does the transaction hold nothing of them? -/
structure WorksIn (store : Store) (queue : QueueId) (owner : TransactionId) (after : Store) :
    Prop where
  beside : store.SameBeside queue after
  holds : after.HoldsOnly owner queue
  sound : after.Sound

/-- Starting a transaction leaves all queues alone, and the transaction holds nothing yet. -/
theorem ensures_start (hsound : store.Sound) (queue : QueueId) (minutes : Int) :
    Ensures (· = store) (change (Service.start minutes)) (WorksIn store queue)
      (store.SameBeside queue) := by
  refine (ensures_reply ?_).change fun _ hsame => hsame ▸ .refl queue store
  rintro broker rfl
  cases hminutes : Service.minutes minutes with
  | error error =>
      rw [Broker.run_bind_of_error (Broker.run_check_of_error rfl)]
      exact .refl queue _
  | ok lifetime =>
      rw [Broker.run_bind_of_ok (Broker.run_check_of_ok rfl)]
      rcases Move.start_cases lifetime broker with
        ⟨error, after, hstart, hstore⟩ | ⟨expiry, after, _, hstart, hstore, _⟩
      · rw [hstart]
        exact hstore ▸ .refl queue _
      · have hafter : (Move.start lifetime).after broker = after := congrArg Prod.snd hstart
        have hsound' : after.store.Sound :=
          hafter ▸ Step.sound_after ⟨broker, .start lifetime⟩ hsound
        rw [hstart]
        show WorksIn broker.store queue _ after.store
        rw [hstore] at hsound' ⊢
        exact ⟨broker.store.sameBeside_plus _ (List.forall_mem_nil _),
          hsound.holdsOnly_opening _ _ queue, hsound'⟩

/-- A call under the transaction, about no queue or this one, goes on leaving the others alone. -/
theorem WorksIn.after {queue : QueueId} {broker : Broker}
    (h : WorksIn store queue owner broker.store) (move : Move) (howner : move.owner? = some owner)
    (hqueue : ∀ named, move.queue? = some named → named = queue) :
    WorksIn store queue owner (move.after broker).store := by
  obtain ⟨hbeside, hholds, hsound⟩ := move.sameBeside_after h.sound howner hqueue h.holds
  exact ⟨h.beside.trans hbeside, hholds, hsound⟩

/-- Replying to such a call goes on leaving the other queues alone. -/
theorem ensures_reply_move (store : Store) (queue : QueueId) (move : Move)
    (howner : move.owner? = some owner)
    (hqueue : ∀ named, move.queue? = some named → named = queue) :
    Ensures (WorksIn store queue owner) (service (Service.reply move.call))
      (fun _ => WorksIn store queue owner) (store.SameBeside queue) := by
  refine ensures_of_store ?_ fun _ h => h.beside
  intro broker h
  rw [Service.store_run_reply]
  exact h.after move howner hqueue

/-- Receiving a message from a queue leaves the others alone. -/
theorem ensures_receiveFrom (hsound : store.Sound) (queue : QueueId) (rollback : Bool)
    (minutes : Int) :
    Ensures (· = store) (receiveFrom queue rollback minutes) (fun _ => store.SameBeside queue)
      (store.SameBeside queue) := by
  refine (ensures_start hsound queue minutes).bind fun owner => ?_
  have hdequeue : Ensures (WorksIn store queue owner) (service (Service.dequeue owner queue))
      (fun _ => WorksIn store queue owner) (store.SameBeside queue) := by
    refine ensures_of_store ?_ fun _ h => h.beside
    intro broker h
    rw [Service.dequeue, Service.store_run_reply, Broker.store_run_map]
    refine h.after (.dequeue owner queue) rfl ?_
    rintro named ⟨⟩
    rfl
  -- A transaction that ends is about no queue.
  have hrollback (reason : String) :=
    ensures_reply_move store queue (.rollback owner reason) rfl nofun
  have hcommit := ensures_reply_move store queue (.commit owner) rfl nofun
  have hprinted (line : String) : Ensures (WorksIn store queue owner) (printLine line)
      (fun _ => store.SameBeside queue) (store.SameBeside queue) :=
    (prints_printLine line).ensures.weaken (fun _ h => h) (fun _ _ h => h.beside) fun _ h => h
  refine hdequeue.bind fun next => ?_
  cases next with
  | none => exact (hrollback "nothing to receive").bind fun _ => hprinted _
  | some message =>
      refine (prints_printMessage message).ensures.bind fun _ => ?_
      cases rollback with
      | true => exact (hrollback "released by operator").bind fun undone => hprinted _
      | false => exact hcommit.bind fun _ => hprinted _

/-- A command leaves all queues alone but the one that it is about. -/
theorem QueueCommand.ensures_on (command : QueueCommand) (hsound : store.Sound) (queue : Queue)
    (word : String) :
    Ensures (· = store) (command.on queue word) (fun _ => store.SameBeside queue.id)
      (store.SameBeside queue.id) := by
  have hrefl : ∀ after, after = store → store.SameBeside queue.id after :=
    fun _ hsame => hsame ▸ .refl queue.id store
  -- Printing comes last, and may come first.
  have hprinted (line : String) : Ensures (store.SameBeside queue.id) (printLine line)
      (fun _ => store.SameBeside queue.id) (store.SameBeside queue.id) :=
    (prints_printLine line).ensures
  cases command with
  | info =>
      refine Ensures.weaken ?_ hrefl (fun _ _ h => h) fun _ h => h
      exact (hprinted _).bind fun _ => hprinted _
  | stats =>
      have hlook : Ensures (· = store) (withBroker (Broker.stats (.byId queue.id)) Error.message)
          (fun _ => (· = store)) (· = store) := by
        refine ensures_of_store ?_ fun _ h => h
        intro broker hsame
        exact (Move.store_after_of_isLook (.stats (.byId queue.id)) rfl).trans hsame
      refine Ensures.weaken ?_ (fun _ h => h) (fun _ => hrefl) hrefl
      exact hlook.bind fun stats => (prints_printStats stats).ensures
  | delete =>
      have hdelete : Ensures (· = store) (service (Service.deleteQueue (.byId queue.id)))
          (fun _ => store.SameBeside queue.id) (store.SameBeside queue.id) := by
        refine ensures_of_store ?_ fun _ h => h
        rintro broker rfl
        rw [Service.deleteQueue, Service.store_run_reply]
        exact Move.sameBeside_deleteQueue queue.id
      exact (hdelete.change hrefl).bind fun _ => hprinted _
  | send sending =>
      have hsend (new : NewMessage) : Ensures (· = store) (service (Service.send queue.id new))
          (fun _ => store.SameBeside queue.id) (store.SameBeside queue.id) := by
        refine ensures_of_store ?_ fun _ h => h
        rintro broker rfl
        exact (Service.sendsTo hsound queue.id new).sameBeside
      refine Ensures.bind (ensures_except (fun _ _ h => h) hrefl) fun new => ?_
      refine Ensures.bind (ensures_attempt _ hrefl) fun _ => ?_
      exact (hsend new).bind fun _ => hprinted _
  | receive rollback minutes => exact ensures_receiveFrom hsound queue.id rollback minutes
  | peek =>
      have hlook : Ensures (· = store) (service (Service.peek queue.id))
          (fun _ => (· = store)) (· = store) := by
        refine ensures_of_store ?_ fun _ h => h
        intro broker hsame
        rw [Service.peek, Service.store_run_reply, Broker.store_run_map]
        exact (Move.store_after_peek queue.id).trans hsame
      refine Ensures.weaken ?_ (fun _ h => h) (fun _ => hrefl) hrefl
      exact hlook.bind fun next => (prints_printNext next).ensures

/-! ## Runs of the program -/

/-- The session in which a run begins. -/
def Plan.firstSession (plan : Plan) (clock : Instant) (store : Store) (readOnly : Bool) : Session :=
  { broker := { store, clock, locks := .ofCapacity plan.config.lockTableCapacity }, readOnly }

/-- How a run ends that carries out a script, and the store that it leaves. -/
def Plan.carryOut (plan : Plan) (script : Script Unit) (clock : Instant) (store : Store)
    (readOnly : Bool) : RunResult × Store :=
  match script.run (plan.firstSession clock store readOnly) with
  | (.ok (), session) => (.ran 0 session.output "", session.broker.store)
  | (.error reason, session) =>
      (.ran 1 session.output ("Error: " ++ reason ++ "\n"), session.broker.store)

/-- A run carries out the script of its command. -/
theorem Plan.run_eq (plan : Plan) (clock : Instant) (store : Store) (readOnly : Bool) :
    plan.run clock store readOnly = plan.carryOut plan.command.script clock store readOnly :=
  rfl

/-- The run of a command about a queue, given by a word. -/
def Plan.runAbout (plan : Plan) (command : QueueCommand) (word : String) (clock : Instant)
    (store : Store) (readOnly : Bool) : RunResult × Store :=
  { plan with command := command.about word }.run clock store readOnly

/-- The run carries out what the command does with the word. -/
theorem Plan.runAbout_eq (plan : Plan) (command : QueueCommand) (word : String) (clock : Instant)
    (store : Store) (readOnly : Bool) :
    plan.runAbout command word clock store readOnly =
      plan.carryOut (command.about word).script clock store readOnly :=
  rfl

/-- Is the queue the one that the word addresses? Then a run of any command that is given the word
does what that command does with this queue, and leaves the other queues alone. -/
structure Addresses (store : Store) (word : String) (queue : Queue) : Prop where
  meant : store.meant (queueRef word) = .ok queue
  does : ∀ (plan : Plan) (command : QueueCommand) (clock : Instant) (readOnly : Bool),
    plan.runAbout command word clock store readOnly =
      plan.carryOut (command.on queue word) clock store readOnly
  beside : ∀ (plan : Plan) (command : QueueCommand) (clock : Instant) (readOnly : Bool),
    store.SameBeside queue.id (plan.runAbout command word clock store readOnly).2

/-- Does the word address no queue? Then a run of any command that is given the word fails, and
leaves the store alone. -/
def AddressesNone (store : Store) (word : String) : Prop :=
  ∀ (plan : Plan) (command : QueueCommand) (clock : Instant) (readOnly : Bool),
    ∃ reason, plan.runAbout command word clock store readOnly =
      (.ran 1 "" ("Error: " ++ reason ++ "\n"), store)

/-- What a script ensures of the store holds of the store that its run leaves. -/
theorem Script.Ensures.carryOut {script : Script Unit} {Before After : Store → Prop}
    (h : Ensures Before script (fun _ => After) After) (plan : Plan) (clock : Instant)
    (hbefore : Before store) (readOnly : Bool) :
    After (plan.carryOut script clock store readOnly).2 := by
  have hafter := h (plan.firstSession clock store readOnly) hbefore
  rw [Plan.carryOut]
  rcases hrun : script.run (plan.firstSession clock store readOnly) with ⟨reason | ⟨⟩, left⟩
  · rw [hrun] at hafter
    exact hafter
  · rw [hrun] at hafter
    exact hafter

/-- A word addresses the queue that it means. -/
theorem addresses_of_meant (hsound : store.Sound)
    (hmeant : store.meant (queueRef word) = .ok queue) : Addresses store word queue := by
  have hdoes (plan : Plan) (command : QueueCommand) (clock : Instant) (readOnly : Bool) :
      plan.runAbout command word clock store readOnly =
        plan.carryOut (command.on queue word) clock store readOnly := by
    have hrun := command.run_about_of_meant (plan.firstSession clock store readOnly)
      hsound.numbered rfl hmeant
    rw [Plan.runAbout_eq, Plan.carryOut, Plan.carryOut, hrun]
  refine ⟨hmeant, hdoes, ?_⟩
  intro plan command clock readOnly
  rw [hdoes]
  exact (command.ensures_on hsound queue word).carryOut plan clock rfl readOnly

/-- A word that means no queue addresses none. -/
theorem addressesNone_of_meant {error : Error}
    (hmeant : store.meant (queueRef word) = .error error) : AddressesNone store word := by
  intro plan command clock readOnly
  obtain ⟨reason, broker, hrun, hstore⟩ :=
    command.refuses_about (plan.firstSession clock store readOnly) rfl hmeant
  refine ⟨reason, ?_⟩
  rw [Plan.runAbout_eq, Plan.carryOut, hrun]
  exact congrArg (RunResult.ran 1 "" ("Error: " ++ reason ++ "\n"), ·) hstore

end WorkQueue.CommandLine
