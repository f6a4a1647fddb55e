import WorkQueue.Proofs.CommandLine.Addressing
import WorkQueue.Proofs.Lifetime.Failures
import WorkQueue.Proofs.Lifetime.Independence
import WorkQueue.Proofs.Lifetime.Minutes

/-!
# Receiving a message on the command line

To receive a message the program starts a transaction, takes the next message of the queue, prints
it, and ends the transaction. It may fail before it has a transaction, and it may find the one that
it has just started lapsed; then there is no message in the transaction's hands. Otherwise it ends
the transaction, and so leaves nothing open: `Receives` says what it prints and which store it
leaves, and `receive_leaves_nothing_open` when it does that.
-/

namespace WorkQueue

namespace Message

/-- The message received for good: it is used up. -/
def received (m : Message) (now : Instant) : Message :=
  { m with state := .processed, closeTime := some now }

/-- The message received and released: it has been tried once more, and is there to be taken again
unless that was the last time. -/
def released (m : Message) (now : Instant) : Message :=
  if m.maxAttempts ≤ m.attempts + 1 then
    { m with attempts := m.attempts + 1, state := .attemptsExceeded, closeTime := some now }
  else { m with attempts := m.attempts + 1, state := .active }

variable {m : Message}

/-- An active message is in no hands. -/
theorem Coupled.free (h : m.Coupled) (hactive : m.state = .active) :
    m.owner = none ∧ m.action = none := by
  have howner := h.owner_iff
  have haction := h.action_iff
  simpa [hactive] using And.intro howner haction

/-- A message that is used up after it was free has been received for good. -/
theorem moveTo_processed (howner : m.owner = none) (haction : m.action = none) (now : Instant) :
    m.moveTo .processed now = m.received now := by
  cases m
  cases howner
  cases haction
  rfl

/-- A message that is given back after it was free has been released. -/
theorem giveBack_eq_released (howner : m.owner = none) (haction : m.action = none)
    (now : Instant) : m.giveBack now = m.released now := by
  cases m
  cases howner
  cases haction
  simp only [giveBack, isLastAttempt, released, decide_eq_true_eq, exhaust, requeue]

end Message

/-- The store with a message in the place of the one with its number. -/
def Store.withRow (store : Store) (row : Message) : Store :=
  { store with messages := store.messages.map fun m => if m.id = row.id then row else m }

namespace Ending

/-- The state in which the transaction ends. -/
def state : Ending → TransactionState
  | commit => .committed
  | rollback _ => .rolledBack

/-- The reason that is kept for the end. -/
def reason : Ending → String
  | commit => committedReason
  | rollback reason => reason

/-- What becomes of a message that was taken under the transaction. -/
def returned (m : Message) (now : Instant) : Ending → Message
  | commit => m.received now
  | rollback _ => m.released now

variable {store : Store} {id : TransactionId} {m : Message} {now : Instant}

/-- What becomes of the message keeps its number. -/
theorem id_returned (ending : Ending) : (ending.returned m now).id = m.id := by
  cases ending with
  | commit => rfl
  | rollback reason =>
      rw [returned, Message.released]
      split <;> rfl

/-- Only the transaction is ended. -/
theorem ends_change (ending : Ending) (id : TransactionId) (now : Instant) :
    Change.Ends id (ending.change id now) := by
  cases ending with
  | commit => exact .commit now
  | rollback reason => exact .undo ..

/-- A message that was free and has been taken is received for good, or released. -/
theorem messageAfter_take (ending : Ending) (howner : m.owner = none) (haction : m.action = none) :
    (ending.change id now).messageAfter {} (m.take id) = some (ending.returned m now) := by
  have hadd : (m.take id).isHeldBy id .add = false := by
    simp [Message.isHeldBy, Message.take]
  have hpull : (m.take id).isHeldBy id .pull = true := by
    simp [Message.isHeldBy, Message.take]
  cases ending with
  | commit =>
      rw [change, Change.messageAfter, if_neg (by simp [hadd]), if_pos hpull, returned,
        ← Message.moveTo_processed howner haction]
      rfl
  | rollback reason =>
      rw [change, Change.messageAfter, if_neg (by simp [hadd]), if_pos hpull, returned,
        ← Message.giveBack_eq_released howner haction]
      rfl

/-- A new transaction under which nothing but a message was taken ends with that message. -/
theorem apply_change_take (ending : Ending) (now expiry : Instant) (hsound : store.Sound)
    (hm : m ∈ store.messages) (hactive : m.state = .active) :
    let opening := store.opening now expiry
    (ending.change opening.id now).apply
        ((Change.take m opening.id now).apply (store.plus [opening] [])) =
      (store.withRow (ending.returned m now)).plus
        [opening.close ending.state now ending.reason] [] := by
  intro opening
  have hends := ending.ends_change opening.id now
  have hqueues : store.queues.filter (ending.change opening.id now).keepsQueue = store.queues := by
    refine List.filter_eq_self.2 fun queue _ => ?_
    cases ending <;> rfl
  have hold : store.transactions.map (ending.change opening.id now).transactionAfter =
      store.transactions :=
    (List.map_congr_left fun t ht =>
      hends.transactionAfter_of_ne (Change.id_ne_opening hsound.numbered ht)).trans (List.map_id' _)
  have hnew : (ending.change opening.id now).transactionAfter opening =
      opening.close ending.state now ending.reason := by
    cases ending <;> simp [change, Change.transactionAfter, Transaction.isActive, opening,
      Store.opening, state, reason]
  have hmessages :
      (store.messages.map fun x => if x.id = m.id then x.take opening.id else x).filterMap
          ((ending.change opening.id now).messageAfter {}) =
      store.messages.map fun x =>
        if x.id = (ending.returned m now).id then ending.returned m now else x := by
    rw [List.filterMap_map, ← List.filterMap_eq_map, ending.id_returned]
    refine List.filterMap_congr fun x hx => ?_
    rw [Function.comp_apply, Function.comp_apply]
    by_cases hid : x.id = m.id
    · obtain rfl := hsound.numbered.message_eq hx hm hid
      obtain ⟨howner, haction⟩ := (hsound.coupled.messages x hx).free hactive
      rw [if_pos rfl, if_pos rfl, ending.messageAfter_take howner haction]
    · rw [if_neg hid, if_neg hid]
      refine hends.messageAfter_of_ne fun howner => ?_
      obtain ⟨t, ht, htid, _⟩ := hsound.coupled.owners x hx _ howner
      exact Change.id_ne_opening hsound.numbered ht htid
  rw [Change.apply_take, hends.rowWise.apply_eq]
  simp only [Store.plus, Store.withRow, List.append_nil, List.map_append, List.map_cons,
    List.map_nil, hqueues, hold, hnew, hmessages, List.length_singleton]

end Ending

/-- Of a new transaction under which nothing but a message was taken, that message is given back for
the last time exactly if no other attempt is left to it. -/
theorem Store.Sound.exhausted_pos_iff {store : Store} {m : Message} {now expiry : Instant}
    (hsound : store.Sound) (hm : m ∈ store.messages) :
    let opening := store.opening now expiry
    let taken := (Change.take m opening.id now).apply (store.plus [opening] [])
    0 < (taken.unwound fun action x => x.isHeldBy opening.id action).exhausted ↔
      m.maxAttempts ≤ m.attempts + 1 := by
  intro opening taken
  have htaken : taken.messages =
      store.messages.map fun x => if x.id = m.id then x.take opening.id else x := by
    simp [taken, Change.apply_take, Store.plus]
  rw [Store.unwound, htaken, List.countP_pos_iff]
  constructor
  · rintro ⟨y, hy, hheld⟩
    obtain ⟨hpull, hlast⟩ := Bool.and_eq_true_iff.1 hheld
    obtain ⟨x, hx, rfl⟩ := List.mem_map.1 hy
    by_cases hid : x.id = m.id
    · obtain rfl := hsound.numbered.message_eq hx hm hid
      rw [if_pos rfl] at hlast
      exact of_decide_eq_true hlast
    · rw [if_neg hid, Change.not_isHeldBy_opening hsound hx] at hpull
      cases hpull
  · intro hlast
    refine ⟨m.take opening.id, List.mem_map.2 ⟨m, hm, if_pos rfl⟩, ?_⟩
    rw [Bool.and_eq_true_iff]
    exact ⟨by simp [Message.isHeldBy, Message.take], decide_eq_true hlast⟩

/-! ## The command at work -/

namespace CommandLine

open Broker
open CommandLine.Script

/-- End the transaction under which a message was received. -/
def endReceiving (owner : TransactionId) (rollback : Bool) : Script Unit := do
  if rollback then
    let undone ← service (Service.rollback owner "released by operator")
    printLine (if 0 < undone.exhausted then "Rolled back; message is out of attempts."
      else "Rolled back; message returned to the queue.")
  else
    let _ ← service (Service.commit owner)
    printLine "Committed."

/-- Receive a message under a transaction that has been started, and end the transaction. -/
def receiveUnder (owner : TransactionId) (queue : QueueId) (rollback : Bool) : Script Unit := do
  match ← service (Service.dequeue owner queue) with
  | none =>
      let _ ← service (Service.rollback owner "nothing to receive")
      printLine "Queue is empty."
  | some message =>
      printMessage message
      endReceiving owner rollback

/-- To receive a message is to start a transaction, and to receive it under that. -/
theorem receiveFrom_eq (queue : QueueId) (rollback : Bool) (minutes : Int) :
    receiveFrom queue rollback minutes =
      (change (Service.start minutes) >>= fun owner => receiveUnder owner queue rollback) :=
  rfl

/-- What receiving from a queue prints, and which store it leaves, by the message that is next in
the queue. The message is printed in the hands of the transaction. -/
inductive Receives (store : Store) (now expiry : Instant) :
    (rollback : Bool) → (next : Option Message) → (output : String) → (after : Store) → Prop where
  | nothing (rollback : Bool) :
      Receives store now expiry rollback none "Queue is empty.\n"
        (store.plus [(store.opening now expiry).close .rolledBack now "nothing to receive"] [])
  | received (m : Message) (shown : String) :
      m ∈ store.messages → Writes (printMessage (m.take (store.opening now expiry).id).view) shown →
      Receives store now expiry false (some m) (shown ++ "Committed.\n")
        ((store.withRow (m.received now)).plus
          [(store.opening now expiry).close .committed now committedReason] [])
  | released (m : Message) (shown : String) :
      m ∈ store.messages → Writes (printMessage (m.take (store.opening now expiry).id).view) shown →
      Receives store now expiry true (some m)
        (shown ++
          ((if m.maxAttempts ≤ m.attempts + 1 then "Rolled back; message is out of attempts."
            else "Rolled back; message returned to the queue.") ++ "\n"))
        ((store.withRow (m.released now)).plus
          [(store.opening now expiry).close .rolledBack now "released by operator"] [])

/-- Receiving leaves no transaction active that was not there. -/
theorem Receives.mem_of_active {store after : Store} {now expiry : Instant} {rollback : Bool}
    {next : Option Message} {output : String}
    (h : Receives store now expiry rollback next output after) {t : Transaction}
    (ht : t ∈ after.transactions) (hactive : t.state = .active) : t ∈ store.transactions := by
  cases h
  all_goals
    rcases List.mem_append.1 ht with hold | hnew
    · exact hold
    · cases List.mem_singleton.1 hnew
      cases hactive

variable {session : Session} {owner : TransactionId} {queue : QueueId}

/-- An open transaction is ended, and a line about it is printed. -/
theorem exists_run_ending (session : Session) (ending : Ending)
    (line : (ending.move owner).Answer → String) (hcalm : session.broker.outages = {})
    (hopen : session.broker.store.IsOpen owner session.broker.clock) :
    ∃ after, (service (Service.reply (ending.move owner).call) >>= fun answer =>
          printLine (line answer)).run session =
        (.ok (), { session with
          broker := after
          output := session.output ++
            (line (ending.summary owner session.broker.store) ++ "\n") }) ∧
      after.store = (ending.change owner session.broker.clock).apply session.broker.store := by
  obtain ⟨hanswer, hstore, _⟩ := ending.outcome owner (begins_of_calm hcalm)
  rw [Store.admission_of_open hopen] at hanswer
  rw [ending.changeOf_of_open hopen] at hstore
  have hrun : (ending.move owner).call.run session.broker =
      (.ok (ending.summary owner session.broker.store),
        (ending.move owner).after session.broker) := Prod.ext hanswer rfl
  refine ⟨_, ?_, hstore⟩
  rw [run_bind_of_ok (run_service_of_ok hrun), writes_printLine]

/-- Under an open transaction a message is taken and shown. -/
theorem exists_run_dequeue_view {answer : Option Message} {changed : Store}
    (hcalm : session.broker.outages = {})
    (hopen : session.broker.store.IsOpen owner session.broker.clock)
    (hwork : (Work.dequeue owner queue session.broker.clock).run session.broker.store =
      .ok (answer, changed)) :
    ∃ after, (service (Service.dequeue owner queue)).run session =
        (.ok (answer.map Message.view), { session with broker := after }) ∧
      after.store = changed ∧ after.clock = session.broker.clock ∧ after.outages = {} := by
  obtain ⟨after, hrun, hstore, hclock, houtages⟩ :=
    exists_run_dequeue (begins_of_calm hcalm) hopen hwork
  have hview : (Option.map Message.view <$> Broker.dequeue owner queue).run session.broker =
      (.ok (answer.map Message.view), after) := by
    rw [map_eq_pure_bind, run_bind_of_ok hrun]
    rfl
  exact ⟨after, run_service_of_ok hview, hstore, hclock, houtages.trans (pass_of_calm hcalm)⟩

/-- Has the session just started a transaction on the store? -/
structure HasStarted (store : Store) (now expiry : Instant) (session : Session) : Prop where
  store_eq : session.broker.store = store.plus [store.opening now expiry] []
  clock_eq : session.broker.clock = now
  calm : session.broker.outages = {}

namespace HasStarted

variable {store : Store} {now expiry : Instant} (h : HasStarted store now expiry session)
include h

/-- The transaction is open, if its lifetime is not over at once. -/
theorem isOpen (hnumbered : store.Numbered) (hlater : ¬ expiry ≤ now) :
    session.broker.store.IsOpen (store.opening now expiry).id session.broker.clock := by
  rw [h.store_eq, h.clock_eq]
  exact Store.isOpen_plus hnumbered hlater []

/-- The next message of the queue is the same as before. -/
theorem nextMessage?_eq :
    session.broker.store.nextMessage? queue session.broker.clock =
      store.nextMessage? queue now := by
  rw [h.store_eq, h.clock_eq, Store.nextMessage?, Store.nextMessage?, Store.plus, List.append_nil]

/-- The queue is there as before. -/
theorem isSome_queue? (hqueue : (store.queue? queue).isSome) :
    (session.broker.store.queue? queue).isSome := by
  rw [h.store_eq]
  exact hqueue

/-- From a queue without a next message nothing is received. -/
theorem receives_nothing (hsound : store.Sound) (hlater : ¬ expiry ≤ now)
    (hqueue : (store.queue? queue).isSome) (rollback : Bool)
    (hnext : store.nextMessage? queue now = none) :
    ∃ after text, (receiveUnder (store.opening now expiry).id queue rollback).run session =
        (.ok (), { session with broker := after, output := session.output ++ text }) ∧
      Receives store now expiry rollback none text after.store := by
  have hopen := h.isOpen hsound.numbered hlater
  obtain ⟨looked, hlook, hsame, hstill, hcalm⟩ := exists_run_dequeue_view h.calm hopen
    (Work.run_dequeue_of_none _ (h.isSome_queue? hqueue) (h.nextMessage?_eq.trans hnext))
  obtain ⟨after, hend, hleft⟩ := exists_run_ending { session with broker := looked }
    (.rollback "nothing to receive") (fun _ => "Queue is empty.") hcalm
    (by rw [hsame, hstill]; exact hopen)
  refine ⟨after, _, (run_bind_of_ok hlook).trans hend, ?_⟩
  rw [hleft, hsame, hstill, h.store_eq, h.clock_eq, Ending.change, Change.apply_undo_plus hsound]
  exact .nothing rollback

/-- The next message of the queue is received. -/
theorem receives_message (hsound : store.Sound) (hlater : ¬ expiry ≤ now)
    (hqueue : (store.queue? queue).isSome) (rollback : Bool) {m : Message}
    (hnext : store.nextMessage? queue now = some m) :
    ∃ after text, (receiveUnder (store.opening now expiry).id queue rollback).run session =
        (.ok (), { session with broker := after, output := session.output ++ text }) ∧
      Receives store now expiry rollback (some m) text after.store := by
  have hopen := h.isOpen hsound.numbered hlater
  obtain ⟨hm, heligible⟩ := Store.nextMessage?_eq_some hnext
  have hactive : m.state = .active := (Message.isEligible_iff.1 heligible).2.1
  obtain ⟨taken, htake, hstore, hclock, hcalm⟩ := exists_run_dequeue_view h.calm hopen
    (Work.run_dequeue_of_some (h.isSome_queue? hqueue) hopen (h.nextMessage?_eq.trans hnext))
  rw [h.store_eq, h.clock_eq] at hstore
  rw [h.clock_eq] at hclock
  have hheld : taken.store.IsOpen (store.opening now expiry).id taken.clock := by
    rw [hstore, hclock, Change.apply_take]
    exact Store.isOpen_plus hsound.numbered hlater []
  obtain ⟨shown, hshown⟩ := prints_printMessage (m.take (store.opening now expiry).id).view
  have hshow : (receiveUnder (store.opening now expiry).id queue rollback).run session =
      (endReceiving (store.opening now expiry).id rollback).run
        { session with broker := taken, output := session.output ++ shown } :=
    (run_bind_of_ok htake).trans (run_bind_of_ok (hshown _))
  have hended (ending : Ending) := ending.apply_change_take now expiry hsound hm hactive
  cases rollback with
  | false =>
      obtain ⟨after, hend, hleft⟩ := exists_run_ending
        { session with broker := taken, output := session.output ++ shown }
        .commit (fun _ => "Committed.") hcalm hheld
      refine ⟨after, _, (hshow.trans hend).trans (by rw [String.append_assoc]), ?_⟩
      rw [hleft, hstore, hclock, hended]
      exact .received m shown hm hshown
  | true =>
      obtain ⟨after, hend, hleft⟩ := exists_run_ending
        { session with broker := taken, output := session.output ++ shown }
        (.rollback "released by operator")
        (fun undone => if 0 < undone.exhausted then "Rolled back; message is out of attempts."
          else "Rolled back; message returned to the queue.") hcalm hheld
      refine ⟨after, _, (hshow.trans hend).trans (by rw [String.append_assoc]), ?_⟩
      rw [hleft, hstore, hclock, hended, Ending.summary,
        if_congr (hsound.exhausted_pos_iff hm) rfl rfl]
      exact .released m shown hm hshown

/-- If the transaction is open, the next message is received, if there is one. -/
theorem receives (hsound : store.Sound) (hlater : ¬ expiry ≤ now)
    (hqueue : (store.queue? queue).isSome) (rollback : Bool) :
    ∃ after text, (receiveUnder (store.opening now expiry).id queue rollback).run session =
        (.ok (), { session with broker := after, output := session.output ++ text }) ∧
      Receives store now expiry rollback (store.nextMessage? queue now) text after.store := by
  cases hnext : store.nextMessage? queue now with
  | none => exact h.receives_nothing hsound hlater hqueue rollback hnext
  | some m => exact h.receives_message hsound hlater hqueue rollback hnext

/-- If its lifetime is over at once, the transaction has expired before anything is received. -/
theorem lapses (hsound : store.Sound) (hpast : expiry ≤ now) (queue : QueueId) (rollback : Bool) :
    ∃ reason after, (receiveUnder (store.opening now expiry).id queue rollback).run session =
        (.error reason, { session with broker := after }) ∧
      after.store =
        store.plus [(store.opening now expiry).close .expired now expiredReason] [] := by
  have hlapsed : session.broker.store.HasLapsed (store.opening now expiry).id
      session.broker.clock := by
    rw [h.store_eq, h.clock_eq]
    exact ⟨_, Store.transaction?_plus hsound.numbered [], rfl, decide_eq_true hpast⟩
  have hworks : (Move.dequeue (store.opening now expiry).id queue).WorksAt session.broker.clock :=
    trivial
  obtain ⟨after, hrun, hlapse⟩ :=
    exists_run_of_lapsed hworks rfl (begins_of_calm h.calm) hlapsed
  have hview : (Option.map Message.view <$>
      Broker.dequeue (store.opening now expiry).id queue).run session.broker =
        (.error (.expired (store.opening now expiry).id), after) := by
    rw [map_eq_pure_bind]
    exact run_bind_of_error hrun
  refine ⟨_, _, run_bind_of_error (run_service_of_error hview), ?_⟩
  show after.store = _
  rw [hlapse.store_eq, h.store_eq, h.clock_eq, Change.apply_undo_plus hsound]

end HasStarted

/-! ## The whole command -/

variable {store : Store} {now : Instant} {minutes : Int} {readOnly : Bool} {word : String}

/-- Without a free number, or for minutes that are no lifetime, no transaction is started. -/
theorem start_refused (hcalendar : session.broker.clock.InCalendar)
    (hformed : session.broker.clock.WellFormed) (hsound : session.broker.store.Sound)
    (hstuck : session.broker.clock.Overruns minutes ∨
      ¬ session.broker.store.lastTransaction + 1 < half64) :
    Refuses (change (Service.start minutes)) session := by
  by_cases hlate : session.broker.clock.Overruns minutes
  · have hreckons := Service.reckons_start minutes hcalendar hformed hsound.numbered
    obtain ⟨fault, hfault, _⟩ := hreckons.objects_iff.2 hlate
    exact refuses_change fault hfault (congrArg Broker.store (hreckons.unchanged hlate))
  · obtain ⟨failure, hfailed⟩ := Service.exists_failure_start_minutes hcalendar hformed hlate
      (.inr (hstuck.resolve_left hlate))
    have hrun : (check (Service.minutes minutes) >>= Broker.start).run session.broker =
        (Move.start (.ofSeconds (60 * minutes))).call.run session.broker :=
      run_bind_of_ok (run_check_of_ok (Service.minutes_of_not_overruns hlate))
    refine refuses_change (Fault.ofError (.storage failure)) ?_ ?_
    · rw [Service.start, Service.answer_run_reply]
      exact congrArg (Except.mapError Fault.ofError) hfailed
    · rw [hrun] at hfailed
      rw [Service.start, Service.store_run_reply, hrun]
      exact Move.store_after_of_error hfailed (by simp)

/-- With minutes that are a lifetime a transaction is started on a store that may be changed, when a
number is free. -/
theorem exists_hasStarted (session : Session) (hcalendar : session.broker.clock.InCalendar)
    (hformed : session.broker.clock.WellFormed) (hcalm : session.broker.outages = {})
    (hwritable : session.readOnly = false) (hfits : ¬ session.broker.clock.Overruns minutes)
    (hfree : session.broker.store.lastTransaction + 1 < half64) :
    let expiry := session.broker.clock.addMinutes minutes
    ∃ after, (change (Service.start minutes)).run session =
        (.ok (session.broker.store.opening session.broker.clock expiry).id,
          { session with broker := after }) ∧
      HasStarted session.broker.store session.broker.clock expiry
        { session with broker := after } := by
  obtain ⟨after, hrun, hstore, hclock, houtages⟩ :=
    Service.exists_run_start_minutes hcalendar hformed hfits (begins_of_calm hcalm) hfree
  refine ⟨after, ?_, hstore, hclock, houtages.trans (pass_of_calm hcalm)⟩
  rw [run_change_of_writable _ hwritable]
  exact run_service_of_ok hrun

/-- Is there nothing in the way of receiving from the queue that the word means? -/
structure CanReceive (store : Store) (word : String) (queue : Queue) (now : Instant) (minutes : Int)
    (readOnly : Bool) : Prop where
  meant : store.meant (queueRef word) = .ok queue
  lasts : 1 ≤ minutes
  fits : ¬ now.Overruns minutes
  writable : readOnly = false
  numbers_left : store.lastTransaction + 1 < half64

/-- A queue that is meant is found by its number. -/
theorem isSome_queue?_of_meant {queue : Queue}
    (hmeant : store.meant (queueRef word) = .ok queue) : (store.queue? queue.id).isSome :=
  List.find?_isSome.2 ⟨queue, Store.mem_of_meant hmeant, decide_eq_true rfl⟩

/-- With nothing in the way the next message is received. -/
theorem CanReceive.receives {queue : Queue} (h : CanReceive store word queue now minutes readOnly)
    (hsound : store.Sound) (hcalendar : now.InCalendar) (hformed : now.WellFormed) (plan : Plan)
    (rollback : Bool) :
    ∃ output after,
      plan.runAbout (.receive rollback minutes) word now store readOnly =
        (.ran 0 output "", after) ∧
      Receives store now (now.addMinutes minutes) rollback (store.nextMessage? queue.id now) output
        after := by
  obtain ⟨begun, hstart, hstarted⟩ := exists_hasStarted
    (plan.firstSession now store readOnly) hcalendar hformed rfl h.writable h.fits h.numbers_left
  have hlater : ¬ now.addMinutes minutes ≤ now := Instant.not_addMinutes_le h.lasts
  obtain ⟨after, text, hrun, hreceives⟩ :=
    hstarted.receives hsound hlater (isSome_queue?_of_meant h.meant) rollback
  refine ⟨"" ++ text, after.store, ?_, String.empty_append.symm ▸ hreceives⟩
  have hscript : (receiveFrom queue.id rollback minutes).run
      (plan.firstSession now store readOnly) = _ := (run_bind_of_ok hstart).trans hrun
  rw [(addresses_of_meant hsound h.meant).does, Plan.carryOut, QueueCommand.on, hscript]
  rfl

/-- A script that is refused fails the run and leaves the store. -/
theorem carryOut_of_refuses {script : Script Unit} {plan : Plan}
    (h : Refuses script (plan.firstSession now store readOnly)) :
    ∃ reason, plan.carryOut script now store readOnly = (.failed reason, store) := by
  obtain ⟨reason, broker, hrun, hstore⟩ := h
  refine ⟨reason, ?_⟩
  rw [Plan.carryOut, hrun]
  exact congrArg (RunResult.failed reason, ·) hstore

/-- A transaction that lives no minutes is started, and has expired before anything is received. -/
theorem receives_lapsed (hsound : store.Sound) (hcalendar : now.InCalendar)
    (hformed : now.WellFormed) {queue : Queue}
    (hmeant : store.meant (queueRef word) = .ok queue) (hfits : ¬ now.Overruns 0)
    (hfree : store.lastTransaction + 1 < half64) (plan : Plan) (rollback : Bool) :
    let opening := store.opening now (now.addMinutes 0)
    ∃ reason, plan.runAbout (.receive rollback 0) word now store false =
      (.failed reason, store.plus [opening.close .expired now expiredReason] []) := by
  obtain ⟨begun, hstart, hstarted⟩ := exists_hasStarted
    (plan.firstSession now store false) hcalendar hformed rfl rfl hfits hfree
  obtain ⟨reason, after, hrun, hleft⟩ :=
    hstarted.lapses hsound now.addMinutes_zero_le queue.id rollback
  have hscript : (receiveFrom queue.id rollback 0).run (plan.firstSession now store false) = _ :=
    (run_bind_of_ok hstart).trans hrun
  refine ⟨reason, ?_⟩
  rw [(addresses_of_meant hsound hmeant).does, Plan.carryOut, QueueCommand.on, hscript]
  exact congrArg (RunResult.failed reason, ·) hleft

/-- With something in the way nothing is printed, and at most a transaction is added that has
expired. -/
theorem receives_fails (hsound : store.Sound) (hcalendar : now.InCalendar)
    (hformed : now.WellFormed)
    (hnot : ∀ queue, ¬ CanReceive store word queue now minutes readOnly) (plan : Plan)
    (rollback : Bool) :
    ∃ reason closed, plan.runAbout (.receive rollback minutes) word now store readOnly =
        (.failed reason, store.plus closed []) ∧ ∀ t ∈ closed, t.state = .expired := by
  cases hmeant : store.meant (queueRef word) with
  | error error =>
      obtain ⟨reason, hran⟩ :=
        addressesNone_of_meant hmeant plan (.receive rollback minutes) now readOnly
      exact ⟨reason, [], by rw [hran, store.plus_nil]; rfl, nofun⟩
  | ok queue =>
      have hrefused (h : Refuses (change (Service.start minutes))
          (plan.firstSession now store readOnly)) :
          ∃ reason closed, plan.runAbout (.receive rollback minutes) word now store readOnly =
            (.failed reason, store.plus closed []) ∧ ∀ t ∈ closed, t.state = .expired := by
        rw [(addresses_of_meant hsound hmeant).does, QueueCommand.on, receiveFrom_eq]
        obtain ⟨reason, hran⟩ := carryOut_of_refuses (h.bind _)
        exact ⟨reason, [], by rw [hran, store.plus_nil], nofun⟩
      by_cases hstuck : now.Overruns minutes ∨ ¬ store.lastTransaction + 1 < half64
      · exact hrefused (start_refused hcalendar hformed hsound hstuck)
      · cases readOnly with
        | true => exact hrefused (refuses_change_of_readOnly _ rfl)
        | false =>
            obtain ⟨hfits, hfree⟩ := not_or.1 hstuck
            rw [not_not] at hfree
            -- Only a lifetime of no minutes is left to be in the way.
            obtain rfl : minutes = 0 := by
              have hshort : ¬ 1 ≤ minutes := fun hlasts =>
                hnot queue ⟨hmeant, hlasts, hfits, rfl, hfree⟩
              have hpositive := (Instant.not_overruns_iff.1 hfits).1
              omega
            obtain ⟨reason, hran⟩ :=
              receives_lapsed hsound hcalendar hformed hmeant hfits hfree plan rollback
            exact ⟨reason, _, hran, List.forall_mem_singleton.2 rfl⟩

/-- After every run of the broker, for every word, flag and number of minutes, at an instant of the
calendar: receiving leaves no transaction active that was not active before. If the word means a
queue, the minutes are some and are a lifetime, the store may be changed, and a number is free, then
the program receives the message that peeking shows, or says that there is none. Otherwise it fails,
prints nothing but the reason, and leaves all messages as they were. -/
theorem receive_leaves_nothing_open (broker : Broker) (moves : List Move) (plan : Plan)
    (word : String) (rollback : Bool) (minutes : Int) (readOnly : Bool) {now : Instant}
    (hcalendar : now.InCalendar) (hformed : now.WellFormed) :
    let store := (Broker.play moves broker.emptied).store
    let ran := plan.runAbout (.receive rollback minutes) word now store readOnly
    (∀ t ∈ ran.2.transactions, t.state = .active → t ∈ store.transactions) ∧
      (∀ queue, CanReceive store word queue now minutes readOnly →
        ∃ next output, (Move.peek queue.id).answer { store, clock := now } = .ok next ∧
          ran.1 = .ran 0 output "" ∧
          Receives store now (now.addMinutes minutes) rollback next output ran.2) ∧
      ((∀ queue, ¬ CanReceive store word queue now minutes readOnly) →
        ∃ reason, ran.1 = .failed reason ∧ ran.2.messages = store.messages) := by
  intro store ran
  have hsound : store.Sound := Broker.play_sound broker moves
  have hreceives (queue : Queue) (hcan : CanReceive store word queue now minutes readOnly) :
      ∃ output, ran.1 = .ran 0 output "" ∧ Receives store now (now.addMinutes minutes) rollback
        (store.nextMessage? queue.id now) output ran.2 := by
    obtain ⟨output, after, hran, h⟩ := hcan.receives hsound hcalendar hformed plan rollback
    have hfirst : ran.1 = .ran 0 output "" := congrArg Prod.fst hran
    have hsecond : ran.2 = after := congrArg Prod.snd hran
    exact ⟨output, hfirst, hsecond ▸ h⟩
  have hfails (hnot : ∀ queue, ¬ CanReceive store word queue now minutes readOnly) :
      ∃ reason closed, ran = (.failed reason, store.plus closed []) ∧
        ∀ t ∈ closed, t.state = .expired :=
    receives_fails hsound hcalendar hformed hnot plan rollback
  refine ⟨fun t ht hactive => ?_, fun queue hcan => ?_, fun hnot => ?_⟩
  · by_cases hcan : ∃ queue, CanReceive store word queue now minutes readOnly
    · obtain ⟨queue, hcan⟩ := hcan
      obtain ⟨_, _, h⟩ := hreceives queue hcan
      exact h.mem_of_active ht hactive
    · obtain ⟨_, closed, hran, hclosed⟩ := hfails (not_exists.1 hcan)
      rw [hran] at ht
      rcases List.mem_append.1 ht with hold | hnew
      · exact hold
      · cases (hclosed t hnew).symm.trans hactive
  · obtain ⟨output, hran, h⟩ := hreceives queue hcan
    exact ⟨_, output, Move.answer_peek rfl (isSome_queue?_of_meant hcan.meant), hran, h⟩
  · obtain ⟨reason, closed, hran, _⟩ := hfails hnot
    rw [hran]
    exact ⟨reason, rfl, List.append_nil _⟩

/-- A run that commits two messages, of which the first may be tried once only, and leaves a
transaction active. -/
def twoWaiting : List Move :=
  [.createQueue "q", .start (.ofSeconds 60),
    .enqueue ⟨1⟩ ⟨1⟩ { payload := [104], maxAttempts := 1 }, .enqueue ⟨1⟩ ⟨1⟩ { payload := [105] },
    .commit ⟨1⟩, .start (.ofSeconds 60)]

/-- Released, the first message is out of attempts; with no minutes to live, nothing is received.
The transaction that was active stays so, and no other is. -/
theorem receive_leaves_nothing_open_twoWaiting :
    let store := (Broker.play twoWaiting (Broker.emptied { clock := ⟨0, 0⟩ })).store
    let released := (planFor .sweep).runAbout (.receive true 5) "q" ⟨30, 0⟩ store false
    let lapsed := (planFor .sweep).runAbout (.receive true 0) "q" ⟨30, 0⟩ store false
    (∃ output, released.1 = .ran 0 output "") ∧
      (released.2.messages.map fun m => (m.state, m.attempts)) =
        [(.attemptsExceeded, 1), (.active, 0)] ∧
      (∀ t ∈ released.2.transactions, t.state = .active → t.id = ⟨2⟩) ∧
      (∃ reason, lapsed.1 = .failed reason) ∧ lapsed.2.messages = store.messages ∧
      lapsed.2.transactions.map Transaction.state = [.committed, .active, .expired] := by
  have hcalendar : Instant.InCalendar ⟨30, 0⟩ := by decide +kernel
  have hformed : Instant.WellFormed ⟨30, 0⟩ := by decide +kernel
  have hreleased := receive_leaves_nothing_open { clock := ⟨0, 0⟩ } twoWaiting (planFor .sweep) "q"
    true 5 false hcalendar hformed
  have hlapsed := receive_leaves_nothing_open { clock := ⟨0, 0⟩ } twoWaiting (planFor .sweep) "q"
    true 0 false hcalendar hformed
  dsimp only at hreleased hlapsed ⊢
  obtain ⟨hactive, hreceives, _⟩ := hreleased
  obtain ⟨_, output, _, hran, _⟩ :=
    hreceives ⟨⟨1⟩, "q"⟩ (by constructor <;> decide +kernel)
  obtain ⟨reason, hfailed, hsame⟩ :=
    hlapsed.2.2 fun queue h => absurd h.lasts (by decide)
  have hkept :
      ∀ t ∈ (Broker.play twoWaiting (Broker.emptied { clock := ⟨0, 0⟩ })).store.transactions,
        t.state = .active → t.id = ⟨2⟩ := by decide +kernel
  exact ⟨⟨output, hran⟩, by decide +kernel,
    fun t ht hstate => hkept t (hactive t ht hstate) hstate, ⟨reason, hfailed⟩, hsame,
    by decide +kernel⟩

end CommandLine

end WorkQueue
