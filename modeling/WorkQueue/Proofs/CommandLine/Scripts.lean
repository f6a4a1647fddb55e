import WorkQueue.CommandLine.Run
import WorkQueue.Proofs.Run.Calls

/-!
# Commands at work

How the scripts of commands run: one part after the other, until one of them fails. `Script.Ensures`
says of a script what holds of the store when it ends, if something holds of the store when it
begins, with a rule for each way of putting scripts together. Printing leaves the store alone, and
so does a script that is refused.
-/

namespace WorkQueue.CommandLine

open Broker Service

namespace Script

variable {α β : Type} {session left : Session} {answer : α}

/-- A script that has answered has done so in each of its parts. -/
theorem exists_of_run_bind {script : Script α} {next : α → Script β} {last : β}
    (h : (script >>= next).run session = (.ok last, left)) :
    ∃ answer between, script.run session = (.ok answer, between) ∧
      (next answer).run between = (.ok last, left) := by
  rcases hrun : script.run session with ⟨reason | answer, between⟩
  · cases (run_bind_of_error hrun).symm.trans h
  · exact ⟨answer, between, rfl, (run_bind_of_ok hrun).symm.trans h⟩

/-- What is done with the broker answers as the call does, with the failure named. -/
theorem run_withBroker {ε : Type} (call : ExceptT ε (StateM Broker) α) (reason : ε → String)
    (session : Session) :
    (withBroker call reason).run session =
      ((call.run session.broker).1.mapError reason,
        { session with broker := (call.run session.broker).2 }) :=
  rfl

/-- A call of the service that answers goes on with the broker as the call leaves it. -/
theorem run_service_of_ok {call : Call α} {after : Broker}
    (h : call.run session.broker = (.ok answer, after)) :
    (service (reply call)).run session = (.ok answer, { session with broker := after }) := by
  rw [service, run_withBroker, run_reply_of_ok h]
  rfl

/-- A call of the service that fails names its failure. -/
theorem run_service_of_error {call : Call α} {error : Error} {after : Broker}
    (h : call.run session.broker = (.error error, after)) :
    (service (reply call)).run session =
      (.error (Fault.ofError error).display,
        { session with broker := after.noted (failureEntries error) }) := by
  rw [service, run_withBroker, run_reply_of_error h]
  rfl

/-- A store that may be changed is changed by calling the service. -/
theorem run_change_of_writable (call : Reply α) (h : session.readOnly = false) :
    (change call).run session = (service call).run session :=
  run_bind_of_ok (attempt_of_writable call h)

/-- Finding out whether a change is refused changes nothing. -/
theorem exists_run_attempt (change : Reply α) (session : Session) :
    ∃ result, (attempt change).run session = (result, session) := by
  unfold attempt
  simp only [ExceptT.run_mk]
  split
  · split <;> exact ⟨_, rfl⟩
  · exact ⟨_, rfl⟩

/-- Calls that come to the same are called for with the same result. -/
theorem run_change_congr {call other : Reply α}
    (h : call.run session.broker = other.run session.broker) :
    (change call).run session = (change other).run session := by
  have hattempt : (attempt call).run session = (attempt other).run session := by
    simp only [attempt, ExceptT.run_mk, h]
  rw [change, change, run_bind_congr hattempt]
  obtain ⟨result, hrun⟩ := exists_run_attempt other session
  cases result with
  | error reason => rw [run_bind_of_error hrun, run_bind_of_error hrun]
  | ok _ =>
      rw [run_bind_of_ok hrun, run_bind_of_ok hrun]
      simp only [service, run_withBroker, h]

/-- A change that was called for and has answered was made. -/
theorem run_of_run_change {call : Reply α} (h : (change call).run session = (.ok answer, left)) :
    ∃ after, call.run session.broker = (.ok answer, after) ∧
      left = { session with broker := after } := by
  obtain ⟨_, between, hattempt, hservice⟩ := exists_of_run_bind h
  obtain ⟨result, hsame⟩ := exists_run_attempt call session
  cases hsame.symm.trans hattempt
  rcases hrun : call.run session.broker with ⟨fault | shown, after⟩
  all_goals rw [service, run_withBroker, hrun] at hservice
  · cases hservice
  · cases hservice
    exact ⟨after, rfl, rfl⟩

/-- What holds of the store when the script begins, when it has answered, and when it has failed. -/
def Ensures (Before : Store → Prop) (script : Script α) (After : α → Store → Prop)
    (Failed : Store → Prop) : Prop :=
  ∀ session : Session, Before session.broker.store →
    match script.run session with
    | (.ok answer, left) => After answer left.broker.store
    | (.error _, left) => Failed left.broker.store

variable {Before Failed : Store → Prop} {After : α → Store → Prop} {Last : β → Store → Prop}

/-- The second part of a script begins where the first has answered. -/
theorem Ensures.bind {script : Script α} {next : α → Script β}
    (h : Ensures Before script After Failed)
    (hnext : ∀ answer, Ensures (After answer) (next answer) Last Failed) :
    Ensures Before (script >>= next) Last Failed := by
  intro session hbefore
  have hfirst := h session hbefore
  cases hrun : script.run session with
  | mk result left =>
      rw [hrun] at hfirst
      cases result with
      | error reason =>
          rw [run_bind_of_error hrun]
          exact hfirst
      | ok answer =>
          rw [run_bind_of_ok hrun]
          exact hnext answer left hfirst

/-- What holds more often when the script ends, and less often when it begins. -/
theorem Ensures.weaken {script : Script α} {Earlier Worse : Store → Prop}
    {Later : α → Store → Prop} (h : Ensures Before script After Failed)
    (hbefore : ∀ store, Earlier store → Before store)
    (hafter : ∀ answer store, After answer store → Later answer store)
    (hfailed : ∀ store, Failed store → Worse store) : Ensures Earlier script Later Worse := by
  intro session hearlier
  have hrun := h session (hbefore _ hearlier)
  split at hrun
  · exact hafter _ _ hrun
  · exact hfailed _ hrun

/-- Something that is worked out without a look at the store leaves it alone. -/
theorem ensures_except {result : Except String α}
    (hafter : ∀ answer store, Before store → After answer store)
    (hfailed : ∀ store, Before store → Failed store) :
    Ensures Before (ExceptT.mk (pure result)) After Failed := by
  intro session hbefore
  cases result with
  | ok answer => exact hafter answer _ hbefore
  | error reason => exact hfailed _ hbefore

/-- Finding out whether a change is refused leaves the store alone. -/
theorem ensures_attempt (change : Reply α) (hfailed : ∀ store, Before store → Failed store) :
    Ensures Before (attempt change) (fun _ => Before) Failed := by
  intro session hbefore
  obtain ⟨result, hrun⟩ := exists_run_attempt change session
  rw [hrun]
  cases result with
  | ok _ => exact hbefore
  | error reason => exact hfailed _ hbefore

/-- What is done with the broker is what the script does to the store. -/
theorem ensures_withBroker {ε : Type} {call : ExceptT ε (StateM Broker) α} {reason : ε → String}
    (h : ∀ broker, Before broker.store → match call.run broker with
      | (.ok answer, after) => After answer after.store
      | (.error _, after) => Failed after.store) :
    Ensures Before (withBroker call reason) After Failed := by
  intro session hbefore
  have hcall := h session.broker hbefore
  rw [run_withBroker]
  cases hresult : call.run session.broker with
  | mk result after =>
      rw [hresult] at hcall
      cases result with
      | ok answer => exact hcall
      | error error => exact hcall

/-- What a call of the broker does to the store is what the script does that calls the service for
it: a failure is entered in the journal only. -/
theorem ensures_reply {call : Call α}
    (h : ∀ broker, Before broker.store → match call.run broker with
      | (.ok answer, after) => After answer after.store
      | (.error _, after) => Failed after.store) :
    Ensures Before (service (reply call)) After Failed := by
  refine ensures_withBroker ?_
  intro broker hbefore
  have hcall := h broker hbefore
  cases hrun : call.run broker with
  | mk result after =>
      rw [hrun] at hcall
      cases result with
      | ok answer =>
          rw [run_reply_of_ok hrun]
          exact hcall
      | error error =>
          rw [run_reply_of_error hrun]
          exact hcall

/-- What is so of the store after the call, whether or not it answers, is so after the script. -/
theorem ensures_of_store {ε : Type} {call : ExceptT ε (StateM Broker) α} {reason : ε → String}
    {Kept : Store → Prop} (h : ∀ broker, Before broker.store → Kept (call.run broker).2.store)
    (hfailed : ∀ store, Kept store → Failed store) :
    Ensures Before (withBroker call reason) (fun _ => Kept) Failed := by
  refine ensures_withBroker ?_
  intro broker hbefore
  have hkept := h broker hbefore
  rcases hrun : call.run broker with ⟨error | answer, after⟩
  · rw [hrun] at hkept
    exact hfailed _ hkept
  · rw [hrun] at hkept
    exact hkept

/-- Calling for a change leaves the store alone when the change is refused. -/
theorem Ensures.change {call : Reply α} (h : Ensures Before (service call) After Failed)
    (hrefused : ∀ store, Before store → Failed store) :
    Ensures Before (change call) After Failed :=
  (ensures_attempt call hrefused).bind fun _ => h

/-- Does the script fail, with nothing printed and nothing done to the store? -/
def Refuses (script : Script α) (session : Session) : Prop :=
  ∃ reason broker, script.run session = (.error reason, { session with broker }) ∧
    broker.store = session.broker.store

/-- A script whose first part is refused is refused. -/
theorem Refuses.bind {script : Script α} (h : Refuses script session) (next : α → Script β) :
    Refuses (script >>= next) session := by
  obtain ⟨reason, broker, hrun, hstore⟩ := h
  exact ⟨reason, broker, run_bind_of_error hrun, hstore⟩

/-- A call that fails and leaves the store alone is refused. -/
theorem refuses_withBroker {ε : Type} {call : ExceptT ε (StateM Broker) α} (named : ε → String)
    (error : ε) (h : (call.run session.broker).1 = .error error)
    (hstore : (call.run session.broker).2.store = session.broker.store) :
    Refuses (withBroker call named) session := by
  refine ⟨named error, _, ?_, hstore⟩
  rw [run_withBroker, h]
  rfl

/-- Calling for a change that fails and leaves the store alone is refused, whether or not the store
must not be changed. -/
theorem refuses_change {call : Reply α} (fault : Fault)
    (h : (call.run session.broker).1 = .error fault)
    (hstore : (call.run session.broker).2.store = session.broker.store) :
    Refuses (change call) session := by
  obtain ⟨result, hrun⟩ := exists_run_attempt call session
  cases result with
  | error reason => exact Refuses.bind ⟨reason, session.broker, hrun, rfl⟩ _
  | ok _ =>
      obtain ⟨reason, broker, hfailed, hsame⟩ := refuses_withBroker Fault.display fault h hstore
      exact ⟨reason, broker, (run_bind_of_ok hrun).trans hfailed, hsame⟩

/-- A store that must not be changed refuses every change. -/
theorem refuses_change_of_readOnly (call : Reply α) (h : session.readOnly = true) :
    Refuses (change call) session := by
  have hattempt : Refuses (attempt call) session := by
    simp only [Refuses, attempt, ExceptT.run_mk, if_pos h]
    split
    · exact ⟨_, session.broker, rfl, rfl⟩
    · exact ⟨_, session.broker, rfl, rfl⟩
  exact hattempt.bind _

/-- Does the script print this text, and do nothing else? -/
def Writes (script : Script Unit) (text : String) : Prop :=
  ∀ session, script.run session = (.ok (), { session with output := session.output ++ text })

/-- A line is printed with its end. -/
theorem writes_printLine (line : String) : Writes (printLine line) (line ++ "\n") := by
  intro session
  rw [← String.append_assoc]
  rfl

/-- Does the script print a text, the same in all sessions, and do nothing else? -/
def Prints (script : Script Unit) : Prop :=
  ∃ text, Writes script text

/-- A line is printed. -/
theorem prints_printLine (line : String) : Prints (printLine line) :=
  ⟨_, writes_printLine line⟩

/-- One thing is printed after the other. -/
theorem Prints.bind {first : Script Unit} {next : Unit → Script Unit} (h : Prints first)
    (hnext : Prints (next ())) : Prints (first >>= next) := by
  obtain ⟨text, htext⟩ := h
  obtain ⟨more, hmore⟩ := hnext
  refine ⟨text ++ more, fun session => ?_⟩
  rw [run_bind_of_ok (htext session), hmore, ← String.append_assoc]

/-- Something is printed before the rest, or is left out. -/
theorem Prints.after {rest line : Script Unit} (h : Prints rest) (present : Prop)
    [Decidable present] (hline : Prints line) :
    Prints (if present then line >>= fun _ => rest else rest) := by
  split
  · exact hline.bind h
  · exact h

/-- Printing leaves the store alone. -/
theorem Prints.ensures {script : Script Unit} (h : Prints script) :
    Ensures Before script (fun _ => Before) Failed := by
  intro session hbefore
  obtain ⟨text, htext⟩ := h
  rw [htext session]
  exact hbefore

end Script

open CommandLine.Script

/-- Printing a message prints. -/
theorem prints_printMessage (message : MessageView) : Prints (printMessage message) := by
  -- Each line is printed by itself, and a field that has nothing to say is passed over.
  have hmetadata := (prints_printLine ("Payload:     " ++ Text.readUtf8Lossy message.payload)).after
    (message.metadata ≠ "") (prints_printLine ("Metadata:    " ++ message.metadata))
  have hcorrelation := hmetadata.after (message.correlation ≠ 0)
    (prints_printLine ("Correlation: " ++ toString message.correlation))
  unfold printMessage
  refine (prints_printLine _).bind ?_
  refine (prints_printLine _).bind ?_
  refine (prints_printLine _).bind ?_
  refine (prints_printLine _).bind ?_
  refine (prints_printLine _).bind ?_
  refine (prints_printLine _).bind ?_
  cases message.expiryTime with
  | none =>
      cases message.group with
      | none => exact hcorrelation
      | some group => exact (prints_printLine _).bind hcorrelation
  | some expiry =>
      refine (prints_printLine _).bind ?_
      cases message.group with
      | none => exact hcorrelation
      | some group => exact (prints_printLine _).bind hcorrelation

/-- Printing the next message, or that there is none, prints. -/
theorem prints_printNext (next : Option MessageView) : Prints (printNext next) := by
  cases next with
  | none => exact prints_printLine _
  | some message => exact prints_printMessage message

/-- Printing the messages of a queue, by state, prints. -/
theorem prints_printStats (stats : QueueStats) : Prints (printStats stats) := by
  unfold printStats
  exact (prints_printLine _).bind ((prints_printLine _).bind ((prints_printLine _).bind
    ((prints_printLine _).bind ((prints_printLine _).bind (prints_printLine _)))))

end WorkQueue.CommandLine
