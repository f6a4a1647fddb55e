import WorkQueue.CommandLine.Command
import WorkQueue.Config
import WorkQueue.Json.Printer
import WorkQueue.Location.Opening
import WorkQueue.Service
import WorkQueue.Text.Utf8
import WorkQueue.Wire.Records

/-!
# Running commands

What each command does through the service, and what it prints. A command that fails keeps what it
has printed and what it has done to the store before; the reason goes to the error output. Each
command has a broker of its own. `attempt_of_writable` says that a store which may be changed
refuses no change.
-/

namespace WorkQueue.CommandLine

/-- How a run of the program ended. -/
inductive RunResult where
  /-- The words after the program's name make no command. -/
  | usage
  /-- A command was run: its exit code and what it printed. -/
  | ran (exit : Nat) (output errors : String)
  deriving DecidableEq, Repr

/-- The broker, whether its store must not be changed, and what has been printed so far. -/
structure Session where
  broker : Broker
  readOnly : Bool := false
  output : String := ""

/-- A command at work: it goes on, or fails with a reason. -/
abbrev Script (α : Type) : Type :=
  ExceptT String (StateM Session) α

namespace Script

/-- Print a line. -/
def printLine (line : String) : Script Unit :=
  modify fun session => { session with output := session.output ++ line ++ "\n" }

/-- Do something with the broker, and name the failure it may end with. -/
def withBroker {α ε : Type} (call : ExceptT ε (StateM Broker) α) (reason : ε → String) :
    Script α :=
  ExceptT.mk fun session =>
    let (answer, broker) := call.run session.broker
    (answer.mapError reason, { session with broker })

/-- Call the service. -/
def service {α : Type} (call : Reply α) : Script α :=
  withBroker call Fault.display

/-- Find out whether a change is refused. If the store must not be changed, what is wrong with the
change itself comes first. -/
def attempt {α : Type} (change : Reply α) : Script Unit :=
  ExceptT.mk fun session =>
    if session.readOnly then
      match (change.run session.broker).1 with
      | .ok _ => (.error (Fault.ofError (.storage .readOnly)).display, session)
      | .error fault => (.error fault.display, session)
    else (.ok (), session)

/-- Call the service for a change. -/
def change {α : Type} (call : Reply α) : Script α := do
  attempt call
  service call

/-- A store that may be changed refuses no change. -/
theorem attempt_of_writable {α : Type} (change : Reply α) {session : Session}
    (h : session.readOnly = false) : (attempt change).run session = (.ok (), session) := by
  simp [attempt, ExceptT.run, ExceptT.mk, h]

end Script

open CommandLine.Script

/-- The number of the queue that a word addresses. -/
def resolve (word : String) : Script QueueId := do
  let info ← service (Service.queueInfo (queueRef word))
  pure info.id

/-- A text with blanks after it, at least so many characters long. -/
def padRight (width : Nat) (text : String) : String :=
  text ++ String.ofList (List.replicate (width - text.length) ' ')

/-- A line of the table of queues. -/
def queueLine (number name : String) : String :=
  padRight 8 number ++ "  " ++ name

/-- Print a message. Fields that have nothing to say are left out. -/
def printMessage (message : MessageView) : Script Unit := do
  printLine ("ID:          " ++ toString message.id.value)
  printLine ("Queue:       " ++ toString message.queue.value)
  printLine ("State:       " ++ message.state.word)
  printLine ("Priority:    " ++ toString message.priority)
  printLine ("Attempts:    " ++ toString message.attempts ++ "/" ++ toString message.maxAttempts)
  printLine ("Added:       " ++ message.addTime.toTheSecond)
  if let some expiry := message.expiryTime then
    printLine ("Expires:     " ++ expiry.toTheSecond)
  if let some group := message.group then
    printLine ("Group:       " ++ group)
  if message.correlation ≠ 0 then
    printLine ("Correlation: " ++ toString message.correlation)
  if message.metadata ≠ "" then
    printLine ("Metadata:    " ++ message.metadata)
  printLine ("Payload:     " ++ Text.readUtf8Lossy message.payload)

/-- Print a message, or that there is none. -/
def printNext : Option MessageView → Script Unit
  | some message => printMessage message
  | none => printLine "Queue is empty."

/-- Print how many messages of a queue are in which state. -/
def printStats (stats : QueueStats) : Script Unit := do
  printLine ("active             " ++ toString stats.active)
  printLine ("in_transaction     " ++ toString stats.inTransaction)
  printLine ("processed          " ++ toString stats.processed)
  printLine ("expired            " ++ toString stats.expired)
  printLine ("attempts_exceeded  " ++ toString stats.attemptsExceeded)
  printLine ("total              " ++ toString stats.total)

/-- Print the table of queues. -/
def printQueues (queues : List QueueInfo) : Script Unit := do
  if queues.isEmpty then printLine "No queues."
  else
    printLine (queueLine "ID" "NAME")
    printLine (String.ofList (List.replicate 40 '-'))
    queues.forM fun queue => printLine (queueLine (toString queue.id.value) queue.name)
    printLine ("\n" ++ toString queues.length ++ " queue(s)")

/-- The message that is to be sent. -/
def Sending.newMessage (sending : Sending) : Except String NewMessage := do
  let lifetime ← match sending.expiryMinutes with
    | none => pure none
    | some minutes =>
        match Duration.ofMinutes? minutes with
        | some lifetime => pure (some lifetime)
        | none => throw (toString minutes ++ " minutes is out of range")
  pure {
    payload := Text.writeUtf8 sending.payload
    metadata := sending.metadata
    priority := sending.priority
    maxAttempts := sending.maxAttempts
    lifetime
    correlation := sending.correlation
    group := sending.group }

/-- Receive a message: take it under a new transaction, print it, and commit the transaction or
roll it back. -/
def receiveNext (queue : String) (rollback : Bool) (minutes : Int) : Script Unit := do
  let queue ← resolve queue
  let owner ← change (Service.start minutes)
  match ← service (Service.dequeue owner queue) with
  | none =>
      let _ ← service (Service.rollback owner "nothing to receive")
      printLine "Queue is empty."
  | some message =>
      printMessage message
      if rollback then
        let undone ← service (Service.rollback owner "released by operator")
        printLine (if 0 < undone.exhausted then "Rolled back; message is out of attempts."
          else "Rolled back; message returned to the queue.")
      else
        let _ ← service (Service.commit owner)
        printLine "Committed."

/-- Sweep, whether or not that can be done. -/
def watch : Script Unit :=
  modify fun session =>
    if session.readOnly then session
    else { session with broker := (Broker.watch 1 1 session.broker).2 }

/-- Carry out a command. The server sweeps once as it starts, and then waits to be interrupted. A
message is sent under a transaction that lives a minute. -/
def Command.script : Command → Script Unit
  | .serve => watch
  | .sweep => do
      let report ← change Service.sweep
      printLine report.toJson.pretty
  | .createQueue name => do
      let id ← change (Service.createQueue name)
      printLine ("Created: " ++ id.display)
  | .deleteQueue queue => do
      let removed ← change (Service.deleteQueue (queueRef queue))
      printLine ("Deleted " ++ queue ++ " (" ++ toString removed ++ " message(s) removed)")
  | .queueInfo queue => do
      let info ← service (Service.queueInfo (queueRef queue))
      printLine (queueLine "ID" "NAME")
      printLine (queueLine (toString info.id.value) info.name)
  | .listQueues => do
      printQueues (← service Service.listQueues)
  | .queueStats queue => do
      printStats (← withBroker (Broker.stats (queueRef queue)) Error.message)
  | .send queue sending => do
      let queue ← resolve queue
      let new ← ExceptT.mk (pure sending.newMessage)
      attempt (Service.start 1)
      let id ← service (Service.send queue new)
      printLine ("Sent: " ++ id.display)
  | .receive queue rollback minutes => receiveNext queue rollback minutes
  | .peekQueue queue => do
      let queue ← resolve queue
      printNext (← service (Service.peek queue))
  | .peekMessage id => do
      printMessage (← service (Service.findMessage id))
  | .peekNothing => throw "give a queue or --id"

/-- How a run ends that failed before its command could print anything. -/
def RunResult.failed (reason : String) : RunResult :=
  .ran 1 "" ("Error: " ++ reason ++ "\n")

/-- What the program is asked to do, with which settings, and on which store. -/
structure Plan where
  command : Command
  config : Config
  target : Location.Target

/-- What the words after the program's name and the environment ask for; or, without looking at
any store, how the run ends. The words are read before the environment is. -/
def plan (words : List String) (environment : Environment) : Except RunResult Plan := do
  let command ← (Command.ofWords? words).elim (.error .usage) .ok
  let config ← (Config.ofEnvironment environment).mapError fun error => .failed error.message
  let target ← ((Location.Address.ofText config.databaseUrl).bind Location.Address.target).mapError
    fun fault => .failed fault.message
  pure ⟨command, config, target⟩

/-- Do what is planned on a store. -/
def Plan.run (plan : Plan) (clock : Instant) (store : Store) (readOnly : Bool) :
    RunResult × Store :=
  let broker : Broker := { store, clock, locks := .ofCapacity plan.config.lockTableCapacity }
  match plan.command.script.run { broker, readOnly } with
  | (.ok (), session) => (.ran 0 session.output "", session.broker.store)
  | (.error reason, session) =>
      (.ran 1 session.output ("Error: " ++ reason ++ "\n"), session.broker.store)

/-- Do what is planned where the store is kept. -/
def Plan.runIn (plan : Plan) (clock : Instant) (files : Location.Files) :
    RunResult × Location.Files :=
  match files.openTarget plan.target with
  | (.error fault, files) => (.failed fault.message, files)
  | (.ok opened, files) =>
      let (result, changed) := plan.run clock opened.store opened.readOnly
      (result, files.keep opened changed)

/-- Run the program where stores are kept in files. -/
def run (words : List String) (environment : Environment) (clock : Instant)
    (files : Location.Files) : RunResult × Location.Files :=
  match plan words environment with
  | .error result => (result, files)
  | .ok plan => plan.runIn clock files

end WorkQueue.CommandLine
