import WorkQueue.Proofs.Run.Outcomes
import WorkQueue.Service

/-!
# Calls that take several storage transactions

Sending a message and sweeping take several storage transactions, one after the other. Each of the
two is a run of moves, but for what it enters in the journal, and so is every other call of the
service, which is one move: `isRun_reply`, `isRun_send` and `isRun_sweepAt`. A call that fails
halfway is a run that stops there. What every change keeps is therefore kept by every call.
-/

namespace WorkQueue

namespace Broker

/-- The broker with entries added to its journal. -/
def noted (broker : Broker) (entries : List Entry) : Broker :=
  { broker with journal := broker.journal ++ entries }

/-- Nothing is added to the journal. -/
theorem noted_nil (broker : Broker) : broker.noted [] = broker := by
  rw [noted, List.append_nil]

/-- Is the program a run of moves, but for what it enters in the journal before and after? -/
def IsRun {α : Type} (program : StateM Broker α) : Prop :=
  ∀ broker, ∃ first moves last,
    (program.run broker).2 = (play moves (broker.noted first)).noted last

/-- A property of the store that every change keeps is kept by every program that is a run. -/
theorem IsRun.store {Holds : Store → Prop}
    (hchange : ∀ change store, Change.Allowed store change → Holds store →
      Holds (change.apply store))
    {α : Type} {program : StateM Broker α} (hrun : IsRun program) {broker : Broker}
    (h : Holds broker.store) : Holds (program.run broker).2.store := by
  obtain ⟨first, moves, last, hafter⟩ := hrun broker
  rw [hafter]
  exact play_store Holds hchange moves h

/-- What is shown of the answer of a call is shown when it answers. -/
theorem answer_run_map {α β : Type} (shown : α → β) (call : Call α) (broker : Broker) :
    ((shown <$> call).run broker).1 = (call.run broker).1.map shown := by
  rw [map_eq_pure_bind]
  rcases hrun : call.run broker with ⟨error | answer, after⟩
  · rw [run_bind_of_error hrun]
    rfl
  · rw [run_bind_of_ok hrun]
    rfl

/-- Showing the answer of a call does to the store what the call does. -/
theorem store_run_map {α β : Type} (shown : α → β) (call : Call α) (broker : Broker) :
    ((shown <$> call).run broker).2.store = (call.run broker).2.store := by
  rw [map_eq_pure_bind]
  rcases hrun : call.run broker with ⟨error | answer, after⟩
  · rw [run_bind_of_error hrun]
  · rw [run_bind_of_ok hrun]
    rfl

/-- The broker after a stage of a sweep. -/
def swept (broker : Broker) (stage : SweepStage) (now : Instant) : Broker :=
  let (rows, store) := stage.repair now broker.store
  { broker.begun with store }.noted (rows.map fun (step, count) => .event (.sweepStep step count))

/-- A sweep whose first stage begins goes on with the others. -/
theorem run_sweepStages_of_ok {now : Instant} {stage : SweepStage} {rest : List SweepStage}
    {broker : Broker} (h : broker.outages.hitsNext = false) :
    (sweepStages now (stage :: rest)).run broker =
      ((sweepStages now rest).run (broker.swept stage now)).map
        (Except.map ((stage.repair now broker.store).1 ++ ·)) id := by
  have hstage : (inStorage (modifyGet (stage.repair now))).run broker =
      (.ok (stage.repair now broker.store).1,
        { broker.begun with store := (stage.repair now broker.store).2 }) :=
    run_inStorage_of_ok h rfl
  have hrest : ∀ rows after answer,
      (sweepStages now rest).run (broker.swept stage now) = (answer, after) →
        (sweepStages now rest >>= fun more => pure (rows ++ more)).run (broker.swept stage now) =
          (answer.map (rows ++ ·), after) := by
    rintro rows after (error | more) hrest
    · exact run_bind_of_error hrest
    · exact run_bind_of_ok hrest
  rw [sweepStages, run_bind_of_ok hstage]
  exact hrest _ _ _ rfl

/-- Some stages of a sweep are the moves of the stages up to the first that cannot begin. -/
theorem exists_play_sweepStages (now : Instant) (stages : List SweepStage) (broker : Broker) :
    ∃ made, ((sweepStages now stages).run broker).2 =
      play ((stages.take made).map fun stage => .sweep stage now) broker := by
  induction stages generalizing broker with
  | nil => exact ⟨0, rfl⟩
  | cons stage rest ih =>
      cases hbegin : broker.outages.hitsNext with
      | true =>
          refine ⟨1, ?_⟩
          have hafter : (Move.sweep stage now).after broker =
              ((sweepStages now [stage]).run broker).2 := rfl
          rw [List.take_succ_cons, List.take_zero, List.map_singleton, play, play, hafter]
          rw [sweepStages, run_bind_of_error (run_inStorage_of_outage hbegin), sweepStages,
            run_bind_of_error (run_inStorage_of_outage hbegin)]
      | false =>
          obtain ⟨made, hmade⟩ := ih ((Move.sweep stage now).after broker)
          refine ⟨made + 1, ?_⟩
          have hafter : (Move.sweep stage now).after broker = broker.swept stage now := by
            rw [Move.after, Move.call, run_sweepStages_of_ok hbegin]
            rfl
          rw [run_sweepStages_of_ok hbegin, List.take_succ_cons, List.map_cons, play, ← hmade,
            hafter]
          rfl

/-- A sweep is a run of its stages, up to the first that cannot begin. -/
theorem isRun_sweepAt (now : Instant) : IsRun (sweepAt now).run := by
  intro broker
  have hopened : (note [.sweepOpened now] : Call Unit).run broker =
      (.ok (), broker.noted [.sweepOpened now]) := rfl
  obtain ⟨made, hmade⟩ :=
    exists_play_sweepStages now SweepStage.all (broker.noted [.sweepOpened now])
  refine ⟨[.sweepOpened now], (SweepStage.all.take made).map fun stage => .sweep stage now, ?_⟩
  rw [sweepAt, ← hmade]
  show ∃ last, ((sweepAt now).run broker).2 = Broker.noted _ last
  rw [sweepAt, run_bind_of_ok hopened]
  cases hstages : (sweepStages now SweepStage.all).run (broker.noted [.sweepOpened now]) with
  | mk answer after =>
      cases answer with
      | error error => exact ⟨[], by rw [run_bind_of_error hstages, noted_nil]⟩
      | ok rows =>
          rw [run_bind_of_ok hstages]
          exact ⟨_, rfl⟩

end Broker

namespace Service

open Broker

variable {α β : Type} {broker after : Broker} {error : Error}

/-- The entries of the journal about a call that fails. -/
def failureEntries (error : Error) : List Entry :=
  if error.code = .unknown then [.event (.internalFailure error)] else []

/-- Failing adds to the journal, and does nothing else. -/
theorem run_fail (error : Error) (broker : Broker) :
    (fail (α := α) error).run broker =
      (.error (Fault.ofError error), broker.noted (failureEntries error)) := by
  rw [fail, failureEntries]
  split
  · rfl
  · rw [noted_nil]
    rfl

/-- A step that cannot fail lets the call go on. -/
theorem run_lift_bind {step : StateM Broker α} {next : α → Reply β} {answer : α}
    (h : step broker = (answer, after)) :
    ((liftM step : Reply α) >>= next).run broker = (next answer).run after := by
  simp only [bind, ExceptT.bind, ExceptT.mk, ExceptT.run, StateT.bind, liftM, monadLift,
    MonadLift.monadLift, ExceptT.lift, Functor.map, StateT.map, h]
  rfl

/-- A reply is the answer of the call. -/
theorem run_reply_of_ok {call : Call α} {answer : α} (h : call.run broker = (.ok answer, after)) :
    (reply call).run broker = (.ok answer, after) :=
  run_lift_bind h

/-- A reply is the fault for the error of the call. -/
theorem run_reply_of_error {call : Call α} (h : call.run broker = (.error error, after)) :
    (reply call).run broker =
      (.error (Fault.ofError error), after.noted (failureEntries error)) :=
  (run_lift_bind h).trans (run_fail error after)

/-- Replies to calls that come to the same are the same. -/
theorem run_reply_congr {call other : Call α}
    (h : call.run broker = other.run broker) :
    (reply call).run broker = (reply other).run broker := by
  rcases hrun : other.run broker with ⟨error | answer, after⟩
  · rw [run_reply_of_error hrun, run_reply_of_error (h.trans hrun)]
  · rw [run_reply_of_ok hrun, run_reply_of_ok (h.trans hrun)]

/-- A reply that answers is to a call that has answered. -/
theorem run_of_run_reply {call : Call α} {answer : α}
    (h : (reply call).run broker = (.ok answer, after)) :
    call.run broker = (.ok answer, after) := by
  rcases hrun : call.run broker with ⟨error | shown, made⟩
  · cases (run_reply_of_error hrun).symm.trans h
  · cases (run_reply_of_ok hrun).symm.trans h
    rfl

/-- A reply is the answer of the call, or the fault for its error. -/
theorem answer_run_reply (call : Call α) (broker : Broker) :
    ((reply call).run broker).1 = (call.run broker).1.mapError Fault.ofError := by
  rcases hrun : call.run broker with ⟨error | answer, after⟩
  · rw [run_reply_of_error hrun]
    rfl
  · rw [run_reply_of_ok hrun]
    rfl

/-- Replying to a call does to the store what the call does: a failure is entered in the journal
only. -/
theorem store_run_reply (call : Call α) (broker : Broker) :
    ((reply call).run broker).2.store = (call.run broker).2.store := by
  rcases hrun : call.run broker with ⟨error | answer, after⟩
  · rw [run_reply_of_error hrun]
    rfl
  · rw [run_reply_of_ok hrun]

/-- A reply to a move is the move, but for what it enters in the journal when it fails. -/
theorem exists_run_reply (move : Move) (broker : Broker) :
    ∃ answer last, (reply move.call).run broker = (answer, (move.after broker).noted last) := by
  cases hmove : move.call.run broker with
  | mk answer after =>
      have hafter : move.after broker = after := congrArg Prod.snd hmove
      rw [hafter]
      cases answer with
      | error error => exact ⟨_, _, run_reply_of_error hmove⟩
      | ok answer => exact ⟨_, [], by rw [run_reply_of_ok hmove, noted_nil]⟩

/-- A reply to a move is a run of that move. -/
theorem isRun_reply (move : Move) : IsRun (reply move.call).run := by
  intro broker
  obtain ⟨answer, last, hrun⟩ := exists_run_reply move broker
  refine ⟨[], [move], last, ?_⟩
  rw [noted_nil]
  exact congrArg Prod.snd hrun

/-- Undoing the transaction of a message that could not be added is one move. -/
theorem exists_run_undo (owner : TransactionId) (error : Error) (broker : Broker) :
    ∃ last, (do
        match ← (Broker.rollback owner "enqueue failed").run with
        | .ok _ => pure ()
        | .error undo => Broker.note [.event (.undoFailed owner undo)]
        fail error : Reply MessageId).run broker =
      (.error (Fault.ofError error),
        ((Move.rollback owner "enqueue failed").after broker).noted last) := by
  rcases hundo : (Broker.rollback owner "enqueue failed").run broker with ⟨undo | summary, after⟩
  · have hafter : (Move.rollback owner "enqueue failed").after broker = after :=
      congrArg Prod.snd hundo
    have hnoted : note [.event (.undoFailed owner undo)] after =
        ((), after.noted [.event (.undoFailed owner undo)]) := rfl
    refine ⟨.event (.undoFailed owner undo) :: failureEntries error, ?_⟩
    rw [run_lift_bind hundo, run_lift_bind hnoted, run_fail, hafter]
    simp only [noted, List.append_assoc, List.singleton_append]
  · have hafter : (Move.rollback owner "enqueue failed").after broker = after :=
      congrArg Prod.snd hundo
    refine ⟨failureEntries error, ?_⟩
    rw [run_lift_bind hundo, hafter]
    exact run_fail error after

/-- Sending a message is a run: its transaction is started, the message is added, and the
transaction is committed, or rolled back if the message cannot be added. -/
theorem isRun_send (queue : QueueId) (new : NewMessage) : IsRun (send queue new).run := by
  intro broker
  let start := Move.start (Duration.ofSeconds 60)
  let add (owner : TransactionId) := Move.enqueue owner queue new
  show ∃ first moves last, ((send queue new).run broker).2 = _
  rw [send]
  rcases hstart : (Broker.start (Duration.ofSeconds 60)).run broker with ⟨error | owner, begun⟩
  · have hafter : start.after broker = begun := congrArg Prod.snd hstart
    refine ⟨[], [start], failureEntries error, ?_⟩
    rw [run_bind_of_error (run_reply_of_error hstart), noted_nil, play, play, hafter]
  have hbegun : start.after broker = begun := congrArg Prod.snd hstart
  rw [run_bind_of_ok (run_reply_of_ok hstart)]
  rcases hadd : (Broker.enqueue owner queue new).run begun with ⟨error | id, filled⟩
  · have hfilled : (add owner).after begun = filled := congrArg Prod.snd hadd
    obtain ⟨last, hundo⟩ := exists_run_undo owner error filled
    refine ⟨[], [start, add owner, .rollback owner "enqueue failed"], last, ?_⟩
    rw [run_lift_bind hadd, noted_nil, play, play, play, play, hbegun, hfilled]
    exact congrArg Prod.snd hundo
  · have hfilled : (add owner).after begun = filled := congrArg Prod.snd hadd
    rcases exists_run_reply (.commit owner) filled with ⟨fault | summary, last, hcommit⟩
    all_goals
      refine ⟨[], [start, add owner, .commit owner], last, ?_⟩
      rw [run_lift_bind hadd, noted_nil, play, play, play, play, hbegun, hfilled]
    · exact congrArg Prod.snd (run_bind_of_error hcommit)
    · exact congrArg Prod.snd (run_bind_of_ok hcommit)

end Service

end WorkQueue
