import WorkQueue.Proofs.Journal.Activities
import WorkQueue.Proofs.Run.Parts

/-!
# Relations along whole operations

What relates the broker before and after the parts of calls, and also before and after the clock is
set, relates the broker before and after whatever is done with it: calls of the broker and of the
service, sweeps and watches, one after the other: `Broker.live_relates`.
-/

namespace WorkQueue

namespace Broker

variable {ε α : Type} {R : Broker → Broker → Prop} (h : AcrossCalls R)
  (hclock : ∀ (broker : Broker) (now : Instant), R broker { broker with clock := now })
include h

/-- A sweep is its stages, with what is entered before and after them. -/
theorem AcrossCalls.sweepAt (now : Instant) : Relates R (sweepAt now) :=
  h.bind (fun broker => h.entry broker _) fun _ => h.bind (h.sweepStages _ _) fun _ =>
    h.note_pure _ _

/-- A sweep at the current instant looks at the clock first. -/
theorem AcrossCalls.sweep : Relates R sweep :=
  h.now_bind fun now => h.sweepAt now

/-- The sweeps of a watch are made one after the other. -/
theorem AcrossCalls.sweepTimes (count : Nat) (broker : Broker) :
    R broker (sweepTimes count broker).2 := by
  induction count generalizing broker with
  | zero => exact h.refl broker
  | succ count ih =>
      have honce : R broker broker.sweptOnce := by
        have hsweep := h.sweep broker
        rw [sweptOnce]
        rcases hrun : Broker.sweep.run broker with ⟨error | report, after⟩
        · rw [hrun] at hsweep
          exact h.trans hsweep (h.entry after _)
        · rw [hrun] at hsweep
          exact hsweep
      rw [run_sweepTimes_succ]
      exact h.trans honce (ih _)

include hclock

/-- A run is made of moves. -/
theorem play_relates (moves : List Move) (broker : Broker) : R broker (play moves broker) := by
  induction moves generalizing broker with
  | nil => exact h.refl broker
  | cons move rest ih =>
      have hmove := move.relates h (fun now _ broker => hclock broker now) broker
      exact h.trans hmove (ih _)

/-- A call that is a run of moves enters something in the journal before and after it. -/
theorem IsRun.relates {call : ExceptT ε (StateM Broker) α} (hrun : IsRun call.run) :
    Relates R call := by
  intro broker
  obtain ⟨first, moves, last, hafter⟩ := hrun broker
  have hplay := play_relates h hclock moves (broker.noted first)
  have hnoted : R broker ((play moves (broker.noted first)).noted last) :=
    h.trans (h.entry broker _) (h.trans hplay (h.entry _ _))
  exact (congrArg (R broker) hafter).mpr hnoted

end Broker

open Broker

variable {R : Broker → Broker → Prop} (h : AcrossCalls R)
  (hclock : ∀ (broker : Broker) (now : Instant), R broker { broker with clock := now })
include h

/-- A reply is the call, but for what is entered when it fails. -/
theorem Service.relates_reply {α : Type} {call : Call α} (hcall : Relates R call) :
    Relates R (reply call) := by
  intro broker
  have hbroker := hcall broker
  rcases hrun : call.run broker with ⟨error | answer, after⟩
  · rw [hrun] at hbroker
    rw [run_reply_of_error hrun]
    exact h.trans hbroker (h.entry after _)
  · rw [hrun] at hbroker
    rw [run_reply_of_ok hrun]
    exact hbroker

include hclock

/-- Every operation of the service is made of calls of the broker. -/
theorem Service.Operation.relates (operation : Operation) : Relates R operation.call := by
  have hmoves (move : Move) : Relates R move.call :=
    move.relates h fun now _ broker => hclock broker now
  cases operation with
  | createQueue text => exact relates_reply h (hmoves (.createQueue text))
  | deleteQueue ref => exact relates_reply h (hmoves (.deleteQueue ref))
  | queueInfo ref => exact relates_reply h (h.map (hmoves (.findQueue ref)) _)
  | listQueues => exact relates_reply h (h.map (hmoves .listQueues) _)
  | start lifetime => exact relates_reply h (h.check_bind fun span => hmoves (.start span))
  | extend id lifetime => exact relates_reply h (h.check_bind fun span => hmoves (.extend id span))
  | findTransaction id => exact relates_reply h (hmoves (.findTransaction id))
  | commit id => exact relates_reply h (hmoves (.commit id))
  | rollback id reason => exact relates_reply h (hmoves (.rollback id reason))
  | queueMessage request =>
      exact relates_reply h (h.check_bind fun new =>
        hmoves (.enqueue request.transaction request.queue new))
  | send queue new => exact (isRun_send queue new).relates h hclock
  | dequeue owner queue => exact relates_reply h (h.map (hmoves (.dequeue owner queue)) _)
  | peek queue => exact relates_reply h (h.map (hmoves (.peek queue)) _)
  | findMessage id => exact relates_reply h (h.map (hmoves (.findMessage id)) _)
  | count queue state => exact relates_reply h (hmoves (.count queue state))
  | sweep => exact relates_reply h h.sweep

/-- Every activity is made of calls of the broker. -/
theorem Activity.relates (activity : Activity) (broker : Broker) :
    R broker (activity.after broker) := by
  cases activity with
  | call move => exact move.relates h (fun now _ broker => hclock broker now) broker
  | sweep now => exact h.sweepAt now broker
  | watch millis sweeps =>
      rw [after, run_watch]
      exact h.trans (h.entry broker _) (h.trans (h.sweepTimes sweeps _) (h.entry _ _))
  | serve operation => exact operation.relates h hclock broker

/-- Activities are made one after the other. -/
theorem Broker.live_relates (activities : List Activity) (broker : Broker) :
    R broker (live activities broker) := by
  induction activities generalizing broker with
  | nil => exact h.refl broker
  | cons activity rest ih => exact h.trans (activity.relates h hclock broker) (ih _)

end WorkQueue
