import WorkQueue.Broker.Basic
import WorkQueue.Work.Sweep

/-!
# Sweeping

A sweep makes its five stages one after the other. What a stage has repaired stays repaired when
a later stage cannot begin; then the sweep fails, and nothing is added to the counters. A watch
sweeps again and again, and a sweep that fails does not end it.
-/

namespace WorkQueue.Broker

/-- Make stages of a sweep, each in a storage transaction of its own. -/
def sweepStages (now : Instant) : List SweepStage → Call (List (SweepStep × Nat))
  | [] => pure []
  | stage :: rest => do
      let rows ← inStorage (modifyGet (stage.repair now))
      note (rows.map fun (step, count) => .event (.sweepStep step count))
      let more ← sweepStages now rest
      pure (rows ++ more)

/-- Sweep as if the clock stood at an instant. -/
def sweepAt (now : Instant) : Call SweepReport := do
  note [.sweepOpened now]
  let rows ← sweepStages now SweepStage.all
  let report := SweepReport.ofRows rows
  note ([.sweepRecorded report.total] ++
    SweepStep.all.map (fun step => .counted (.sweepRows step) (report.get step)) ++
    [.counted .timedSweeps 1] ++
    if report.isEmpty then [] else [.event (.sweepRepaired report)])
  pure report

/-- Sweep at the current instant. -/
def sweep : Call SweepReport := do
  let now ← now
  sweepAt now

/-- Sweep a number of times; sweeps that fail are noted. -/
def sweepTimes : Nat → StateM Broker Unit
  | 0 => pure ()
  | count + 1 => do
      match ← sweep.run with
      | .ok _ => pure ()
      | .error error => note [.event (.sweepFailed error)]
      sweepTimes count

/-- Watch over the store for a number of sweeps, so many milliseconds apart but at least one. -/
def watch (millis : Nat) (sweeps : Nat) : StateM Broker Unit := do
  note [.event (.watchStarted (max 1 millis / 1000))]
  sweepTimes sweeps
  note [.event .watchStopping]

end WorkQueue.Broker
