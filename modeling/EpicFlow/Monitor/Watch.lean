import EpicFlow.Card.Reading
import EpicFlow.Monitor.Config
import EpicFlow.Worker.Backend

/-!
# Watching a running stage

The monitor polls a running run until it ends. Each poll waits the current
interval (or ends the run as aborted when the work is cancelled), asks the
worker for the run's status, folds the reported usage into the run, and reads
the card:

* a complete card completes the run with the card's signals;
* a card without requirements that is marked completed needs an operator,
  its signals recorded (`SignalMissing`);
* an unreachable card counts towards the limit of unreachable polls, after
  which the run needs an operator (`CardUnreachable`);
* a corrupt card needs an operator at once (`CardCorruption`);
* a worker that is no longer running fails the run (`WorkerFailed`), as does a
  status query that fails.

Progress is anything that moves: the worker's turns, cost or activity, or the
card's modification time or checked count. A run without progress for the
longest wait is stuck. The interval shrinks once most requirements are
checked.

Main statements:

* `Observed.worker_same`: a status equal to the last one is no progress.
-/

set_option autoImplicit false

namespace EpicFlow

/-- What the previous poll saw. -/
structure Observed where
  turns : Nat
  cost : Float
  activity : Option Int := none
  modified : Option Nat := none
  checked : Nat := 0

namespace Observed

/-- Take in a worker status; the flag tells whether anything moved. -/
def worker (o : Observed) (s : WorkerStatus) : Observed × Bool :=
  ({ o with turns := s.turns, cost := s.cost, activity := s.activity },
    s.turns != o.turns || s.cost != o.cost || s.activity != o.activity)

/-- Take in a card view; the flag tells whether anything moved. -/
def card (o : Observed) (v : CardView) : Observed × Bool :=
  ({ o with modified := v.modified, checked := v.checked }, v.modified != o.modified || v.checked != o.checked)

theorem worker_same (o : Observed) (s : WorkerStatus) (ht : s.turns = o.turns) (hc : (s.cost != o.cost) = false)
    (ha : s.activity = o.activity) : (o.worker s).2 = false := by
  simp [worker, ht, hc, ha]

end Observed

namespace Monitor

/-- End a run with a status and reason, and store it. -/
def finish (run : Run) (st : RunStatus) (reason : Option Rationale) : Eng Run := do
  let run := run.finish st reason (← Eng.stamp)
  Eng.updateStore (·.updateRun run)
  pure run

/-- The most polls one watch makes. -/
def maxPolls : Nat := 10000000

/-- What a watch carries from one poll to the next. -/
structure Watch where
  run : Run
  observed : Observed
  /-- the millisecond of the last progress -/
  lastProgress : Nat
  /-- the current interval, in nanoseconds -/
  interval : Nat
  unreachable : Nat

/-- Poll until the run ends. -/
def loop (w : Worker Eng) (mb : Mailbox Eng) (cfg : MonitorConfig) : Nat → Watch → Eng Run
  | 0, s => finish s.run .stuck (some .stuck)
  | fuel + 1, s => do
    if ← Eng.sleepOrCancel s.interval then return ← finish s.run .failed (some .aborted)
    let status ← match ← Job.attempt (w.status s.run.runId) with
      | .ok st => pure st
      | .error _ => return ← finish s.run .failed (some .workerFailed)
    let (observed, progressed) := s.observed.worker status
    let (run, changed) := s.run.recordUsage status.turns status.cost
    let mut s := { s with run, observed }
    let mut progressed := progressed
    let mut changed := changed
    match ← Job.attempt (CardBook.pullAndRead mb run.cardId) with
    | .ok v =>
      let (observed, moved) := s.observed.card v
      progressed := progressed || moved
      s := { s with observed, unreachable := 0 }
      if s.run.lastCardStatus != some v.summary then
        s := { s with run := { s.run with lastCardStatus := some v.summary } }
        changed := true
      if v.status == .complete then
        return ← finish (s.run.recordSignals v.card.signals) .completed none
      if v.status == .ambiguous && v.card.completed.isSome then
        return ← finish (s.run.recordSignals v.card.signals) .needsHuman (some .signalMissing)
      s := { s with interval := cfg.intervalFor v.progress }
    | .error (.cardUnreachable _) =>
      s := { s with unreachable := s.unreachable + 1 }
      if s.unreachable ≥ cfg.maxUnreachablePolls then
        return ← finish s.run .needsHuman (some .cardUnreachable)
    | .error (.cardCorruption _) => return ← finish s.run .needsHuman (some .cardCorruption)
    | .error e => throw e
    if !status.isAlive then return ← finish s.run .failed (some .workerFailed)
    let now ← Eng.now
    if progressed then s := { s with lastProgress := now }
    else if (now - s.lastProgress) * 1000000 ≥ cfg.maxWait then
      return ← finish s.run .stuck (some .stuck)
    if changed then Eng.updateStore (·.updateRun s.run)
    loop w mb cfg fuel s

/-- Watch a running run until it is completed, failed, stuck or needs an
operator; the ended run is stored. -/
def watch (w : Worker Eng) (mb : Mailbox Eng) (cfg : MonitorConfig) (run : Run) : Eng Run := do
  loop w mb cfg maxPolls ⟨run, { turns := run.turns, cost := run.cost }, ← Eng.now, cfg.baseInterval, 0⟩

end Monitor

end EpicFlow
