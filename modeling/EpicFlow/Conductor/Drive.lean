import EpicFlow.Epic.Lifecycle
import EpicFlow.Monitor.Watch
import EpicFlow.Session.Lifecycle
import EpicFlow.Route
import EpicFlow.Pattern

/-!
# Driving an epic

A conductor drives an active epic stage by stage until it is blocked, ends,
or the work is cancelled between stages. One stage is: check the budget and
the attempt limit, write a task card, hand out a session, start the run,
watch it, tear the session down, and apply the router's decision.

Decisions that hand the epic to an operator raise an escalation. A decision
the epic refuses (a target outside the stage table) becomes an escalation of
its own, unless the epic has already ended.

A run left running by an earlier process is taken over: if its worker is
gone it failed as interrupted; otherwise its session is adopted, its card
read back, and it is watched to its end like any other.

Main statements:

* `drive_inactive`: an epic that is not active is answered as it is.
-/

set_option autoImplicit false

namespace EpicFlow

/-- Where a conductor sends the escalations it raises. -/
inductive EscalationSink where
  /-- kept in the store, where operators answer them -/
  | store
  /-- only numbered, and kept nowhere -/
  | log
deriving DecidableEq

/-- What a conductor works with besides its own state. -/
structure Crew where
  worker : Worker Eng
  mailbox : Mailbox Eng
  policy : EpicPolicy
  monitor : MonitorConfig
  /-- the grace period of a teardown, in nanoseconds -/
  grace : Nat
  sink : EscalationSink
  /-- how many patterns a card's notes take, if there is a pattern memory -/
  patternLimit : Option Nat
  transport : CardTransport
  containerPrefix : String
  /-- the home directory that escalation texts hide -/
  home : Option String

namespace Crew

/-- The stage table. -/
def registry (c : Crew) : Registry := c.policy.registry

/-- Raise an escalation for a decision; the answer is its number. -/
def escalate (c : Crew) (e : Epic) (d : Decision) : Eng Nat :=
  match c.sink with
  | .store => do
    let now ← Eng.stamp
    Eng.onStore fun s => c.policy.escalate s e d c.home now
  | .log => do
    let n := (← Eng.self).logged + 1
    Eng.modifySelf fun x => { x with logged := n }
    pure n

/-- Move the epic by a decision; an operator's decision is escalated, and a
refused decision becomes an escalation unless the epic has ended. -/
def apply (c : Crew) (d : Decision) : Eng Epic := do
  let now ← Eng.stamp
  match c.policy.advance (← Eng.store) d.epicId d now with
  | .ok (s, e) =>
    Eng.modifyHost fun h => { h with store := s }
    if d.target == .human then
      let _ ← c.escalate e d
    pure e
  | .error (.invalidTransition reason) =>
    let cur ← Eng.ofExcept (EpicPolicy.get (← Eng.store) d.epicId)
    if cur.status.isTerminal then Eng.fail (.invalidTransition reason)
    else
      let human := Decision.human cur.id d.runId d.source .high .invalidTransition
        [reason, "router wanted " ++ d.target.name] now
      let e ← Eng.onStore fun s => c.policy.advance s cur.id human now
      let _ ← c.escalate e human
      pure e
  | .error err => Eng.fail err

/-- Escalate a stage that never started. -/
def reject (c : Crew) (e : Epic) (r : Rationale) (reason : String) : Eng Epic := do
  c.apply (Decision.human e.id none e.stage .high r [reason] (← Eng.stamp))

/-- Where a session's card goes. -/
def cardLocation (c : Crew) (h : SessionHandle) (cardId : String) : CardLocation :=
  match c.transport with
  | .docker => CardLocation.inContainer h.workspace cardId (c.containerPrefix ++ h.sessionId)
  | .worktree => CardLocation.inWorkspace h.workspace cardId

/-- The notes of the patterns that match a stage of an epic. -/
def patternNotes (c : Crew) (e : Epic) (d : StageDescriptor) : Eng String := do
  match c.patternLimit with
  | none => pure ""
  | some limit =>
    let query := d.name.val ++ " " ++ d.brief ++ " " ++ e.objective
    pure (renderNotes ((← Eng.store).patterns.search limit query d.name.val))

/-- Tear a session down, folding in the usage its run reports on the way out. -/
def stop (c : Crew) (h : SessionHandle) (run : Run) : Eng Run := do
  let (run, _) ← SessionBook.teardown c.worker h run c.grace
  pure run

/-- Store a finished run. -/
def record (run : Run) : Eng Unit := Eng.updateStore (·.updateRun run)

/-- Watch a run to its end, tear its session down, store it, and route. -/
def conclude (c : Crew) (h : SessionHandle) (run : Run) : Eng Epic := do
  let cardId := run.cardId
  match ← Job.attempt (Monitor.watch c.worker c.mailbox c.monitor run) with
  | .error err =>
    let _ ← c.stop h run
    CardBook.modify (·.forget cardId)
    Eng.fail err
  | .ok run =>
    let run ← c.stop h run
    CardBook.modify (·.forget cardId)
    record run
    let now ← Eng.stamp
    let d := routeRun c.registry h.epicId run now
    c.apply (c.policy.enforceBudget (← Eng.store) d now)

/-- Run one stage of an active epic. -/
def step (c : Crew) (e : Epic) : Eng Epic := do
  let now ← Eng.stamp
  match c.policy.spawnGate (← Eng.store) e now with
  | some d => c.apply d
  | none =>
    let some desc := c.registry.get? e.stage
      | Eng.fail (.invalidTransition ("epic " ++ e.id ++ " sits at unregistered stage " ++ e.stage.val))
    let notes ← c.patternNotes e desc
    let cardId ← CardBook.createCard e.id desc.name e.objective desc.requirements notes
    let req : SpawnRequest :=
      { stage := desc.name.val, epicId := e.id, cardRef := cardId, sessionName := e.id ++ "_" ++ desc.name.val
        turnBudget := desc.turnBudget, resume := e.resumeNext, workspace := e.workspace.path }
    match (← SessionBook.get).spawn c.registry req with
    | .error (.spawnRejected reason) =>
      CardBook.modify (·.forget cardId)
      c.reject e .spawnRejected reason
    | .error err => Eng.fail err
    | .ok (b, h) =>
      SessionBook.modify fun _ => b
      if e.resumeNext then Eng.updateStore fun s => EpicPolicy.clearResume s e.id now
      let path ← CardBook.publish c.mailbox cardId (c.cardLocation h cardId)
      match ← Job.attempt (SessionBook.startRun c.worker c.registry h cardId path e.objective) with
      | .ok run => c.conclude h run
      | .error (.spawnRejected reason) =>
        CardBook.modify (·.forget cardId)
        c.reject e .spawnRejected reason
      | .error (.worker reason) =>
        CardBook.modify (·.forget cardId)
        c.reject e .workerFailed reason
      | .error err => Eng.fail err

/-- Close a run whose worker is gone as failed, and route the epic. -/
def interrupted (c : Crew) (e : Epic) (run : Run) (status : RunStatus) (reason : Rationale) : Eng Epic := do
  let run := run.finish status (some reason) (← Eng.stamp)
  record run
  c.apply (routeRun c.registry e.id run (← Eng.stamp))

/-- Take over a run left running by an earlier process. -/
def takeOver (c : Crew) (e : Epic) (run : Run) : Eng Epic := do
  let st ← c.worker.status run.runId
  if !st.isAlive then c.interrupted e run .failed .interrupted
  else
    let budget := ((c.registry.get? run.stage).map (·.turnBudget)).getD 1
    let (b, h) ← Eng.ofExcept ((← SessionBook.get).adopt run e.workspace.path budget)
    SessionBook.modify fun _ => b
    match ← Job.attempt (CardBook.reattach c.mailbox run.cardId (c.cardLocation h run.cardId)) with
    | .error err =>
      let run ← c.stop h run
      c.interrupted e run .needsHuman (err.rationale?.getD .cardUnreachable)
    | .ok _ => c.conclude h run

/-- The most stages one drive runs. Every stage that leaves the epic active has recorded a
run of a registered stage, and the attempt gate lets each stage record at most
`maxAttempts` runs, so one more stage than that ends the loop. -/
def maxStages (c : Crew) : Nat := c.registry.stages.length * c.policy.maxAttempts + 1

/-- Run stages while the epic is active and the work is not cancelled. -/
def drive (c : Crew) : Nat → Epic → Eng Epic
  | 0, e => pure e
  | n + 1, e => do
    if e.status != .active then return e
    if ← Eng.cancelled then return e
    drive c n (← c.step e)

theorem drive_inactive (c : Crew) (n : Nat) (e : Epic) (h : e.status ≠ .active) :
    c.drive (n + 1) e = pure e := by
  have : (e.status != .active) = true := by simp [h]
  simp [drive, this]

/-- Drive an epic until it is blocked, ends, or the work is cancelled between
stages; a run left running is taken over first. -/
def runEpic (c : Crew) (id : String) : Eng Epic := do
  let s ← Eng.store
  SessionBook.modify (·.seed ((s.runsOf id).map (·.sessionId)))
  let e ← Eng.ofExcept (EpicPolicy.get s id)
  let e ← match s.runningRun? id with
    | some run => c.takeOver e run
    | none => pure e
  c.drive c.maxStages e

/-- Close the recorded running runs whose worker is gone, routing their
epics; the answer is the runs closed, in the order they were recorded. -/
def recoverRuns (c : Crew) : List Run → List String → Eng (List String)
  | [], acc => pure acc
  | run :: rest, acc => do
    let st ← c.worker.status run.runId
    if st.isAlive then c.recoverRuns rest acc
    else
      let closed := run.finish .failed (some .interrupted) (← Eng.stamp)
      record closed
      let e ← Eng.ofExcept (EpicPolicy.get (← Eng.store) run.epicId)
      if !e.status.isTerminal then
        let _ ← c.apply (routeRun c.registry e.id closed (← Eng.stamp))
      c.recoverRuns rest (acc ++ [run.runId])

/-- Close every recorded running run whose worker is gone. -/
def recover (c : Crew) : Eng (List String) := do
  c.recoverRuns ((← Eng.store).runsWithStatus .running) []

end Crew

end EpicFlow
