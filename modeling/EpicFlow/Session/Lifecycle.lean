import EpicFlow.Conductor.State
import EpicFlow.Stage.Prompt
import EpicFlow.Worker.Backend

/-!
# Starting and stopping a session's run

Starting a run for a session takes the epic's workspace lease, invokes the
worker, and records the run as running. An epic never has two running runs:
a start while one runs is refused. A run the store refuses is stopped and
released at once, and its lease given up.

Stopping a run asks the worker to stop, polls it once a second for a grace
period (a status query that fails counts as alive), forces it if it is still
alive, and releases it. Usage reported while the run winds down is folded
into the run. The lease is given up either way.

Main statements:

* `pollStep_le`: a teardown poll never waits past the grace period.
-/

set_option autoImplicit false

namespace EpicFlow

namespace SessionBook

/-- The sessions of the conductor. -/
def get : Eng SessionBook := do return (← Eng.self).sessions

/-- Change the sessions of the conductor. -/
def modify (f : SessionBook → SessionBook) : Eng Unit := Eng.modifySelf fun c => { c with sessions := f c.sessions }

/-- Start a run for a session: the answer is the running run, as stored. -/
def startRun (w : Worker Eng) (reg : Registry) (h : SessionHandle) (cardId cardPath objective : String) :
    Eng Run := do
  let some d := reg.get? h.stage
    | Eng.fail (.spawnRejected ("'" ++ h.stage.val ++ "' is not a registered stage"))
  if let some r := (← Eng.store).runningRun? h.epicId then
    Eng.fail (.spawnRejected ("epic " ++ h.epicId ++ " already has RUNNING run " ++ r.runId ++ " (" ++
      r.stage.val ++ ")"))
  let b ← Eng.ofExcept ((← get).acquire h)
  let (b, resumed) := b.takeResume h.sessionId
  modify fun _ => b
  let inv : Invocation := { epicId := h.epicId, stage := h.stage, objective, sessionName := h.sessionId
                            maxTurns := h.turnBudget, resume := resumed || h.resume, workspace := some h.workspace
                            agentType := d.agentType, cardPath, prompt := d.prompt objective cardPath }
  let runId ← match ← Job.attempt (w.invoke inv) with
    | .ok id => pure id
    | .error e => do modify (·.unlease h.epicId); Eng.fail e
  let run := (Run.pending h.epicId h.stage h.sessionId h.iteration cardId).start runId (← Eng.stamp)
  match (← Eng.store).insertRun run with
  | .ok s => do Eng.modifyHost fun x => { x with store := s }; pure run
  | .error e => do
    let _ ← Job.attempt (w.terminate runId true)
    let _ ← Job.attempt (w.release runId)
    modify (·.unlease h.epicId)
    Eng.fail e

/-- The pause between teardown polls, in nanoseconds. -/
def teardownPoll : Nat := 1000000000

/-- The next teardown pause: a poll interval, cut short at the end of the grace period. -/
def pollStep (grace waited : Nat) : Nat := min teardownPoll (grace - waited)

theorem pollStep_le (grace waited : Nat) : waited + pollStep grace waited ≤ max grace waited := by
  unfold pollStep; omega

/-- Ask the worker how the run is, folding in its usage; a failed query counts as alive. -/
def observe (w : Worker Eng) (run : Run) : Eng (Run × Bool) := do
  match ← Job.attempt (w.status run.runId) with
  | .ok st => pure ((run.recordUsage st.turns st.cost).1, st.isAlive)
  | .error _ => pure (run, true)

/-- Poll a stopping run until it is gone or the grace period is over; the
answer is the run, whether it is still alive, and the time waited. -/
def awaitStop (w : Worker Eng) (grace : Nat) : Nat → Run → Bool → Nat → Eng (Run × Bool × Nat)
  | 0, run, alive, waited => pure (run, alive, waited)
  | fuel + 1, run, alive, waited =>
    if alive && waited < grace then do
      let step := pollStep grace waited
      Eng.sleep step
      let (run, alive) ← observe w run
      awaitStop w grace fuel run alive (waited + step)
    else pure (run, alive, waited)

/-- Stop a run, forcing it after the grace period (in nanoseconds), and
release it; the lease is given up whatever happens. The answer is the run
with its last usage and the outcome of the stop. -/
def teardown (w : Worker Eng) (h : SessionHandle) (run : Run) (grace : Nat) :
    Eng (Run × Except EngineError Unit) := do
  let _ ← Job.attempt (w.terminate run.runId false)
  let (run, alive) ← observe w run
  let (run, alive, _) ← awaitStop w grace (grace / teardownPoll + 2) run alive 0
  let forced ← if alive then Job.attempt (w.terminate run.runId true) else pure (.ok ())
  let released ← Job.attempt (w.release run.runId)
  modify (·.unleaseIfHeld h)
  pure (run, match forced with | .error e => .error e | .ok () => released)

end SessionBook

end EpicFlow
