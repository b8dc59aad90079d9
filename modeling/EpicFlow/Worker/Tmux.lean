import EpicFlow.Conductor.State
import EpicFlow.Tool.Tmux
import EpicFlow.Tool.Container
import EpicFlow.Worker.Command
import EpicFlow.Settings
import EpicFlow.Json.Typed

/-!
# Agents in terminal sessions

The tmux worker runs each stage's agent in a session of the terminal
multiplexer named after the stage session, in the epic's workspace. With
docker cards the agent runs in a sandbox container of its own, which mounts
the workspace; a container left from an earlier run of the session is
removed first. The session's environment records the run, so that a later
process finds it again; the agent writes its usage report to a file of the
run.

A run's status comes from the session: gone means missing, a pane that runs
a program means running, a shell means the agent exited. Turns and cost come
from the usage report (zero while there is none or it does not read), the
last activity from the session.

Stopping a run interrupts its agent; stopping it outright removes its
container and kills its session. Releasing a run forgets it and does both.
A run the worker does not know is looked up among the live sessions by the
run recorded in their environment.

Every failure of the programs is a worker error.

Main statements:

* `resultShape_fields`: a usage report has two counts, both optional.
-/

set_option autoImplicit false

namespace EpicFlow

namespace AgentRun

/-- The directory of usage reports inside a workspace. -/
def runDir : String := ".handy/runs"

/-- The shape of a usage report: the turns and the cost, each zero when absent. -/
def resultShape : Json.Shape :=
  .record "AgentResult" [("num_turns", .u64, some (.int 0)), ("total_cost_usd", .f64, some (.num 0.0))]

theorem resultShape_fields : ∃ fs, resultShape = .record "AgentResult" fs ∧ fs.length = 2 :=
  ⟨_, rfl, rfl⟩

/-- Turns and cost of a usage report; zero when it cannot be read. -/
def usage (text : Option String) : Nat × Float :=
  match text.map (Json.readAs resultShape) with
  | some (.ok j) => (((j.get "num_turns").nat?).getD 0, ((j.get "total_cost_usd").float?).getD 0.0)
  | _ => (0, 0.0)

end AgentRun

namespace TmuxWorker

/-- What the worker needs to know of the settings. -/
structure Config where
  transport : CardTransport
  containerPrefix : String
  image : String := defaultAgentImage
  /-- the home directory that error texts hide -/
  home : Option String

/-- The worker's runs. -/
def runs : Eng (List (String × AgentRun)) := do return (← Eng.self).agentRuns

/-- Remember a run. -/
def remember (id : String) (r : AgentRun) : Eng Unit :=
  Eng.modifySelf fun c => { c with agentRuns := Assoc.put c.agentRuns id r }

/-- The container a session's agent runs in, when sandboxed. -/
def containerFor (cfg : Config) (sessionId : String) : Option String :=
  match cfg.transport with
  | .docker => some (Session.containerName cfg.containerPrefix sessionId)
  | .worktree => none

/-- Run work on the machine; its failure is a worker error. -/
def onMachine {α : Type} (w : ExceptT String Shell α) : Eng α := do
  match ← Eng.shell w.run with
  | .ok a => pure a
  | .error e => Eng.fail (.worker e)

/-- Find a run: among those remembered, else among the live sessions by the
run recorded in their environment (which is then remembered). -/
def locate (cfg : Config) (id : String) : Eng (Option AgentRun) := do
  if let some r := Assoc.get? (← runs) id then return some r
  let sessions ← onMachine (Tmux.listSessions (← Eng.stamp))
  let found := sessions.findSome? fun s => do
    let md ← s.metadata
    if md.runId != some id then none
    let ws ← md.worktree
    let container := match cfg.transport with
      | .docker => (Session.idOfTmuxName s.name).map (Session.containerName cfg.containerPrefix)
      | .worktree => none
    some { sessionName := s.name, container, resultFile := Path.join (Path.join ws AgentRun.runDir) (id ++ ".json") }
  if let some r := found then remember id r
  return found

/-- Start the agent of an invocation in its session. -/
def invoke (cfg : Config) (inv : Invocation) : Eng String := do
  let some ws := inv.workspace | Eng.fail (.spawnRejected "tmux worker needs a workspace path")
  let id ← Eng.freshAgentRunId
  let sessionName := Session.tmuxName inv.sessionName
  let container := containerFor cfg inv.sessionName
  let resultRel := AgentRun.runDir ++ "/" ++ id ++ ".json"
  let now ← Eng.stamp
  onMachine do
    let m ← get
    match m.files.createDirAll (Path.join ws AgentRun.runDir) with
    | .ok files => set { m with files }
    | .error e => throw ("Failed to create run directory: " ++ e.message)
    let agent : AgentCommand :=
      { agentType := inv.agentType, prompt := inv.prompt, maxTurns := inv.maxTurns, resume := inv.resume,
        autoAccept := container.isSome, resultFile := some resultRel }
    let inner ← (agent.render : Except String String)
    let command ← match container with
      | some name => do
        Container.remove cfg.home name
        pure (sandboxCommand name ws cfg.image
          [("HANDY_EPIC", inv.epicId), ("HANDY_STAGE", inv.stage.val), ("HANDY_RUN", id)] inner)
      | none => pure inner
    Tmux.killSession sessionName
    let info : SessionMetadata :=
      { session := sessionName, epicId := some inv.epicId, stage := some inv.stage.val, runId := some id,
        worktree := some ws, agentType := inv.agentType, machineId := "<host>", startedAt := now }
    Tmux.createSession sessionName (some ws) info now
    Tmux.sendCommand sessionName command
  remember id { sessionName, container, resultFile := Path.join ws resultRel }
  return id

/-- The status of a run. -/
def status (cfg : Config) (id : String) : Eng WorkerStatus := do
  let some r ← locate cfg id | return WorkerStatus.missing
  Eng.shell do
    if !(← Tmux.hasSession r.sessionName) then return WorkerStatus.missing
    let state := if ← Tmux.isActive r.sessionName then WorkerState.running else WorkerState.exited
    let m ← get
    let (turns, cost) := AgentRun.usage (m.files.read r.resultFile).toOption
    let activity ← (Tmux.activity r.sessionName).run
    return ⟨state, turns, cost, activity.toOption⟩

/-- Stop a run: interrupt its agent, or with `force` remove its container and
kill its session. -/
def terminate (cfg : Config) (id : String) (force : Bool) : Eng Unit := do
  let some r ← locate cfg id | return
  onMachine do
    if force then
      if let some c := r.container then Container.remove cfg.home c
      Tmux.killSession r.sessionName
    else if ← ExceptT.lift (Tmux.hasSession r.sessionName) then
      Tmux.sendKeys r.sessionName "C-c"

/-- Forget a run, removing its container and killing its session. -/
def release (cfg : Config) (id : String) : Eng Unit := do
  let some r := Assoc.get? (← runs) id | return
  Eng.modifySelf fun c => { c with agentRuns := c.agentRuns.filter (·.1 != id) }
  onMachine do
    if let some c := r.container then Container.remove cfg.home c
    Tmux.killSession r.sessionName

end TmuxWorker

/-- The worker that runs agents in terminal sessions. -/
def Worker.tmux (cfg : TmuxWorker.Config) : Worker Eng where
  invoke := TmuxWorker.invoke cfg
  status := TmuxWorker.status cfg
  terminate := TmuxWorker.terminate cfg
  release := TmuxWorker.release cfg

end EpicFlow
