import EpicFlow.Stage.Name
import EpicFlow.Json.Value

/-!
# Worker backends

A worker backend runs a stage's agent. The engine asks it four things: start
a run for an invocation (it answers the run's id), report a run's status,
stop a run (gracefully, or by force), and release everything held for a run.
A status tells whether the agent is running, has exited, or is gone, with
the turns and cost it reported and the time of its last activity.

Backends are records of functions over the engine's monad, so that a
statement about the engine can speak of every backend at once.

Main statement:

* `WorkerStatus.missing_not_alive`: a missing worker is not alive.
-/

set_option autoImplicit false

namespace EpicFlow

/-- Whether a run's agent is alive. -/
inductive WorkerState where
  | running
  /-- the session exists but the agent has exited -/
  | exited
  /-- there is no session for the run -/
  | missing
deriving DecidableEq, Repr, Inhabited

/-- The name of a worker state. -/
def WorkerState.name : WorkerState → String
  | .running => "RUNNING" | .exited => "EXITED" | .missing => "MISSING"

/-- The state of a name. -/
def WorkerState.ofName? : String → Option WorkerState
  | "RUNNING" => some .running | "EXITED" => some .exited | "MISSING" => some .missing | _ => none

/-- What a status query reports about a run. -/
structure WorkerStatus where
  state : WorkerState
  turns : Nat
  cost : Float
  /-- when the session was last active, in seconds since the epoch -/
  activity : Option Int

namespace WorkerStatus

/-- The status of a run that has no session. -/
def missing : WorkerStatus := ⟨.missing, 0, 0.0, none⟩

/-- The agent is still running. -/
def isAlive (s : WorkerStatus) : Bool := s.state == .running

/-- The JSON form of a status. -/
def toJson (s : WorkerStatus) : Json :=
  .obj [("state", .str s.state.name), ("turns_used", .int s.turns), ("cost", .num s.cost),
    ("last_activity_ts", match s.activity with | some a => .int a | none => .null)]

theorem missing_not_alive : missing.isAlive = false := rfl

end WorkerStatus

/-- Everything a backend needs to start one run of a stage. -/
structure Invocation where
  epicId : String
  stage : StageName
  objective : String
  /-- the session key, `<epic>_<stage>_<iteration>` -/
  sessionName : String
  maxTurns : Nat
  /-- continue the previous conversation instead of starting afresh -/
  resume : Bool
  workspace : Option String
  agentType : String
  /-- the card's path as the worker sees it -/
  cardPath : String
  prompt : String

/-- The JSON form of an invocation, without the objective and workspace. -/
def Invocation.toJson (i : Invocation) : Json :=
  .obj [("session_name", .str i.sessionName), ("stage", .str i.stage.val), ("resume", .bool i.resume),
    ("max_turns", .int i.maxTurns), ("agent_type", .str i.agentType), ("epic_id", .str i.epicId),
    ("card_path", .str i.cardPath), ("prompt", .str i.prompt)]

/-- A run of an agent in a stage session, as its worker remembers it. -/
structure AgentRun where
  sessionName : String
  /-- the sandbox container, when the agent runs in one -/
  container : Option String
  /-- the file the agent writes its usage report to -/
  resultFile : String

/-- A worker backend over a monad. -/
structure Worker (m : Type → Type) where
  /-- start a run; the answer is its id -/
  invoke : Invocation → m String
  status : String → m WorkerStatus
  /-- ask a run to stop; with `force`, stop it outright -/
  terminate : String → Bool → m Unit
  /-- drop everything held for a run -/
  release : String → m Unit

end EpicFlow
