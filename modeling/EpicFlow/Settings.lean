import EpicFlow.Stage.Registry

/-!
# Engine settings

Settings are a JSON document in which every field has a default, so a partial
file loads. They hold the budget ceilings of an epic, the monitor's tuning,
how task cards travel, which worker backend drives sessions, the pattern limit
and the stage table.

`EngineSettings.validate` checks what defaults cannot: positive intervals and
factor, a shrink threshold within `[0, 1]`, at least one attempt per stage, a
well-formed stage table, and a registered initial stage.

Main statement:

* `requiredTools_simulated`: a simulated worker needs no tmux.
-/

set_option autoImplicit false

namespace EpicFlow

/-- Ceilings on an epic's cumulative spending; absent means unlimited. -/
structure BudgetSettings where
  maxCostUsd : Option Float := none
  maxTurns : Option Nat := none

/-- The tuning of the adaptive monitor. -/
structure MonitorSettings where
  baseIntervalSecs : Nat := 30
  maxWaitSecs : Nat := 1800
  minIntervalSecs : Nat := 2
  shrinkThreshold : Float := 0.8
  shrinkFactor : Nat := 4
  maxUnreachablePolls : Nat := 5
  teardownGraceSecs : Nat := 30

/-- How task cards move between a worker's workspace and the inbox. -/
inductive CardTransport where
  /-- the worker runs on this host in its own worktree -/
  | worktree
  /-- the worker runs in a sandbox container; cards move by copying out of it -/
  | docker
deriving DecidableEq, Repr

/-- The tuning of the card store. -/
structure CardSettings where
  parseRetries : Nat := 3
  retryBackoffMs : Nat := 200
  transport : CardTransport := .worktree
  containerPrefix : String := "handy-sandbox-"

/-- Which worker backend drives sessions. -/
inductive WorkerKind where
  | tmux | simulated
deriving DecidableEq, Repr

/-- All the settings of the engine. -/
structure EngineSettings where
  databasePath : Option String := none
  workspaceRoot : String
  sourceRepo : Option String := none
  inboxDir : String
  initialStage : String := "DESIGN"
  budget : BudgetSettings := {}
  maxStageAttempts : Nat := 3
  monitor : MonitorSettings := {}
  cards : CardSettings := {}
  worker : WorkerKind := .tmux
  patternLimit : Nat := 5
  stages : List StageDescriptor := StageDescriptor.defaults

namespace CardTransport
def name : CardTransport → String | worktree => "worktree" | docker => "docker"
def ofName (s : String) : CardTransport := if s == "docker" then docker else worktree
end CardTransport

namespace WorkerKind
def name : WorkerKind → String | tmux => "tmux" | simulated => "simulated"
def ofName (s : String) : WorkerKind := if s == "simulated" then simulated else tmux
end WorkerKind

namespace EngineSettings

open Json in
/-- The shape of the budget settings. -/
def budgetShape : Shape :=
  .record "BudgetSettings" [("max_cost_usd", .opt .f64, some .null), ("max_turns", .opt .u64, some .null)]

open Json in
/-- The shape of the monitor settings. -/
def monitorShape : Shape :=
  .record "MonitorSettings"
    [("base_interval_secs", .u64, some (.int 30)), ("max_wait_secs", .u64, some (.int 1800)),
     ("min_interval_secs", .u64, some (.int 2)), ("shrink_threshold", .f64, some (.num 0.8)),
     ("shrink_factor", .u32, some (.int 4)), ("max_unreachable_polls", .u32, some (.int 5)),
     ("teardown_grace_secs", .u64, some (.int 30))]

/-- The JSON form of monitor settings. -/
def monitorJson (m : MonitorSettings) : Json :=
  .obj [("base_interval_secs", .int m.baseIntervalSecs), ("max_wait_secs", .int m.maxWaitSecs),
    ("min_interval_secs", .int m.minIntervalSecs), ("shrink_threshold", .num m.shrinkThreshold),
    ("shrink_factor", .int m.shrinkFactor), ("max_unreachable_polls", .int m.maxUnreachablePolls),
    ("teardown_grace_secs", .int m.teardownGraceSecs)]

/-- Monitor settings from the normal form of their shape. -/
def monitorOfJson (j : Json) : MonitorSettings :=
  { baseIntervalSecs := ((j.get "base_interval_secs").nat?).getD 30
    maxWaitSecs := ((j.get "max_wait_secs").nat?).getD 1800
    minIntervalSecs := ((j.get "min_interval_secs").nat?).getD 2
    shrinkThreshold := ((j.get "shrink_threshold").float?).getD 0.8
    shrinkFactor := ((j.get "shrink_factor").nat?).getD 4
    maxUnreachablePolls := ((j.get "max_unreachable_polls").nat?).getD 5
    teardownGraceSecs := ((j.get "teardown_grace_secs").nat?).getD 30 }

open Json in
/-- The shape of the card settings. -/
def cardsShape : Shape :=
  .record "CardSettings"
    [("parse_retries", .u32, some (.int 3)), ("retry_backoff_ms", .u64, some (.int 200)),
     ("transport", .choice ["worktree", "docker"], some (.str "worktree")),
     ("container_prefix", .string, some (.str "handy-sandbox-"))]

/-- The shape of the settings; the two directories default to the given paths. -/
def shape (workspaceRoot inboxDir : String) : Json.Shape :=
  .record "EngineSettings"
    [("database_path", .opt .path, some .null),
     ("workspace_root", .path, some (.str workspaceRoot)),
     ("source_repo", .opt .path, some .null),
     ("inbox_dir", .path, some (.str inboxDir)),
     ("initial_stage", .string, some (.str "DESIGN")),
     ("budget", budgetShape, some (.obj [("max_cost_usd", .null), ("max_turns", .null)])),
     ("max_stage_attempts", .u32, some (.int 3)),
     ("monitor", monitorShape, some (monitorJson {})),
     ("cards", cardsShape, some (.obj [("parse_retries", .int 3), ("retry_backoff_ms", .int 200),
        ("transport", .str "worktree"), ("container_prefix", .str "handy-sandbox-")])),
     ("worker", .choice ["tmux", "simulated"], some (.str "tmux")),
     ("pattern_limit", .usize, some (.int 5)),
     ("stages", .seq StageDescriptor.shape, some (.arr (StageDescriptor.defaults.map StageDescriptor.toJson)))]

/-- Settings from the normal form of `shape`. -/
def ofJson (j : Json) : EngineSettings :=
  let b := j.get "budget"
  let c := j.get "cards"
  { databasePath := (j.get "database_path").str?
    workspaceRoot := ((j.get "workspace_root").str?).getD ""
    sourceRepo := (j.get "source_repo").str?
    inboxDir := ((j.get "inbox_dir").str?).getD ""
    initialStage := ((j.get "initial_stage").str?).getD "DESIGN"
    budget := { maxCostUsd := (b.get "max_cost_usd").float?, maxTurns := (b.get "max_turns").nat? }
    maxStageAttempts := ((j.get "max_stage_attempts").nat?).getD 3
    monitor := monitorOfJson (j.get "monitor")
    cards := { parseRetries := ((c.get "parse_retries").nat?).getD 3
               retryBackoffMs := ((c.get "retry_backoff_ms").nat?).getD 200
               transport := CardTransport.ofName (((c.get "transport").str?).getD "")
               containerPrefix := ((c.get "container_prefix").str?).getD "handy-sandbox-" }
    worker := WorkerKind.ofName (((j.get "worker").str?).getD "")
    patternLimit := ((j.get "pattern_limit").nat?).getD 5
    stages := (((j.get "stages").arr?).getD []).map StageDescriptor.ofJson }

/-- The JSON form of the settings, fields in declaration order. -/
def toJson (s : EngineSettings) : Json :=
  .obj [("database_path", Json.optStr s.databasePath), ("workspace_root", .str s.workspaceRoot),
    ("source_repo", Json.optStr s.sourceRepo), ("inbox_dir", .str s.inboxDir),
    ("initial_stage", .str s.initialStage),
    ("budget", .obj [("max_cost_usd", match s.budget.maxCostUsd with | some x => .num x | none => .null),
      ("max_turns", match s.budget.maxTurns with | some n => .int n | none => .null)]),
    ("max_stage_attempts", .int s.maxStageAttempts), ("monitor", monitorJson s.monitor),
    ("cards", .obj [("parse_retries", .int s.cards.parseRetries),
      ("retry_backoff_ms", .int s.cards.retryBackoffMs), ("transport", .str s.cards.transport.name),
      ("container_prefix", .str s.cards.containerPrefix)]),
    ("worker", .str s.worker.name), ("pattern_limit", .int s.patternLimit),
    ("stages", .arr (s.stages.map StageDescriptor.toJson))]

/-- The stage table, checked, with the initial stage registered. -/
def registry (s : EngineSettings) : Except EngineError Registry := do
  let r ← Registry.ofDescriptors s.stages
  if (r.lookup s.initialStage).isNone then
    throw (.config ("Initial stage '" ++ s.initialStage ++ "' is not registered"))
  pure r

/-- Check the ranges that defaults cannot enforce. -/
def validate (s : EngineSettings) : Except EngineError Unit := do
  if s.monitor.baseIntervalSecs == 0 then throw (.config "monitor.base_interval_secs must be > 0")
  if s.monitor.minIntervalSecs == 0 then throw (.config "monitor.min_interval_secs must be > 0")
  if s.monitor.shrinkFactor == 0 then throw (.config "monitor.shrink_factor must be > 0")
  if !(0.0 ≤ s.monitor.shrinkThreshold && s.monitor.shrinkThreshold ≤ 1.0) then
    throw (.config "monitor.shrink_threshold must be between 0 and 1")
  if s.maxStageAttempts == 0 then throw (.config "max_stage_attempts must be > 0")
  let _ ← s.registry
  pure ()

/-- Insert into a sorted list of names, once. -/
def insertName (n : String) : List String → List String
  | [] => [n]
  | m :: ms => if n == m then m :: ms else if n < m then n :: m :: ms else m :: insertName n ms

/-- The tools the settings need, sorted: tmux and every agent but `manual`
for the tmux backend, docker for the docker transport, git for a source
repository. -/
def requiredTools (s : EngineSettings) : List String :=
  let agents := if s.worker == .tmux then
      s.stages.foldl (fun acc d => if d.agentType == "manual" then acc else insertName d.agentType acc)
        ["tmux"]
    else []
  let withDocker := if s.cards.transport == .docker then insertName "docker" agents else agents
  if s.sourceRepo.isSome then insertName "git" withDocker else withDocker

theorem requiredTools_simulated (s : EngineSettings) (h1 : s.worker = .simulated)
    (h2 : s.cards.transport = .worktree) (h3 : s.sourceRepo = none) : s.requiredTools = [] := by
  simp [requiredTools, h1, h2, h3]

end EngineSettings

end EpicFlow
