import EpicFlow.Route
import EpicFlow.Text.Path

/-!
# Epics

An epic is an objective carried through the stages of the table. It owns a
workspace (a directory and a branch named after the epic), knows the stage
that runs next, and has a status: active while stages run, blocked while an
operator is asked, completed or failed at the end. Its history is the runs
recorded for it, in the order they were recorded.

Two counters steer the next spawn: `resumeNext` asks the next session of the
current stage to resume the previous one, and `attemptFloor` is the index in
the history from which runs of the current stage count as attempts.

Main statements:

* `EpicStatus.parse_name`: a status is read back from its name.
* `Usage.ofRuns_runs`: the usage counts every run.
-/

set_option autoImplicit false

namespace EpicFlow

/-- Where an epic is in its life. -/
inductive EpicStatus where
  | active | blocked | completed | failed
deriving DecidableEq, Repr, Inhabited

namespace EpicStatus

/-- The stored name. -/
def name : EpicStatus → String
  | active => "ACTIVE" | blocked => "BLOCKED" | completed => "COMPLETED" | failed => "FAILED"

/-- A finished epic takes no more decisions. -/
def isTerminal : EpicStatus → Bool
  | completed | failed => true
  | _ => false

/-- Read a status: trimmed, case ignored. -/
def parse (s : String) : Except String EpicStatus :=
  match Text.asciiUpper (Text.trim s) with
  | "ACTIVE" => .ok active
  | "BLOCKED" => .ok blocked
  | "COMPLETED" => .ok completed
  | "FAILED" => .ok failed
  | other => .error ("Unknown epic status '" ++ other ++ "'")

theorem parse_name (s : EpicStatus) : parse s.name = .ok s := by
  cases s <;> rfl

end EpicStatus

/-- The directory and branch an epic works in. -/
structure EpicWorkspace where
  path : String
  branch : String
deriving DecidableEq, Repr

/-- An objective tracked through its stages. -/
structure Epic where
  id : String
  objective : String
  workspace : EpicWorkspace
  /-- the stage that runs next, or ran last once the epic is finished -/
  stage : StageName
  status : EpicStatus
  /-- the ids of the epic's runs, in the order they were recorded -/
  history : List String
  createdAt : String
  updatedAt : String
  resumeNext : Bool
  blockedReason : Option Rationale
  attemptFloor : Nat

namespace Epic

/-- The branch of an epic. -/
def branchOf (id : String) : String := "epic/" ++ id

/-- A new active epic at its first stage, with its workspace under `root`. -/
def fresh (root id objective : String) (stage : StageName) (now : String) : Epic :=
  { id, objective, workspace := ⟨Path.join root id, branchOf id⟩, stage, status := .active
    history := [], createdAt := now, updatedAt := now, resumeNext := false
    blockedReason := none, attemptFloor := 0 }

/-- The JSON form of an epic, fields in declaration order. -/
def toJson (e : Epic) : Json :=
  .obj [("id", .str e.id), ("objective", .str e.objective),
    ("workspace", .obj [("path", .str e.workspace.path), ("branch", .str e.workspace.branch)]),
    ("current_stage", .str e.stage.val), ("status", .str e.status.name),
    ("stage_history", Json.strs e.history), ("created_at", .str e.createdAt),
    ("updated_at", .str e.updatedAt), ("resume_next", .bool e.resumeNext),
    ("blocked_reason", match e.blockedReason with | some r => .str r.name | none => .null),
    ("attempt_floor", .int e.attemptFloor)]

end Epic

/-- What an epic's runs have spent together. -/
structure Usage where
  runs : Nat
  turns : Nat
  cost : Float

namespace Usage

/-- The usage of a list of runs. Costs are added in order, from negative
zero, so that no runs cost `-0.0`. -/
def ofRuns (rs : List Run) : Usage :=
  ⟨rs.length, (rs.map (·.turns)).foldl (· + ·) 0, (rs.map (·.cost)).foldl (· + ·) (-0.0)⟩

/-- The JSON form of a usage. -/
def toJson (u : Usage) : Json :=
  .obj [("runs", .int u.runs), ("turns", .int u.turns), ("cost", .num u.cost)]

theorem ofRuns_runs (rs : List Run) : (ofRuns rs).runs = rs.length := rfl

end Usage

end EpicFlow
