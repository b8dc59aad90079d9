import EpicFlow.Run.Status
import EpicFlow.Run.Signal
import EpicFlow.Stage.Name
import EpicFlow.Json.Value

/-!
# Run records

One run of one stage for one epic: the worker's run id, the session it ran
in, the task card that coordinated it, its status, the signals it declared
(first-seen order, no repeats), the turns and cost the worker reported (never
decreasing), and why it stopped when it did not complete.

Main statements:

* `recordUsage_turns`: recorded turns are the maximum of old and reported.
* `recordSignals_nodup`: recording signals keeps them free of repeats.
-/

set_option autoImplicit false

namespace EpicFlow

/-- One run of a stage. -/
structure Run where
  runId : String
  epicId : String
  stage : StageName
  sessionId : String
  iteration : Nat
  cardId : String
  status : RunStatus := .pending
  signals : List Signal := []
  turns : Nat := 0
  cost : Float := 0.0
  startedAt : Option String := none
  completedAt : Option String := none
  stopReason : Option Rationale := none
  lastCardStatus : Option String := none
deriving Inhabited

namespace Run

/-- A run handed a session, not yet started. -/
def pending (epicId : String) (stage : StageName) (sessionId : String) (iteration : Nat)
    (cardId : String) : Run :=
  { runId := "", epicId, stage, sessionId, iteration, cardId }

/-- Mark the run started by the worker under a run id, at a time. -/
def start (r : Run) (runId now : String) : Run :=
  { r with runId := runId, status := .running, startedAt := some now }

/-- Add signals not seen before, keeping first-seen order. -/
def addSignals (acc : List Signal) : List Signal → List Signal
  | [] => acc
  | s :: rest => addSignals (if acc.contains s then acc else acc ++ [s]) rest

/-- Record declared signals. -/
def recordSignals (r : Run) (ss : List Signal) : Run := { r with signals := addSignals r.signals ss }

/-- The larger of two doubles, the second when the first is not a number. -/
def fmax (a b : Float) : Float := if a.isNaN then b else if b.isNaN then a else if a < b then b else a

/-- Fold in reported usage; totals never decrease. The flag tells whether
either total grew. -/
def recordUsage (r : Run) (turns : Nat) (cost : Float) : Run × Bool :=
  ({ r with turns := max r.turns turns, cost := fmax r.cost cost },
    decide (turns > r.turns) || cost > r.cost)

/-- Move the run to a terminal status. -/
def finish (r : Run) (status : RunStatus) (reason : Option Rationale) (now : String) : Run :=
  { r with status := status, stopReason := reason, completedAt := some now }

/-- The run is still executing. -/
def isActive (r : Run) : Bool := r.status == .pending || r.status == .running

/-- The run reached a terminal status. -/
def isComplete (r : Run) : Bool := r.status.isTerminal

/-- The run declared a signal. -/
def hasSignal (r : Run) (s : Signal) : Bool := r.signals.contains s

/-- The JSON form of a run, fields in declaration order. -/
def toJson (r : Run) : Json :=
  .obj [("run_id", .str r.runId), ("epic_id", .str r.epicId), ("stage_type", .str r.stage.val),
    ("session_id", .str r.sessionId), ("iteration", .int r.iteration), ("card_id", .str r.cardId),
    ("status", .str r.status.name), ("outcome_signals", Json.strs (r.signals.map (·.code))),
    ("turns_used", .int r.turns), ("cost", .num r.cost), ("started_at", Json.optStr r.startedAt),
    ("completed_at", Json.optStr r.completedAt),
    ("stop_reason", Json.optStr (r.stopReason.map (·.name))),
    ("last_card_status", Json.optStr r.lastCardStatus)]

theorem recordUsage_turns (r : Run) (t : Nat) (c : Float) :
    (r.recordUsage t c).1.turns = max r.turns t := rfl

theorem addSignals_nodup (acc ss : List Signal) (h : acc.Nodup) : (addSignals acc ss).Nodup := by
  induction ss generalizing acc with
  | nil => exact h
  | cons s rest ih =>
    simp only [addSignals]
    apply ih
    split
    · exact h
    · rename_i hs
      rw [List.nodup_append]
      refine ⟨h, by simp, ?_⟩
      intro a ha b hb
      simp only [List.mem_singleton] at hb
      subst hb
      intro hab
      subst hab
      exact hs (List.contains_iff_mem.mpr ha)

theorem recordSignals_nodup (r : Run) (ss : List Signal) (h : r.signals.Nodup) :
    (r.recordSignals ss).signals.Nodup := addSignals_nodup _ _ h

end Run

end EpicFlow
