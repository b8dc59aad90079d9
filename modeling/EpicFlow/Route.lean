import EpicFlow.Stage.Registry
import EpicFlow.Run.Record
import EpicFlow.Decimal.Notation

/-!
# Routing a finished run

Where an epic goes after a run, in this order:

1. a run that did not complete goes to an operator, with its stop reason
   (`Stuck` for a stuck run, `WorkerFailed` when it has none);
2. a safety signal goes to an operator at once, whatever the stage table says
   (the first of `BREAKING_CHANGE`, `SECURITY_RISK`, `SCOPE_VIOLATION` names
   the rationale);
3. a stage that is no longer registered goes to an operator;
4. otherwise the first route of the stage whose signal was declared decides,
   unless its target is not registered;
5. when no route matches, an operator is told which signals were declared and
   which the stage routes on.

Main statements:

* `route_not_completed`: a run that did not complete always goes to an operator.
* `route_safety`: a completed run with a safety signal goes to an operator at
  critical priority.
-/

set_option autoImplicit false

namespace EpicFlow

/-- The urgency of a routing decision. -/
inductive Priority where
  | normal | high | critical
deriving DecidableEq, Repr, Inhabited

namespace Priority

/-- The stored name. -/
def name : Priority → String
  | normal => "NORMAL" | high => "HIGH" | critical => "CRITICAL"

/-- Read a stored name; the match is exact. -/
def parse (s : String) : Except String Priority :=
  if s == "NORMAL" then .ok normal else if s == "HIGH" then .ok high
  else if s == "CRITICAL" then .ok critical else .error ("Unknown priority '" ++ s ++ "'")

end Priority

/-- Where an epic goes next and why; never changed once logged. -/
structure Decision where
  epicId : String
  runId : Option String
  source : StageName
  target : Target
  priority : Priority
  rationale : Rationale
  issues : List String
  decidedAt : String
deriving Inhabited

namespace Decision

/-- A decision that hands the epic to an operator. -/
def human (epicId : String) (runId : Option String) (source : StageName) (priority : Priority)
    (rationale : Rationale) (issues : List String) (now : String) : Decision :=
  ⟨epicId, runId, source, .human, priority, rationale, issues, now⟩

/-- The JSON form of a decision, fields in declaration order. -/
def toJson (d : Decision) : Json :=
  .obj [("epic_id", .str d.epicId), ("run_id", Json.optStr d.runId),
    ("source_stage", .str d.source.val), ("target", .str d.target.name),
    ("priority", .str d.priority.name), ("rationale", .str d.rationale.name),
    ("blocking_issues", Json.strs d.issues), ("decided_at", .str d.decidedAt)]

end Decision

/-- The decision for a completed run that declared no safety signal, from the
stage's route table. -/
def routeByTable (reg : Registry) (epicId : String) (run : Run) (now : String) : Decision :=
  let stage := run.stage
  let rid := some run.runId
  match reg.get? stage with
  | none => Decision.human epicId rid stage .high .invalidTransition
      ["stage " ++ stage.val ++ " is no longer registered"] now
  | some d =>
    match d.routes.find? (fun rule => run.hasSignal rule.signal) with
    | some rule =>
      if reg.accepts rule.target then ⟨epicId, rid, stage, rule.target, .normal, .routed, [], now⟩
      else Decision.human epicId rid stage .high .invalidTransition
        [stage.val ++ " routes " ++ rule.signal.code ++ " to unregistered stage " ++ rule.target.name] now
    | none => Decision.human epicId rid stage .high .signalMissing
        ["emitted: [" ++ ", ".intercalate (run.signals.map (·.code)) ++ "]",
         stage.val ++ " routes on: [" ++ ", ".intercalate (d.routes.map (·.signal.code)) ++ "]"] now

/-- Where the epic goes after a finished run. -/
def routeRun (reg : Registry) (epicId : String) (run : Run) (now : String) : Decision :=
  let stage := run.stage
  let rid := some run.runId
  if run.status != .completed then
    let rationale := if run.status == .stuck then .stuck else run.stopReason.getD .workerFailed
    let issues := [stage.val ++ " run " ++ run.runId ++ " ended " ++ run.status.name] ++
      (match run.lastCardStatus with
        | some c => ["last card status: " ++ c]
        | none => []) ++
      ["turns used " ++ Text.natText run.turns ++ ", cost $" ++ Decimal.fixed 2 run.cost]
    Decision.human epicId rid stage .high rationale issues now
  else
    match Signal.safetyOrder.find? run.hasSignal with
    | some s =>
      Decision.human epicId rid stage .critical (s.safetyRationale.getD .breakingChange)
        ((run.signals.filter Signal.isSafety).map fun x => stage.val ++ " declared " ++ x.code) now
    | none => routeByTable reg epicId run now

theorem route_not_completed (reg : Registry) (e : String) (run : Run) (now : String)
    (h : run.status ≠ .completed) : (routeRun reg e run now).target = .human := by
  have hb : (run.status != RunStatus.completed) = true := by simp [h]
  simp [routeRun, hb, Decision.human]

theorem route_safety (reg : Registry) (e : String) (run : Run) (now : String) (s : Signal)
    (hc : run.status = .completed) (hs : Signal.safetyOrder.find? run.hasSignal = some s) :
    (routeRun reg e run now).target = .human ∧ (routeRun reg e run now).priority = .critical := by
  simp [routeRun, hc, hs, Decision.human]

end EpicFlow
