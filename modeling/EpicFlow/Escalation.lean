import EpicFlow.Route
import EpicFlow.Text.Redact

/-!
# Escalations

When an epic is handed to an operator, the operator gets a message: the
stage, the rationale, what has been spent, the sanitized issues, and the
answers that may be given. Answers are to resume the stage's session, retry it
in a fresh one, route to a stage the blocked stage routes to, accept the work,
abandon the epic, or pause (always allowed; the escalation stays open).

Resuming is offered after interruptions (stuck, interrupted, aborted, card
unreachable, budget exceeded); accepting the work after a safety signal or a
missing signal.

Main statements:

* `parse_retry`: `RETRY` reads as a retry.
* `allows_pause`: pausing is always allowed.
-/

set_option autoImplicit false

namespace EpicFlow

/-- An operator's answer to a blocked epic. -/
inductive Resolution where
  | resume | retry
  | route (stage : StageName)
  | complete | abandon | pause
deriving DecidableEq, Repr

namespace Resolution

/-- The text of an answer. -/
def text : Resolution → String
  | resume => "resume" | retry => "retry" | route s => "route:" ++ s.val
  | complete => "complete" | abandon => "abandon" | pause => "pause"

/-- Read an answer: trimmed, case ignored, `route:<stage>` for a route. -/
def parse (raw : String) : Except String Resolution :=
  let s := Text.trim raw
  let plain : Except String Resolution :=
    match Text.asciiLower s with
    | "resume" => .ok resume
    | "retry" => .ok retry
    | "complete" => .ok complete
    | "abandon" => .ok abandon
    | "pause" => .ok pause
    | other => .error ("Unknown resolution '" ++ other ++
        "' (expected resume, retry, route:STAGE, complete, abandon or pause)")
  match Text.splitOnce s ':' with
  | some (head, stage) =>
    if Text.asciiLower head == "route" then (StageName.parse stage).map route else plain
  | none => plain

theorem parse_retry : parse " RETRY " = .ok retry := by rfl

/-- The answers offered for a decision, in the order they are presented. -/
def offered (reg : Registry) (source : StageName) (r : Rationale) : List Resolution :=
  let first := (if [Rationale.stuck, .interrupted, .aborted, .cardUnreachable, .budgetExceeded].contains r
    then [resume] else []) ++ [retry]
  let routes := match reg.get? source with
    | some d => d.routes.foldl (fun acc rule =>
        match rule.target with
        | .stage s => if acc.contains (route s) then acc else acc ++ [route s]
        | _ => acc) first
    | none => first
  routes ++
    (if [Rationale.breakingChange, .securityRisk, .scopeViolation, .signalMissing].contains r
      then [complete] else []) ++ [abandon, pause]

end Resolution

/-- What an operator is told about a blocked epic. -/
structure EscalationMessage where
  epicId : String
  stage : StageName
  rationale : Rationale
  options : List Resolution
  costSoFar : Float
  turnsSoFar : Nat
  /-- the decision's issues, sanitized -/
  issues : List String
  raisedAt : String

namespace EscalationMessage

/-- The message for a decision that hands an epic to an operator. -/
def ofDecision (reg : Registry) (epicId : String) (d : Decision) (turns : Nat) (cost : Float)
    (home : Option String) (now : String) : EscalationMessage :=
  { epicId, stage := d.source, rationale := d.rationale
    options := Resolution.offered reg d.source d.rationale
    costSoFar := cost, turnsSoFar := turns
    issues := d.issues.map (Redact.sanitize home), raisedAt := now }

/-- An answer may be given: it is offered, or it is a pause. -/
def allows (m : EscalationMessage) (o : Resolution) : Bool :=
  o == .pause || m.options.contains o

theorem allows_pause (m : EscalationMessage) : m.allows .pause = true := by
  simp [allows]

/-- The members of a message, in declaration order. -/
def fields (m : EscalationMessage) : List (String × Json) :=
  [("epic_id", .str m.epicId), ("stage", .str m.stage.val), ("rationale", .str m.rationale.name),
    ("options", Json.strs (m.options.map Resolution.text)), ("cost_so_far", .num m.costSoFar),
    ("turns_so_far", .int m.turnsSoFar), ("blocking_issues", Json.strs m.issues),
    ("raised_at", .str m.raisedAt)]

/-- The JSON form of a message. -/
def toJson (m : EscalationMessage) : Json := .obj m.fields

end EscalationMessage

end EpicFlow
