import EpicFlow.Store
import EpicFlow.Tool.Doctor
import EpicFlow.Decimal.Notation

/-!
# What the conductor prints

Each command of the conductor prints either JSON or lines for a reader. This
module holds the lines: an epic on one line (id, status with the reason it
is blocked, stage, objective), the table of epics with what they spent, an
epic in detail with its runs and decisions, a run of a rehearsal, the
escalations, the tool check, and patterns. Amounts of money have two
decimals; columns are padded to fixed widths.

Main statements:

* `epicLine_active`: an active epic's line has no reason.
-/

set_option autoImplicit false

namespace EpicFlow

/-- Two decimals. -/
def money (x : Float) : String := Decimal.fixed 2 x

/-- The signals of a run, joined by `+`. -/
def signalList (r : Run) : String := "+".intercalate (r.signals.map (·.code))

namespace Epic

/-- An epic on one line: id, status (with the reason it is blocked), stage, objective. -/
def line (e : Epic) : String :=
  let reason := match e.blockedReason with
    | some r => " (" ++ r.name ++ ")"
    | none => ""
  e.id ++ "  " ++ e.status.name ++ reason ++ "  stage " ++ e.stage.val ++ "  " ++ e.objective

theorem epicLine_active (e : Epic) (h : e.blockedReason = none) :
    e.line = e.id ++ "  " ++ e.status.name ++ "  stage " ++ e.stage.val ++ "  " ++ e.objective := by
  simp [line, h]

/-- A row of the table of epics, with what the epic spent. -/
def tableRow (e : Epic) (u : Usage) : String :=
  Text.padRight e.id 14 ++ " " ++ Text.padRight e.status.name 9 ++ " " ++ Text.padRight e.stage.val 10 ++
    " " ++ Text.padLeft (Text.natText u.turns) 4 ++ " turns $" ++ Text.padLeft (money u.cost) 7 ++ "  " ++
    e.objective

/-- An epic in detail: its line, workspace, spending, runs and decisions. -/
def detail (e : Epic) (u : Usage) (runs : List Run) (decisions : List Decision) : List String :=
  [e.line, "  workspace " ++ e.workspace.path ++ " (" ++ e.workspace.branch ++ ")",
   "  " ++ Text.natText u.runs ++ " runs, " ++ Text.natText u.turns ++ " turns, $" ++ money u.cost] ++
  runs.map (fun r => "  run " ++ r.runId ++ " " ++ r.stage.val ++ " " ++ r.status.name ++ " [" ++ signalList r ++
    "]" ++ ((r.stopReason.map (" " ++ ·.name)).getD "")) ++
  decisions.map fun d => "  " ++ d.decidedAt ++ " " ++ d.source.val ++ " -> " ++ d.target.name ++ " (" ++
    d.rationale.name ++ ", " ++ d.priority.name ++ ")"

end Epic

/-- A run of a rehearsal: stage, status, signals, turns, cost and card status in columns. -/
def Run.rehearsalLine (r : Run) : String :=
  Text.padRight r.stage.val 10 ++ " " ++ Text.padRight r.status.name 11 ++ " " ++ Text.padRight (signalList r) 28 ++
    " " ++ Text.padLeft (Text.natText r.turns) 3 ++ " turns  $" ++ money r.cost ++ "  card " ++
    r.lastCardStatus.getD "-"

namespace EscalationRecord

/-- An escalation of a rehearsal on one line. -/
def rehearsalLine (r : EscalationRecord) : String :=
  "escalation #" ++ Text.natText r.id ++ ": " ++ r.message.rationale.name ++ " at " ++ r.message.stage.val ++
    ": " ++ "; ".intercalate r.message.issues

/-- An escalation as the list shows it: who, where, why, the answer if any,
what was spent, the answers offered, and the issues. -/
def lines (r : EscalationRecord) : List String :=
  let m := r.message
  ["#" ++ Text.natText r.id ++ " " ++ m.epicId ++ " at " ++ m.stage.val ++ ": " ++ m.rationale.name ++
    ((r.resolution.map fun o => " [resolved: " ++ o.text ++ "]").getD ""),
   "    $" ++ money m.costSoFar ++ " / " ++ Text.natText m.turnsSoFar ++ " turns so far; options: " ++
    ", ".intercalate (m.options.map (·.text))] ++
  m.issues.map ("    - " ++ ·)

end EscalationRecord

/-- A tool's line in the check: a mark (`x` blocks, `+` required), its name
and its state. -/
def ToolStatus.line (t : ToolStatus) : String :=
  let state := if !t.installed then "missing (" ++ t.installHint ++ ")"
    else if t.authenticated == some false then "installed, not authenticated"
    else t.version.getD "installed"
  let mark := if t.blocking then "x" else if t.required then "+" else " "
  mark ++ " " ++ Text.padRight t.name 7 ++ " " ++ state

/-- The lines of a tool check. -/
def DoctorReport.lines (r : DoctorReport) : List String :=
  r.tools.map (·.line) ++
  match r.dockerDaemon with
  | some d => ["  docker daemon " ++ (if d then "running" else "not reachable")]
  | none => []

/-- A pattern on one line. -/
def PatternRecord.line (p : PatternRecord) : String :=
  p.name ++ " [" ++ p.scope ++ "] (" ++ money p.confidence ++ "): " ++ p.body

end EpicFlow
