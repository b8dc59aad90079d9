import EpicFlow.Store
import EpicFlow.Settings

/-!
# The life of an epic

The only writer of an epic's state. An epic is created active at the first
stage; routing decisions move it (to a stage, to an operator, to its end);
budget and attempt ceilings turn a spawn or a route into an escalation; an
operator's answer or override moves a blocked epic on.

Ceilings are exclusive: spending exactly the ceiling is allowed. Attempts are
the runs of the current stage since the attempt floor; a resolution or an
override moves the floor to the end of the history, so counting restarts.

Main statements:

* `advance_terminal`: a finished epic takes no more decisions.
* `enforceBudget_within`: within the ceilings, a decision passes unchanged.
* `resolve_pause`: pausing leaves the store as it was.
-/

set_option autoImplicit false

namespace EpicFlow

/-- The rules an epic lives by: the stage table, the budget ceilings, where
workspaces go, the first stage and how often a stage may run. -/
structure EpicPolicy where
  registry : Registry
  budget : BudgetSettings
  workspaceRoot : String
  initialStage : StageName
  maxAttempts : Nat

namespace EpicPolicy

/-- The policy of the settings, over a registry; the first stage must be
registered. -/
def ofSettings (reg : Registry) (st : EngineSettings) : Except EngineError EpicPolicy :=
  match reg.lookup st.initialStage with
  | some d => .ok ⟨reg, st.budget, st.workspaceRoot, d.name, st.maxStageAttempts⟩
  | none => .error (.config ("Initial stage '" ++ st.initialStage ++ "' is not registered"))

/-- The objective of a new epic: trimmed, and not empty. -/
def objectiveOf (objective : String) : Except EngineError String :=
  let o := Text.trim objective
  if o.isEmpty then .error (.config "Epic objective cannot be empty") else .ok o

/-- Add a new epic with the given id, whose workspace has been made. -/
def create (p : EpicPolicy) (s : Store) (id objective now : String) : Except EngineError (Store × Epic) := do
  let e := Epic.fresh p.workspaceRoot id objective p.initialStage now
  let s ← s.insertEpic e
  pure (s, e)

/-- The stored epic. -/
def get (s : Store) (id : String) : Except EngineError Epic :=
  match s.epic? id with
  | some e => .ok e
  | none => .error (.notFound ("epic " ++ id))

/-- What an epic's runs have spent. -/
def usage (s : Store) (id : String) : Usage := Usage.ofRuns (s.runsOf id)

/-- The ceiling a usage exceeds, described; cost is checked first. -/
def budgetViolation (p : EpicPolicy) (u : Usage) : Option String :=
  match p.budget.maxCostUsd with
  | some c =>
    if u.cost > c then
      some ("cumulative cost $" ++ Decimal.fixed 2 u.cost ++ " exceeds ceiling $" ++ Decimal.fixed 2 c)
    else turnsViolation
  | none => turnsViolation
where
  /-- The turn ceiling, if exceeded. -/
  turnsViolation : Option String :=
    match p.budget.maxTurns with
    | some t =>
      if u.turns > t then
        some ("cumulative turns " ++ Text.natText u.turns ++ " exceed ceiling " ++ Text.natText t)
      else none
    | none => none

/-- The runs of the current stage since the attempt floor. -/
def attempts (s : Store) (e : Epic) : Nat :=
  ((s.runsOf e.id).drop e.attemptFloor |>.filter (·.stage == e.stage)).length

/-- The decision that stops a spawn: over budget, or out of attempts. -/
def spawnGate (p : EpicPolicy) (s : Store) (e : Epic) (now : String) : Option Decision :=
  match p.budgetViolation (usage s e.id) with
  | some issue => some (Decision.human e.id none e.stage .critical .budgetExceeded [issue] now)
  | none =>
    let n := attempts s e
    if n ≥ p.maxAttempts then
      some (Decision.human e.id none e.stage .high .attemptLimit
        ["stage " ++ e.stage.val ++ " already ran " ++ Text.natText n ++ " times (limit " ++
          Text.natText p.maxAttempts ++ ")"] now)
    else none

/-- A decision as the budget lets it stand. Over budget, a safety escalation
keeps its rationale and gains the budget issue; any other decision becomes
a critical escalation for the budget. -/
def enforceBudget (p : EpicPolicy) (s : Store) (d : Decision) (now : String) : Decision :=
  match p.budgetViolation (usage s d.epicId) with
  | none => d
  | some issue =>
    if d.target == .human && d.rationale.isSafety then { d with issues := d.issues ++ [issue] }
    else
      let wanted := if d.target == .human then [] else ["router wanted " ++ d.target.name]
      Decision.human d.epicId d.runId d.source .critical .budgetExceeded
        ([issue] ++ wanted ++ d.issues) now

/-- Refuse a finished epic. -/
def checkOpen (e : Epic) : Except EngineError Unit :=
  if e.status.isTerminal then
    .error (.invalidTransition ("epic " ++ e.id ++ " is already " ++ e.status.name))
  else .ok ()

/-- An epic moved by a decision's target. -/
def moved (p : EpicPolicy) (e : Epic) (d : Decision) (now : String) : Epic :=
  let e := match d.target with
    | .human => { e with status := .blocked, blockedReason := some d.rationale }
    | .completed => { e with status := .completed, blockedReason := none }
    | .failed => { e with status := .failed, blockedReason := none }
    | .stage st =>
      { e with resumeNext := if st == e.stage then e.resumeNext else false, stage := st
               blockedReason := none
               status := if p.registry.isTerminal st then .completed else .active }
  { e with updatedAt := now }

/-- Apply a routing decision: log it and move the epic. A finished epic or a
target outside the table is refused. -/
def advance (p : EpicPolicy) (s : Store) (id : String) (d : Decision) (now : String) :
    Except EngineError (Store × Epic) := do
  let e ← get s id
  checkOpen e
  if !p.registry.accepts d.target then
    throw (.invalidTransition ("target '" ++ d.target.name ++ "' is not a registered stage"))
  let s ← s.insertDecision d
  let e := p.moved e d now
  let s ← s.updateEpic e
  pure (s, e)

/-- Clear the one-shot resume flag once a spawn used it. -/
def clearResume (s : Store) (id now : String) : Except EngineError Store := do
  let e ← get s id
  if e.resumeNext then s.updateEpic { e with resumeNext := false, updatedAt := now } else pure s

/-- Hold the epic at its stage without a decision. -/
def block (s : Store) (id : String) (r : Rationale) (now : String) : Except EngineError (Store × Epic) := do
  let e ← get s id
  checkOpen e
  let e := { e with status := .blocked, blockedReason := some r, updatedAt := now }
  let s ← s.updateEpic e
  pure (s, e)

/-- Apply an operator's answer to a blocked epic. A pause changes nothing;
after any other answer that leaves the epic active, attempts count afresh
and only a resume asks the next session to resume. -/
def resolve (p : EpicPolicy) (s : Store) (id : String) (o : Resolution) (now : String) :
    Except EngineError (Store × Epic) := do
  let e ← get s id
  if e.status != .blocked then
    throw (.invalidTransition ("epic " ++ e.id ++ " is " ++ e.status.name ++ ", not BLOCKED"))
  let target : Option Target := match o with
    | .pause => none
    | .resume | .retry => some (.stage e.stage)
    | .route st => some (.stage st)
    | .complete => some .completed
    | .abandon => some .failed
  match target with
  | none => pure (s, e)
  | some t =>
    let d : Decision := ⟨e.id, none, e.stage, t, .normal, .resolution, ["operator chose " ++ o.text], now⟩
    let (s, e) ← p.advance s e.id d now
    if e.status == .active then
      let e := { e with resumeNext := o == .resume, attemptFloor := e.history.length, updatedAt := now }
      let s ← s.updateEpic e
      pure (s, e)
    else pure (s, e)

/-- An operator moves the epic to a stage, whatever the routes say; the
epic must have no running stage. -/
def overrideStage (p : EpicPolicy) (s : Store) (id stage now : String) :
    Except EngineError (Store × Epic) := do
  let e ← get s id
  let some desc := p.registry.lookup stage
    | throw (.invalidTransition ("'" ++ stage ++ "' is not a registered stage"))
  if (s.runningRun? e.id).isSome then
    throw (.invalidTransition ("epic " ++ e.id ++ " has a RUNNING stage; abort it before overriding"))
  let d : Decision := ⟨e.id, none, e.stage, .stage desc.name, .high, .override, [], now⟩
  let (s, e) ← p.advance s e.id d now
  let e := { e with attemptFloor := e.history.length }
  let s ← s.updateEpic e
  pure (s, e)

/-- Raise an escalation for a decision that hands the epic to an operator.
An open escalation of the epic for the same stage and rationale is reused. -/
def escalate (p : EpicPolicy) (s : Store) (e : Epic) (d : Decision) (home : Option String)
    (now : String) : Except EngineError (Store × Nat) :=
  let u := usage s e.id
  let m := EscalationMessage.ofDecision p.registry e.id d u.turns u.cost home now
  match s.openEscalation? m.epicId with
  | some r =>
    if r.message.stage == m.stage && r.message.rationale == m.rationale then .ok (s, r.id)
    else s.insertEscalation m
  | none => s.insertEscalation m

/-- Answer an open escalation with one of the answers it offers (a pause is
always allowed and leaves it open). -/
def answer (p : EpicPolicy) (s : Store) (id : Int) (o : Resolution) (now : String) :
    Except EngineError (Store × Epic) := do
  let some r := s.escalation? id
    | throw (.notFound ("escalation " ++ Text.intText id))
  if !r.isOpen then
    throw (.invalidTransition ("escalation " ++ Text.intText id ++ " was already resolved"))
  if !r.message.allows o then
    throw (.invalidTransition ("'" ++ o.text ++ "' is not an offered option for escalation " ++
      Text.intText id ++ " (offered: " ++ ", ".intercalate (r.message.options.map Resolution.text) ++ ")"))
  let (s, e) ← p.resolve s r.message.epicId o now
  if o == .pause then pure (s, e)
  else
    let s ← s.resolveEscalation id o now
    pure (s, e)

theorem advance_terminal (p : EpicPolicy) (s : Store) (id : String) (d : Decision) (now : String)
    (e : Epic) (he : s.epic? id = some e) (ht : e.status.isTerminal = true) :
    p.advance s id d now =
      .error (.invalidTransition ("epic " ++ e.id ++ " is already " ++ e.status.name)) := by
  simp [advance, get, he, checkOpen, ht, bind, Except.bind]

theorem enforceBudget_within (p : EpicPolicy) (s : Store) (d : Decision) (now : String)
    (h : p.budgetViolation (usage s d.epicId) = none) : p.enforceBudget s d now = d := by
  simp [enforceBudget, h]

theorem resolve_pause (p : EpicPolicy) (s : Store) (id now : String) (e : Epic)
    (he : s.epic? id = some e) (hb : e.status = .blocked) :
    p.resolve s id .pause now = .ok (s, e) := by
  simp [resolve, get, he, hb, bind, Except.bind, pure, Except.pure]

end EpicPolicy

end EpicFlow
