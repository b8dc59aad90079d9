import EpicFlow.Console.Basic

/-!
# Console: epics over a store

A sequence of requests on the epics of one store: create and list them, record
runs, move them by decisions, block, resolve and override them, check their
budget and attempts, and raise and answer escalations.
-/

set_option autoImplicit false

namespace EpicFlow.Console

/-! Epics over an in-memory store -/


def epicOut (r : Except EngineError (Store × Epic)) (s : Store) : Store × Json :=
  match r with
  | .ok (s', e) => (s', e.toJson)
  | .error err => (s, engErr err)

def epicStep (home : Option String) (p : EpicPolicy) (st : Store × Nat) (step : Json) : (Store × Nat) × Json :=
  let (s, n) := st
  let eid := fStr step "epic" "epic-00000001"
  let keep := fun (j : Json) => ((s, n), j)
  let withStore := fun (r : Except EngineError (Store × Epic)) =>
    let (s', j) := epicOut r s
    ((s', n), j)
  let runStep := fun (insert : Bool) =>
    match runInput (step.set "epic_id" (.str eid)) with
    | .error e => keep e
    | .ok r =>
      let r := { r with startedAt := if fBool step "started" true then some stamp else none }
      match (if insert then s.insertRun r else s.updateRun r) with
      | .ok s' => ((s', n), .str "ok")
      | .error e => keep (engErr e)
  match fStr? step "do" with
  | some "create" =>
    match EpicPolicy.objectiveOf (fStr step "objective" "") with
    | .error e => keep (engErr e)
    | .ok o =>
      match p.create s (epicIdOf (n + 1)) o stamp with
      | .ok (s', e) => ((s', n + 1), e.toJson)
      | .error e => keep (engErr e)
  | some "get" => keep (match EpicPolicy.get s eid with | .ok e => e.toJson | .error e => engErr e)
  | some "list" =>
    match fStr? step "status" with
    | some t =>
      match EpicStatus.parse t with
      | .ok x => keep (.arr ((s.epicList (some x)).map Epic.toJson))
      | .error m => keep (invalid m)
    | none => keep (.arr ((s.epicList none).map Epic.toJson))
  | some "insert_run" => runStep true
  | some "update_run" => runStep false
  | some "runs" => keep (.arr ((s.runsOf eid).map runOut))
  | some "advance" =>
    match decisionInput ((step.get "decision").set "epic_id" (.str eid)) eid with
    | .error e => keep e
    | .ok d => withStore (p.advance s eid d stamp)
  | some "block" =>
    match rationale (fStr step "rationale" "Stuck") with
    | .error e => keep e
    | .ok r => withStore (EpicPolicy.block s eid r stamp)
  | some "resolve" =>
    match Resolution.parse (fStr step "option" "") with
    | .error m => keep (invalid m)
    | .ok o => withStore (p.resolve s eid o stamp)
  | some "override" => withStore (p.overrideStage s eid (fStr step "stage" "") stamp)
  | some "clear_resume" =>
    match EpicPolicy.clearResume s eid stamp with
    | .ok s' => ((s', n), .str "ok")
    | .error e => keep (engErr e)
  | some "spawn_gate" =>
    match EpicPolicy.get s eid with
    | .error e => keep (engErr e)
    | .ok e =>
      keep (match p.spawnGate s e stamp with | some d => decisionOut d | none => .null)
  | some "enforce_budget" =>
    match decisionInput ((step.get "decision").set "epic_id" (.str eid)) eid with
    | .error e => keep e
    | .ok d => keep (decisionOut (p.enforceBudget s d stamp))
  | some "decide" =>
    let rid := fStr step "run_id" "run-1"
    match s.run? rid with
    | none => keep (engErr (.notFound ("run " ++ rid)))
    | some r =>
      let d := routeRun p.registry eid r stamp
      keep (decisionOut (if fBool step "enforce" true then p.enforceBudget s d stamp else d))
  | some "usage" => keep (EpicPolicy.usage s eid).toJson
  | some "decisions" => keep (.arr ((s.decisionsOf eid).map decisionOut))
  | some "escalate" =>
    match decisionInput ((step.get "decision").set "epic_id" (.str eid)) eid with
    | .error e => keep e
    | .ok d =>
      match EpicPolicy.get s eid with
      | .error e => keep (engErr e)
      | .ok e =>
        match p.escalate s e d home stamp with
        | .ok (s', id) => ((s', n), .int id)
        | .error e => keep (engErr e)
  | some "escalations" =>
    keep (.arr ((s.escalationList (fBool step "open_only" false)).map EscalationRecord.toJson))
  | some "resolve_escalation" =>
    match Resolution.parse (fStr step "option" "") with
    | .error m => keep (invalid m)
    | .ok o => withStore (p.answer s (((step.get "id").int?).getD 1) o stamp)
  | some d => keep (bad ("unknown epic op '" ++ d ++ "'"))
  | none => keep (bad "missing string field 'do'")

def opEpic (home : Option String) (j : Json) : A Json := do
  let st ← settingsInput (match j.get "settings" with | .null => .obj [] | v => v)
  let st := { st with workspaceRoot := epicRoot, sourceRepo := none }
  let reg ← liftEng st.registry
  let p ← liftEng (EpicPolicy.ofSettings reg st)
  let (_, outs) := (fArr j "ops").foldl (fun (acc : (Store × Nat) × List Json) step =>
    let (stt, out) := acc
    let (stt', res) := epicStep home p stt step
    (stt', out ++ [res])) (({}, 0), [])
  pure (.arr outs)

end EpicFlow.Console
