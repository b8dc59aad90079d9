import EpicFlow.Console.Basic
import EpicFlow.Stage.Prompt
import EpicFlow.Monitor.Config

/-!
# Console: stages, settings and routing

Requests on the stage table (register, look up, validate), on runs and how
they are routed, on escalation messages, on settings and the monitor's
intervals, and on the pattern memory.
-/

set_option autoImplicit false

namespace EpicFlow.Console

def opRegistry (j : Json) : A Json := do
  let reg ← registry j
  let names (r : Registry) : Json := Json.strs (r.names.map (·.val))
  let (reg, steps) := (fArr j "ops").foldl (fun (acc : Registry × List Json) step =>
    let (r, out) := acc
    let (r', res) : Registry × Json := match fStr? step "do" with
      | some "register" =>
        match Json.decode StageDescriptor.shape (step.get "descriptor") with
        | .error m => (r, errJ "Serde" m)
        | .ok d =>
          match r.register (StageDescriptor.ofJson d) with
          | .ok r2 => (r2, .obj [("names", names r2)])
          | .error e => (r, engErr e)
      | some "lookup" => (r, ((r.lookup (fStr step "name" "")).map StageDescriptor.toJson).getD .null)
      | some "names" => (r, names r)
      | some "accepts" =>
        match Target.parse (fStr step "target" "") with
        | .ok t => (r, .bool (r.accepts t))
        | .error m => (r, invalid m)
      | some "is_terminal" =>
        match StageName.parse (fStr step "stage" "") with
        | .ok s => (r, .bool (r.isTerminal s))
        | .error m => (r, invalid m)
      | some "validate" =>
        match r.validate with
        | .ok _ => (r, .str "ok")
        | .error e => (r, engErr e)
      | some d => (r, bad ("unknown registry op '" ++ d ++ "'"))
      | none => (r, bad "missing string field 'do'")
    (r', out ++ [res])) (reg, [])
  pure (.obj [("names", names reg), ("steps", .arr steps)])

def opRunOps (j : Json) : A Json := do
  let stage ← liftInvalid (StageName.parse (fStr j "stage" "BUILD"))
  let run0 := Run.pending "epic-1" stage "epic-1_BUILD_1" 1 "card-1"
  let step (r : Run) (s : Json) : Run × Json :=
    let wrap (r : Run) (res : Json) : Run × Json :=
      (r, .obj [("result", res), ("run", runOut r), ("active", .bool r.isActive),
        ("complete", .bool r.isComplete)])
    match fStr? s "do" with
    | some "start" => wrap (r.start (fStr s "run_id" "run-1") stamp) .null
    | some "signals" =>
      match signals (fStrs s "signals") with
      | .ok ss => wrap (r.recordSignals ss) .null
      | .error e => (r, e)
    | some "usage" =>
      let (r2, ch) := r.recordUsage (fNat s "turns" 0) (fFloat s "cost" 0.0)
      wrap r2 (.bool ch)
    | some "finish" =>
      match RunStatus.parse (fStr s "status" ""), optRationale s "reason" with
      | .ok st, .ok reason => wrap (r.finish st reason stamp) .null
      | .error m, _ => (r, invalid m)
      | _, .error e => (r, e)
    | some "has" =>
      match Signal.parse (fStr s "signal" "") with
      | .ok sg => wrap r (.bool (r.hasSignal sg))
      | .error m => (r, invalid m)
    | some d => (r, bad ("unknown run op '" ++ d ++ "'"))
    | none => (r, bad "missing string field 'do'")
  let (_, outs) := (fArr j "ops").foldl (fun (acc : Run × List Json) s =>
    let (r2, o) := step acc.1 s
    (r2, acc.2 ++ [o])) (run0, [])
  pure (.arr outs)

def opRoute (j : Json) : A Json := do
  let reg ← registry j
  let run ← runInput (j.get "run")
  pure (decisionOut (routeRun reg (fStr j "epic_id" "epic-1") run stamp))

def opEscalation (home : Option String) (j : Json) : A Json := do
  let reg ← registry j
  let epicId := fStr j "epic_id" "epic-1"
  let d ← decisionInput (j.get "decision") epicId
  let m := EscalationMessage.ofDecision reg epicId d (fNat j "turns" 0) (fFloat j "cost" 0.0) home stamp
  let allows := (fStrs j "check").map fun o =>
    match Resolution.parse o with
    | .ok r => Json.bool (m.allows r)
    | .error e => invalid e
  pure (.obj [("message", m.toJson.erase "raised_at"), ("allows", .arr allows)])

def opStagePrompt (j : Json) : A Json := do
  let d ← match j.get "descriptor" with
    | .null => do
      let reg ← registry j
      match reg.lookup (fStr j "stage" "") with
      | some d => pure d
      | none => .error (bad "stage not registered")
    | dj => do
      let v ← liftSerde (Json.decode StageDescriptor.shape dj)
      pure (StageDescriptor.ofJson v)
  pure (.str (d.prompt (fStr j "objective" "") (fStr j "card_path" "/ws/card.md")))

def opSettings (j : Json) : A Json := do
  let st ← settingsInput (match j.get "settings" with | .null => .obj [] | v => v)
  let v := match st.validate with
    | .ok _ => Json.str "ok"
    | .error e => engErr e
  let out := ((st.toJson.erase "workspace_root").erase "inbox_dir").erase "database_path"
  pure (.obj [("settings", out), ("validate", v), ("required_tools", Json.strs st.requiredTools)])

def wrap64 (n : Nat) : Json := .int (n % Nat.pow 2 64)

def opInterval (j : Json) : A Json := do
  let v ← liftSerde (Json.decode EngineSettings.monitorShape (match j.get "monitor" with | .null => .obj [] | m => m))
  let c := MonitorConfig.ofSettings (EngineSettings.monitorOfJson v)
  let ratios := (fArr j "ratios").filterMap Json.float?
  pure (.obj [("base_interval_ns", wrap64 c.baseInterval), ("max_wait_ns", wrap64 c.maxWait),
    ("min_interval_ns", wrap64 c.minInterval), ("shrink_factor", .int c.shrinkFactor),
    ("max_unreachable_polls", .int c.maxUnreachablePolls),
    ("intervals_ns", .arr (ratios.map fun r => wrap64 (c.intervalFor r)))])

def patternsOut (ps : List PatternRecord) : Json := .arr (ps.map PatternRecord.toJson)

def opRenderNotes (j : Json) : A Json := do
  let ps ← (fArr j "patterns").mapM patternInput
  pure (.str (renderNotes ps))

def opPatterns (j : Json) : A Json := do
  let limit := fNat j "limit" 5
  let (_, outs) := (fArr j "ops").foldl (fun (acc : PatternBook × List Json) step =>
    let (b, out) := acc
    let (b', res) : PatternBook × Json := match fStr? step "do" with
      | some "store" =>
        match patternInput (step.get "record") with
        | .error e => (b, e)
        | .ok r =>
          match b.store r with
          | .ok (b2, isNew) => (b2, .bool isNew)
          | .error e => (b, engErr e)
      | some "search" => (b, patternsOut (b.search limit (fStr step "query" "") (fStr step "scope" "global")))
      | some "scopes" => (b, patternsOut (b.inScopes (fStrs step "scopes")))
      | some d => (b, bad ("unknown patterns op '" ++ d ++ "'"))
      | none => (b, bad "missing string field 'do'")
    (b', out ++ [res])) ({}, [])
  pure (.arr outs)

end EpicFlow.Console
