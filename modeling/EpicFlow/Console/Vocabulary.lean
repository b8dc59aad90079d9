import EpicFlow.Console.Basic
import EpicFlow.Card.Location
import EpicFlow.Session.Name
import EpicFlow.Worker.Command

/-!
# Console: the vocabulary

Requests that read one word of the domain (a stage name, a route target, a
signal, a status, a resolution, a session name) and answer its normal form,
and requests that build the names and commands derived from them.
-/

set_option autoImplicit false

namespace EpicFlow.Console

def opStageType (j : Json) : A Json := do
  let s ← liftInvalid (StageName.parse (fStr j "name" ""))
  pure (.obj [("value", .str s.val)])

def opRouteTarget (j : Json) : A Json := do
  let t ← liftInvalid (Target.parse (fStr j "name" ""))
  let kind := match t with
    | .stage _ => "stage" | .human => "human" | .completed => "completed" | .failed => "failed"
  pure (.obj [("value", .str t.name), ("kind", .str kind)])

def opSignal (j : Json) : A Json := do
  let s ← liftInvalid (Signal.parse (fStr j "name" ""))
  let custom := match s with | .custom _ => true | _ => false
  pure (.obj [("value", .str s.code), ("custom", .bool custom), ("safety", .bool s.isSafety),
    ("safety_rationale", Json.optStr (s.safetyRationale.map (·.name)))])

def opEnum (j : Json) : A Json := do
  let v := fStr j "value" ""
  match fStr j "type" "" with
  | "run_status" =>
    let s ← liftInvalid (RunStatus.parse v)
    pure (.obj [("value", .str s.name), ("terminal", .bool s.isTerminal)])
  | "epic_status" =>
    let s ← liftInvalid (EpicStatus.parse v)
    pure (.obj [("value", .str s.name), ("terminal", .bool s.isTerminal)])
  | "priority" =>
    let p ← liftInvalid (Priority.parse v)
    pure (.obj [("value", .str p.name)])
  | "rationale" =>
    match Rationale.parse v with
    | some r => pure (.obj [("value", .str r.name), ("safety", .bool r.isSafety)])
    | none => pure (.obj [("value", .null)])
  | t => .error (bad ("unknown enum type '" ++ t ++ "'"))

def opResolution (j : Json) : A Json := do
  let r ← liftInvalid (Resolution.parse (fStr j "value" ""))
  pure (.obj [("value", .str r.text)])

def opSessionName (j : Json) : A Json :=
  let n := fStr j "name" ""
  let v := match Session.validateName n with
    | .ok _ => Json.str "ok"
    | .error e => invalid e
  let sp := match Session.splitId n with
    | some (b, i) => Json.arr [.str b, .int i]
    | none => .null
  .ok (.obj [("validate", v), ("split", sp)])

def opNames (j : Json) : A Json :=
  let id := fStr j "session_id" ""
  let tmux := Session.tmuxName id
  .ok (.obj [("tmux_name", .str tmux),
    ("session_id_from_name", Json.optStr (Session.idOfTmuxName (fStr j "name" tmux))),
    ("container", .str (Session.containerName (fStr j "prefix" "handy-sandbox-") id)),
    ("shell_quote", .str (Shell.quote (fStr j "quote" "")))])

def opSandboxCommand (j : Json) : A Json :=
  let env := (fArr j "env").filterMap fun kv =>
    match kv.arr? with
    | some [k, v] => (k.str?).bind fun k => (v.str?).map fun v => (k, v)
    | _ => none
  .ok (.str (sandboxCommand (fStr j "container" "") (fStr j "workspace" "")
    (fStr j "image" defaultAgentImage) env (fStr j "inner" "")))

def opAgentCommand (j : Json) : A Json :=
  let c : AgentCommand := { agentType := fStr j "agent_type" "claude", prompt := fStr j "prompt" ""
                            maxTurns := fNat j "max_turns" 40, resume := fBool j "resume" false
                            autoAccept := fBool j "auto_accept" false, resultFile := fStr? j "result_file" }
  match c.render with
  | .ok s => .ok (.str s)
  | .error e => .error (errJ "Error" e)

def opCardLocation (j : Json) : A Json :=
  let ws := fStr j "workspace" "/ws"
  let id := fStr j "card_id" "card-1"
  let l := match fStr? j "container" with
    | some c => CardLocation.inContainer ws id c
    | none => CardLocation.inWorkspace ws id
  .ok (.obj [("host_path", .str l.hostPath), ("worker_path", .str l.workerPath),
    ("relative_path", .str l.relativePath)])

end EpicFlow.Console
