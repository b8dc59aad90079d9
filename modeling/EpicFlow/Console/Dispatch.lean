import EpicFlow.Console.Vocabulary
import EpicFlow.Console.Stages
import EpicFlow.Console.Epics
import EpicFlow.Console.Watch
import EpicFlow.Console.Sessions
import EpicFlow.Console.Rehearsal
import EpicFlow.Console.Host
import EpicFlow.Console.CommandLine

/-!
# Console: dispatch

The console answers each request by the part it names.
-/

set_option autoImplicit false

namespace EpicFlow.Console

/-- Answer a request: its `op` names the part of the console. -/
def handle (home : Option String) (j : Json) : Json :=
  answer <| match fStr j "op" "" with
  | "stage_type" => opStageType j
  | "route_target" => opRouteTarget j
  | "signal" => opSignal j
  | "enum" => opEnum j
  | "registry" => opRegistry j
  | "run_ops" => opRunOps j
  | "route" => opRoute j
  | "card_parse" => opCardParse j
  | "card_render" => opCardRender j
  | "card_location" => opCardLocation j
  | "resolution" => opResolution j
  | "escalation" => opEscalation home j
  | "sanitize" => .ok (.str (Redact.sanitize home (fStr j "text" "")))
  | "session_name" => opSessionName j
  | "stage_prompt" => opStagePrompt j
  | "agent_command" => opAgentCommand j
  | "names" => opNames j
  | "sandbox_command" => opSandboxCommand j
  | "settings" => opSettings j
  | "interval" => opInterval j
  | "render_notes" => opRenderNotes j
  | "patterns" => opPatterns j
  | "epic" => opEpic home j
  | "sim_script" => opSimScript j
  | "card_store" => opCardStore j
  | "monitor" => opMonitor j
  | "supervisor" => opSupervisor j
  | "dry_run" => opDryRun home j
  | "host" => opHost home j
  | "cli" => opCli home j
  | op => .error (bad ("unknown op '" ++ op ++ "'"))

end EpicFlow.Console
