import EpicFlow.Text.Shell

/-!
# Agent command lines

The command that runs a stage's agent depends on the agent type (case
ignored): `claude` takes the turn limit, JSON output and the prompt, and may
continue the last conversation, skip permission prompts and write its result
to a file; `aider`, `codex` (or `openai`) and `gemini` take the prompt; a
`manual` session only waits for the operator. The prompt and file are shell
quoted.

A sandboxed agent runs in a container with the workspace mounted at
`/workspace`; credentials are passed by name only, so their values never
appear in the command line.

Main statement:

* `render_unknown`: an unknown agent type is refused.
-/

set_option autoImplicit false

namespace EpicFlow

/-- How to run an agent for one stage. -/
structure AgentCommand where
  agentType : String
  prompt : String
  maxTurns : Nat
  /-- continue the most recent conversation -/
  resume : Bool
  /-- skip permission prompts (inside a sandbox only) -/
  autoAccept : Bool
  /-- a file to receive the agent's JSON result -/
  resultFile : Option String

namespace AgentCommand

/-- The agent types that are understood. -/
def known : List String := ["claude", "aider", "codex", "openai", "gemini", "manual"]

/-- The command line, or why there is none. -/
def render (c : AgentCommand) : Except String String :=
  let p := Shell.quote c.prompt
  let opt (b : Bool) (w : String) : List String := if b then [w] else []
  match Text.asciiLower c.agentType with
  | "claude" =>
    .ok (" ".intercalate (["claude"] ++ opt c.resume "--continue" ++
      opt c.autoAccept "--dangerously-skip-permissions" ++
      ["--max-turns " ++ Text.natText c.maxTurns, "--output-format json", "-p " ++ p] ++
      (match c.resultFile with | some f => ["> " ++ Shell.quote f] | none => [])))
  | "aider" =>
    .ok (" ".intercalate (["aider"] ++ opt c.autoAccept "--yes-always" ++
      opt c.resume "--restore-chat-history" ++ ["--message " ++ p]))
  | "codex" => .ok ("codex exec " ++ p)
  | "openai" => .ok ("codex exec " ++ p)
  | "gemini" => .ok ("gemini -p " ++ p)
  | "manual" =>
    .ok ("echo " ++ Shell.quote "Manual stage session. Update the task card, then press Enter." ++
      " && read -r _")
  | _ =>
    .error ("Unknown agent type '" ++ c.agentType ++
      "'. Supported types: claude, aider, codex, gemini, manual")

theorem render_unknown (c : AgentCommand) (h : Text.asciiLower c.agentType ∉ known) :
    ∃ m, c.render = .error m := by
  unfold render
  split <;> simp_all [known]

end AgentCommand

/-- The default sandbox image. -/
def defaultAgentImage : String := "node:20-bookworm"

/-- Wrap an agent command so that it runs in a sandbox container. -/
def sandboxCommand (container workspace image : String) (env : List (String × String))
    (inner : String) : String :=
  " ".intercalate (["docker run -it", "--name " ++ container,
    "-v " ++ Shell.quote workspace ++ ":/workspace", "-w /workspace",
    "-e GH_TOKEN", "-e GITHUB_TOKEN", "-e ANTHROPIC_API_KEY"] ++
    env.map (fun kv => "-e " ++ kv.1 ++ "=" ++ Shell.quote kv.2) ++
    [image, "sh -c",
      Shell.quote ("npm install -g @anthropic-ai/claude-code >/dev/null 2>&1; " ++ inner)])

end EpicFlow
