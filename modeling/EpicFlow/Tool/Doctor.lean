import EpicFlow.Tool.Container
import EpicFlow.Settings
import EpicFlow.Json.Read

/-!
# Checking the tools the conductor needs

The check looks at every tool the conductor can use: tmux, git, docker, the
known agent programs, and any other tool the settings require. For each it
asks the program locator where the tool is; a found tool is asked for its
version, of which the first line counts (for tmux, git and docker only the
first word that starts with a digit). The `claude` agent program is also
checked for credentials: an API key in the environment, or an account in
its file in the home directory.

A tool blocks when the settings require it and it is missing or lacks
credentials. With the docker card transport the daemon must answer too.

Main statements:

* `versionOf_plain`: a version line of an agent program is kept whole.
* `blocking_unrequired`: a tool the settings do not need never blocks.
-/

set_option autoImplicit false

namespace EpicFlow

/-- What the check found of one tool. -/
structure ToolStatus where
  name : String
  installed : Bool
  required : Bool
  authenticated : Option Bool := none
  version : Option String := none
  path : Option String := none
  installHint : String

namespace ToolStatus

/-- The tool is required but cannot be used. -/
def blocking (t : ToolStatus) : Bool := t.required && (!t.installed || t.authenticated == some false)

theorem blocking_unrequired (t : ToolStatus) (h : t.required = false) : t.blocking = false := by
  simp [blocking, h]

/-- The JSON form of a tool's status. -/
def toJson (t : ToolStatus) : Json :=
  let opt := fun (v : Option String) => match v with
    | some s => Json.str s
    | none => Json.null
  .obj [("name", .str t.name), ("installed", .bool t.installed), ("required", .bool t.required),
    ("authenticated", match t.authenticated with | some b => .bool b | none => .null),
    ("version", opt t.version), ("path", opt t.path), ("install_hint", .str t.installHint)]

end ToolStatus

/-- What the check found of every tool. -/
structure DoctorReport where
  tools : List ToolStatus
  /-- the known agent programs that are installed -/
  availableAgents : List String
  /-- whether the docker daemon answered, when the settings use docker cards -/
  dockerDaemon : Option Bool
  allSatisfied : Bool

namespace DoctorReport

/-- The tools that block. -/
def blocking (r : DoctorReport) : List ToolStatus := r.tools.filter (·.blocking)

/-- The JSON form of a report. -/
def toJson (r : DoctorReport) : Json :=
  .obj [("tools", .arr (r.tools.map (·.toJson))), ("available_agents", .arr (r.availableAgents.map .str)),
    ("docker_daemon", match r.dockerDaemon with | some b => .bool b | none => .null),
    ("all_satisfied", .bool r.allSatisfied)]

end DoctorReport

namespace Doctor

/-- The agent programs the conductor knows how to drive. -/
def knownAgents : List String := ["claude", "aider", "codex", "gemini"]

/-- How to install a tool. -/
def installHint : String → String
  | "tmux" => "brew install tmux"
  | "git" => "brew install git"
  | "docker" => "https://docs.docker.com/get-docker/"
  | "claude" => "npm install -g @anthropic-ai/claude-code"
  | "aider" => "pip install aider-chat"
  | "codex" => "npm install -g @openai/codex"
  | "gemini" => "npm install -g @google/gemini-cli"
  | _ => "see the tool's documentation"

/-- The arguments that ask a tool for its version. -/
def versionArgs (name : String) : List String := if name == "tmux" then ["-V"] else ["--version"]

/-- The words of a line, split at blanks. -/
def blankWords (s : String) : List String :=
  ((s.toList.splitOnP Text.isBlank).filter (· ≠ [])).map String.ofList

/-- The version in a tool's first output line. -/
def versionOf (name line : String) : String :=
  let line := Text.trim line
  if name == "tmux" || name == "git" || name == "docker" then
    match (blankWords line).find? (fun w => match w.toList with
        | c :: _ => c.isDigit
        | [] => false) with
    | some w => String.ofList (w.toList.reverse.dropWhile (· == ',')).reverse
    | none => line
  else line

theorem versionOf_plain (line : String) : versionOf "claude" line = Text.trim line := by
  simp [versionOf]

/-- Where a tool is installed, and its version, if it is installed. -/
def locate (name : String) : Shell (Option (String × Option String)) := do
  match ← Shell.exec "which" [name] with
  | .ok o =>
    if !o.success then return none
    let path := Text.trim o.stdout
    let version ← match ← Shell.exec name (versionArgs name) with
      | .ok v =>
        if v.success then
          let text := if (Text.trim v.stdout).isEmpty then v.stderr else v.stdout
          pure ((Text.lines text).head?.map (versionOf name))
        else pure none
      | .error _ => pure none
    return some (path, version)
  | .error _ => return none

/-- The `claude` agent program has credentials: an API key in the
environment, or an account entry in its file in the home directory. -/
def claudeAuthenticated (home : Option String) : Shell Bool := do
  let m ← get
  if (m.getEnv "ANTHROPIC_API_KEY").any (!·.isEmpty) then return true
  match home with
  | none => return false
  | some h =>
    match m.files.read (Path.join h ".claude.json") with
    | .ok text =>
      match Json.parse text with
      | .ok j => return (j.get? "oauthAccount").isSome
      | .error _ => return false
    | .error _ => return false

/-- Check one tool. -/
def checkTool (home : Option String) (name : String) (required : Bool) : Shell ToolStatus := do
  match ← locate name with
  | some (path, version) =>
    let authenticated ← if name == "claude" then some <$> claudeAuthenticated home else pure none
    pure { name, installed := true, required, authenticated, version, path := some path,
           installHint := installHint name }
  | none => pure { name, installed := false, required, installHint := installHint name }

/-- Check every tool the conductor can use. -/
def check (home : Option String) (s : EngineSettings) : Shell DoctorReport := do
  let required := s.requiredTools
  let base := ["tmux", "git", "docker"] ++ knownAgents
  let names := required.foldl (fun acc r => if acc.contains r then acc else acc ++ [r]) base
  let tools ← names.mapM fun n => checkTool home n (required.contains n)
  let availableAgents := (tools.filter fun t => t.installed && knownAgents.contains t.name).map (·.name)
  let dockerDaemon ← if s.cards.transport == .docker then some <$> Container.available else pure none
  pure { tools, availableAgents, dockerDaemon,
         allSatisfied := tools.all (!·.blocking) && dockerDaemon.getD true }

end Doctor

end EpicFlow
