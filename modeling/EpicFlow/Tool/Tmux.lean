import EpicFlow.Machine.Tools
import EpicFlow.Session.Name
import EpicFlow.Text.Integer
import EpicFlow.Text.Blank

/-!
# Stage sessions in the terminal multiplexer

The conductor keeps its stage sessions in the multiplexer, on a socket of
its own, and stores what it knows of each (epic, stage, run, workspace,
agent, machine, start time) in the session's environment, so that a later
process can find them again.

Each helper runs the multiplexer once or a few times and reads its answer.
A multiplexer that cannot be started fails with the system's error, prefixed
by what was being done; one that answers with a failure fails with its
error text. Listing sessions keeps only the conductor's own (named
`handy-…`), and finds none when no server runs; a session that is already
gone is not an error when it is killed.

Main statements:

* `sessionLine_short`: a line with fewer than five fields is no session.
* `paneRuns_shell`: a pane showing a shell runs nothing.
-/

set_option autoImplicit false

namespace EpicFlow

/-- What the environment of a stage session says of it. -/
structure SessionMetadata where
  session : String
  epicId : Option String := none
  stage : Option String := none
  runId : Option String := none
  worktree : Option String := none
  agentType : String
  machineId : String
  startedAt : String

namespace SessionMetadata

/-- The JSON form of the metadata. -/
def toJson (m : SessionMetadata) : Json :=
  let opt := fun (v : Option String) => match v with
    | some s => Json.str s
    | none => Json.null
  .obj [("session", .str m.session), ("epic_id", opt m.epicId), ("stage", opt m.stage), ("run_id", opt m.runId),
    ("worktree", opt m.worktree), ("agent_type", .str m.agentType), ("machine_id", .str m.machineId),
    ("started_at", .str m.startedAt)]

end SessionMetadata

/-- A session as the multiplexer lists it. -/
structure SessionInfo where
  name : String
  attached : Bool
  windows : Nat
  created : Nat
  activity : Nat
  metadata : Option SessionMetadata := none
  /-- its pane runs a program other than a shell -/
  running : Bool := false

namespace SessionInfo

/-- The JSON form of a listed session. -/
def toJson (s : SessionInfo) : Json :=
  .obj [("name", .str s.name), ("attached", .bool s.attached), ("windows", .int s.windows),
    ("created", .int s.created), ("activity", .int s.activity),
    ("metadata", match s.metadata with | some m => m.toJson | none => .null),
    ("status", .str (if s.running then "Running" else "Stopped"))]

end SessionInfo

namespace Tmux

/-- The prefix of every session of the conductor. -/
def ownPrefix : String := "handy-"

/-- The format of a listed session. -/
def listFormat : String :=
  "#\x7bsession_name\x7d\t#\x7bsession_attached\x7d\t#\x7bsession_windows\x7d\t#\x7bsession_created\x7d\t" ++
    "#\x7bsession_activity\x7d"

/-- Run the multiplexer on the conductor's socket. -/
def call (args : List String) : Shell (Except OsError Output) := Shell.exec "tmux" (["-L", "handy"] ++ args)

/-- A line of the session list, if it is a session of the conductor: five
fields or more, the counts read leniently. -/
def sessionLine (line : String) : Option SessionInfo :=
  match Text.splitChar line '\t' with
  | name :: attached :: windows :: created :: activity :: _ =>
    if Text.startsWith name ownPrefix then
      some { name, attached := attached == "1", windows := (Text.readUnsigned 32 windows).toOption.getD 1,
             created := (Text.readUnsigned 64 created).toOption.getD 0,
             activity := (Text.readUnsigned 64 activity).toOption.getD 0 }
    else none
  | _ => none

theorem sessionLine_short (line : String) (h : (Text.splitChar line '\t').length < 5) :
    sessionLine line = none := by
  unfold sessionLine
  split
  · rename_i name attached windows created activity rest heq
    rw [heq] at h
    simp at h
    omega
  · rfl

/-- A pane that shows this program runs something. -/
def paneRuns (cmd : String) : Bool :=
  !cmd.isEmpty && cmd != "bash" && cmd != "zsh" && cmd != "sh" && cmd != "fish"

theorem paneRuns_shell : paneRuns "bash" = false := by decide

/-- The session exists. -/
def hasSession (name : String) : Shell Bool := do
  match ← call ["has-session", "-t", name] with
  | .ok o => pure o.success
  | .error _ => pure false

/-- The session's pane runs a program other than a shell. -/
def isActive (name : String) : Shell Bool := do
  match ← call ["list-panes", "-t", name, "-F", "#\x7bpane_current_command\x7d"] with
  | .ok o => pure (o.success && paneRuns (Text.trim o.stdout))
  | .error _ => pure false

/-- The session's last activity. -/
def activity (name : String) : ExceptT String Shell Int := do
  match ← call ["display-message", "-p", "-t", name, "#\x7bsession_activity\x7d"] with
  | .error e => throw ("Failed to query session activity: " ++ e.message)
  | .ok o =>
    if !o.success then throw ("tmux error: " ++ o.stderr)
    match Text.readSigned 64 (Text.trim o.stdout) with
    | .ok v => pure v
    | .error f => throw ("Invalid session_activity value: " ++ f.message)

/-- The metadata of a session, read from its environment; `now` stands for a
missing start time. -/
def metadata (name now : String) : ExceptT String Shell SessionMetadata := do
  match ← call ["show-environment", "-t", name] with
  | .error e => throw ("Failed to get session environment: " ++ e.message)
  | .ok o =>
    if !o.success then throw "Session not found or no environment set"
    let vars := (Text.lines o.stdout).filterMap fun l =>
      match Text.splitOnce l '=' with
      | some (k, v) => if Text.startsWith k "HANDY_" then some (k, v) else none
      | none => none
    -- a later line of a key wins
    let get := fun (k : String) => (vars.reverse.find? (·.1 == k)).map (·.2)
    pure { session := name, epicId := get "HANDY_EPIC", stage := get "HANDY_STAGE", runId := get "HANDY_RUN",
           worktree := get "HANDY_WORKTREE", agentType := (get "HANDY_AGENT_TYPE").getD "unknown",
           machineId := (get "HANDY_MACHINE_ID").getD "unknown", startedAt := (get "HANDY_STARTED_AT").getD now }

/-- The conductor's sessions, each with its metadata (if it can be read)
and whether its pane runs something. -/
def listSessions (now : String) : ExceptT String Shell (List SessionInfo) := do
  match ← call ["list-sessions", "-F", listFormat] with
  | .error e => throw ("Failed to list tmux sessions: " ++ e.message)
  | .ok o =>
    if !o.success then
      if Text.contains o.stderr "no server running" || Text.contains o.stderr "no sessions" then return []
      throw ("tmux error: " ++ o.stderr)
    (Text.lines o.stdout).filterMap sessionLine |>.mapM fun s => do
      let found ← ExceptT.lift (metadata s.name now).run
      let running ← ExceptT.lift (isActive s.name)
      pure { s with metadata := found.toOption, running }

/-- Set a variable of a session's environment. -/
def setEnv (name key value : String) : ExceptT String Shell Unit := do
  match ← call ["set-environment", "-t", name, key, value] with
  | .error e => throw ("Failed to set environment: " ++ e.message)
  | .ok o => if !o.success then throw ("Failed to set " ++ key ++ ": " ++ o.stderr)

/-- Create a session of the conductor in a directory, with its metadata in
its environment. -/
def createSession (name : String) (dir : Option String) (info : SessionMetadata) (now : String) :
    ExceptT String Shell Unit := do
  if !Text.startsWith name ownPrefix then throw ("Session name must start with '" ++ ownPrefix ++ "'")
  let existing ← listSessions now
  if existing.any (·.name == name) then throw ("Session '" ++ name ++ "' already exists")
  let dirArgs := match dir with
    | some d => ["-c", d]
    | none => []
  match ← call (["new-session", "-d", "-s", name] ++ dirArgs) with
  | .error e => throw ("Failed to create session: " ++ e.message)
  | .ok o => if !o.success then throw ("tmux error: " ++ o.stderr)
  setEnv name "HANDY_AGENT_TYPE" info.agentType
  setEnv name "HANDY_MACHINE_ID" info.machineId
  setEnv name "HANDY_STARTED_AT" info.startedAt
  for (key, value) in [("HANDY_EPIC", info.epicId), ("HANDY_STAGE", info.stage), ("HANDY_RUN", info.runId),
      ("HANDY_WORKTREE", info.worktree)] do
    if let some v := value then setEnv name key v

/-- Kill a session; one that is already gone is no error. -/
def killSession (name : String) : ExceptT String Shell Unit := do
  match ← call ["kill-session", "-t", name] with
  | .error e => throw ("Failed to kill session: " ++ e.message)
  | .ok o =>
    if !o.success && !(Text.contains o.stderr "can't find session" || Text.contains o.stderr "no server running") then
      throw ("tmux error: " ++ o.stderr)

/-- Type a command line into a session and press Enter; an empty command
only presses Enter. -/
def sendCommand (name cmd : String) : ExceptT String Shell Unit := do
  let keys := (if cmd.isEmpty then [] else [cmd]) ++ ["Enter"]
  match ← call (["send-keys", "-t", name] ++ keys) with
  | .error e => throw ("Failed to send command: " ++ e.message)
  | .ok o => if !o.success then throw ("tmux error: " ++ o.stderr)

/-- Type keys into a session as they are, such as an interrupt. -/
def sendKeys (name keys : String) : ExceptT String Shell Unit := do
  match ← call ["send-keys", "-t", name, keys] with
  | .error e => throw ("Failed to send keys: " ++ e.message)
  | .ok o => if !o.success then throw ("tmux error: " ++ o.stderr)

end Tmux

end EpicFlow
