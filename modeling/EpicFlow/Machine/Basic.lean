import EpicFlow.Machine.Files
import EpicFlow.Card.Edit

/-!
# A model machine

The machine the conductor shells out to: the programs installed on it, their
versions, a terminal multiplexer with its sessions and the agents running in
them, containers with the directory each mounts, the branches of its
repositories, and its files.

Every run of an installed program advances the machine's clock by one and is
written to the call log. A program that is not installed cannot be started
(`notFound`) and leaves no trace. A canned answer (a rule) may stand in for a
program's own behaviour: the first rule whose program matches and whose
every needle equals some argument answers, as often as its count allows, and
changes nothing else.

Main statements:

* `takeRule_none_rules`: without rules no canned answer is given.
* `versionOutput_missing`: a program that cannot report its version fails.
-/

set_option autoImplicit false

namespace EpicFlow

/-- What a program run answers. -/
structure Output where
  code : Nat := 0
  stdout : String := ""
  stderr : String := ""
deriving DecidableEq, Repr

namespace Output

/-- The run ended with exit code zero. -/
def success (o : Output) : Bool := o.code == 0

/-- A failure with a message on the error stream. -/
def failure (code : Nat) (stderr : String) : Output := { code, stderr }

/-- A success printing a text. -/
def printing (stdout : String) : Output := { stdout }

end Output

/-- A canned answer of a program. -/
structure Rule where
  tool : String
  /-- every needle must equal some argument -/
  needles : List String := []
  output : Output
  /-- how many more times it answers; unlimited when absent -/
  times : Option Nat := none

namespace Rule

/-- The rule answers this run. -/
def applies (r : Rule) (tool : String) (args : List String) : Bool :=
  r.tool == tool && r.needles.all (args.contains ·) && r.times != some 0

/-- The rule after answering once. -/
def used (r : Rule) : Rule := { r with times := r.times.map (· - 1) }

end Rule

/-- What an agent leaves in its result file when it exits. -/
inductive ResultForm where
  /-- the usage report: turns, cost and the kind `result` -/
  | report
  /-- this text -/
  | text (content : String)
  /-- nothing: the file is not written -/
  | nothing
deriving DecidableEq, Repr

/-- How a model agent behaves. -/
structure AgentSpec where
  /-- how many pane queries see it running -/
  polls : Nat := 1
  /-- edits to its card when it starts -/
  edits : List CardEdit := []
  /-- edits to its card when it exits -/
  lateEdits : List CardEdit := []
  turns : Nat := 0
  cost : Float := 0.0
  result : ResultForm := .report
  /-- it keeps running on an interrupt -/
  ignoreInterrupt : Bool := false

/-- An agent running in a session. -/
structure Agent where
  spec : AgentSpec
  /-- the program name its pane shows -/
  command : String
  cardPath : Option String
  resultPath : Option String
  pollsLeft : Nat

/-- A session of the terminal multiplexer. -/
structure TermSession where
  name : String
  dir : Option String := none
  env : List (String × String) := []
  created : Nat
  activity : Nat
  agent : Option Agent := none

/-- The programs installed unless a machine says otherwise. -/
def defaultInstalled : List String := ["tmux", "docker", "git", "claude"]

/-- The first line each program prints for its version unless a machine says
otherwise. -/
def defaultVersions : List (String × Option String) :=
  [("tmux", some "tmux 3.4"), ("git", some "git version 2.43.0"),
   ("docker", some "Docker version 27.0.3, build 7d4bcd8"), ("claude", some "1.0.3 (Claude Code)"),
   ("aider", some "aider 0.50.1"), ("codex", some "codex-cli 0.1.0"), ("gemini", some "0.1.5")]

/-- A model machine. -/
structure Machine where
  /-- the clock, advanced by every program run -/
  clock : Nat := 1700000000
  /-- every program run, in order: the program and its arguments -/
  calls : List (List String) := []
  installed : List String := defaultInstalled
  /-- where the programs are installed -/
  binDir : String := "<root>/host/bin"
  versions : List (String × Option String) := defaultVersions
  /-- programs that print their version on the error stream -/
  versionStderr : List String := []
  dockerDaemon : Bool := true
  branches : List String := ["main"]
  sessions : List TermSession := []
  /-- containers and the directory each mounts as its workspace -/
  containers : List (String × String) := []
  /-- the agents the next sessions start, in order -/
  agents : List AgentSpec := []
  rules : List Rule := []
  files : FileTree := {}
  /-- the environment of the conductor's process -/
  env : List (String × String) := []

namespace Machine

/-- The program can be started. -/
def canRun (m : Machine) (tool : String) : Bool := tool == "which" || m.installed.contains tool

/-- Take the first rule that answers a run, counting it used. -/
def takeRule (m : Machine) (tool : String) (args : List String) : Option (Output × Machine) :=
  match m.rules.findIdx? (·.applies tool args) with
  | some i =>
    match m.rules[i]? with
    | some r => some (r.output, { m with rules := m.rules.set i r.used })
    | none => none
  | none => none

theorem takeRule_none_rules (m : Machine) (tool : String) (args : List String) (h : m.rules = []) :
    m.takeRule tool args = none := by
  simp [takeRule, h]

/-- The run asks for the program's version. -/
def asksVersion (args : List String) : Bool := args == ["--version"] || args == ["-V"]

/-- What a version query prints. -/
def versionOutput (m : Machine) (tool : String) : Output :=
  match Assoc.get? m.versions tool with
  | some (some v) =>
    let text := v ++ "\n"
    if m.versionStderr.contains tool then { stderr := text } else { stdout := text }
  | _ => .failure 1 (tool ++ ": cannot report a version\n")

theorem versionOutput_missing (m : Machine) (tool : String) (h : Assoc.get? m.versions tool = some none) :
    (m.versionOutput tool).success = false := by
  simp [versionOutput, h, Output.failure, Output.success]

/-- The session of a name. -/
def session? (m : Machine) (name : String) : Option TermSession := m.sessions.find? (·.name == name)

/-- Change the session of a name. -/
def modifySession (m : Machine) (name : String) (f : TermSession → TermSession) : Machine :=
  { m with sessions := m.sessions.map fun s => if s.name == name then f s else s }

/-- The value of an environment variable of the conductor's process. -/
def getEnv (m : Machine) (key : String) : Option String := Assoc.get? m.env key

end Machine

end EpicFlow
