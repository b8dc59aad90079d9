import EpicFlow.Machine.Basic
import EpicFlow.Json.Value
import EpicFlow.Text.Shell
import EpicFlow.Text.Path

/-!
# The terminal multiplexer of a model machine

Sessions have a name, a working directory, an environment and two times
(creation and last activity, both readings of the machine's clock). A
session may run an agent.

Keys typed into a session move its activity to now. A command line followed
by `Enter` in a session without an agent starts the next agent of the
machine (or one with every default when none is left): the agent's card and
result file are the first card and result paths the command line names,
under the session's directory, and it edits its card at once. A sandboxed
command line (`docker run`) also makes its container, which mounts the
directory given as its workspace.

A pane query shows the agent's program while it has queries left; the query
after the last one sees it exit and shows the shell. An interrupt makes it
exit too, unless it ignores interrupts. On its exit an agent makes its late
edits and writes its result file. A killed session drops its agent without
either.

Main statements:

* `sendKeys_missing`: keys for a missing session fail and change nothing.
* `panes_idle`: a session without an agent shows the shell.
-/

set_option autoImplicit false

namespace EpicFlow

/-- A multiplexer command: its name, options and the words after them. -/
structure TmuxCommand where
  sub : String
  target : Option String := none
  format : Option String := none
  name : Option String := none
  dir : Option String := none
  rest : List String := []

namespace TmuxCommand

/-- Read the options and words after the command name. -/
def readOptions : List String → TmuxCommand → TmuxCommand
  | "-t" :: v :: more, c => readOptions more { c with target := some v }
  | "-F" :: v :: more, c => readOptions more { c with format := some v }
  | "-s" :: v :: more, c => readOptions more { c with name := some v }
  | "-c" :: v :: more, c => readOptions more { c with dir := some v }
  | "-d" :: more, c => readOptions more c
  | "-p" :: more, c => readOptions more c
  | a :: more, c => readOptions more { c with rest := c.rest ++ [a] }
  | [], c => c

/-- Read a command line; a leading socket option is skipped. -/
def read (args : List String) : TmuxCommand :=
  let args := match args with
    | "-L" :: _ :: more => more
    | _ => args
  match args with
  | sub :: more => readOptions more { sub }
  | [] => { sub := "" }

end TmuxCommand

namespace TermSession

/-- Fill a format with the session's variables. -/
def fill (s : TermSession) (fmt : String) : String :=
  Text.replaceEach fmt
    [("#\x7bsession_name\x7d", s.name), ("#\x7bsession_attached\x7d", "0"), ("#\x7bsession_windows\x7d", "1"),
     ("#\x7bsession_created\x7d", Text.natText s.created), ("#\x7bsession_activity\x7d", Text.natText s.activity)]

/-- The environment as `KEY=value` lines in key order. -/
def envText (s : TermSession) : String :=
  String.join ((s.env.mergeSort fun a b => decide (a.1 ≤ b.1)).map fun (k, v) => k ++ "=" ++ v ++ "\n")

end TermSession

/-- A character of a file name in a path an agent recognises. -/
def isNameChar (c : Char) : Bool := c.isAlphanum || c == '_' || c == '.' || c == '-'

/-- The path `pre` + name + `suf` starting the characters, with the longest
name made of name characters. -/
def pathAt (pre suf cs : List Char) : Option (List Char) :=
  if pre.isPrefixOf cs then
    let run := (cs.drop pre.length).takeWhile isNameChar
    match ((List.range run.length).reverse.filter fun k => 0 < k && suf.isPrefixOf (run.drop k)).head? with
    | some k => some (pre ++ run.take k ++ suf)
    | none => none
  else none

/-- The first path `pre` + name + `suf` in the characters. -/
def firstPathIn (pre suf : List Char) : List Char → Option String
  | [] => none
  | c :: cs =>
    match pathAt pre suf (c :: cs) with
    | some p => some (String.ofList p)
    | none => firstPathIn pre suf cs

/-- The first path `pre` + name + `suf` in a text. -/
def firstPath (pre suf text : String) : Option String := firstPathIn pre.toList suf.toList text.toList

/-- The word after an option in a list of words. -/
def optionValue (opt : String) : List String → Option String
  | a :: b :: more => if a == opt then some b else optionValue opt (b :: more)
  | _ => none

/-- Apply card edits to a file one by one, each as its own write; an edit
that cannot be made is skipped. -/
def FileTree.applyCardEdits (t : FileTree) (path : String) (es : List CardEdit) : FileTree :=
  es.foldl (fun t e =>
    match e.apply ((t.file? path).map (·.content)) with
    | .ok (.write c) => match t.write path c with
      | .ok t' => t'
      | .error _ => t
    | .ok .remove => t.remove path
    | .error _ => t) t

/-- The text of an agent's usage report. -/
def AgentSpec.report (a : AgentSpec) : String :=
  Json.compact (.obj [("num_turns", .int a.turns), ("total_cost_usd", .num a.cost), ("type", .str "result")])

namespace Agent

/-- What an agent leaves behind when it exits. -/
def exit (a : Agent) (t : FileTree) : FileTree :=
  let t := match a.cardPath with
    | some p => t.applyCardEdits p a.spec.lateEdits
    | none => t
  let text := match a.spec.result with
    | .report => some a.spec.report
    | .text s => some s
    | .nothing => none
  match a.resultPath, text with
  | some p, some s => match t.writeAll p s with
    | .ok t' => t'
    | .error _ => t
  | _, _ => t

end Agent

namespace Machine

/-- The failure for a missing session. -/
def cantFind (name : String) : Output := .failure 1 ("can't find session: " ++ name ++ "\n")

/-- The sessions in name order. -/
def sortedSessions (m : Machine) : List TermSession := m.sessions.mergeSort fun a b => decide (a.name ≤ b.name)

/-- The agent of a session exits. -/
def agentExits (m : Machine) (name : String) (a : Agent) : Machine :=
  let m := m.modifySession name fun s => { s with agent := none }
  { m with files := a.exit m.files }

/-- The container a sandboxed command line makes, and the directory it mounts. -/
def sandboxOf (ws : List String) : Option (String × String) :=
  match ws with
  | "docker" :: "run" :: more =>
    match optionValue "--name" more with
    | some n =>
      let v := (optionValue "-v" more).getD ""
      let mount := if Text.endsWith v ":/workspace" then String.ofList (v.toList.take (v.length - 11)) else v
      some (n, mount)
    | none => none
  | _ => none

/-- A session starts an agent for a command line. -/
def startAgent (m : Machine) (s : TermSession) (cmd : String) : Machine :=
  let (spec, agents) := match m.agents with
    | a :: rest => (a, rest)
    | [] => ({}, [])
  let base := s.dir.getD ""
  let card := (firstPath ".handy/cards/" ".md" cmd).map (Path.join base)
  let result := (firstPath ".handy/runs/" ".json" cmd).map (Path.join base)
  let ws := Shell.words cmd
  let containers := match sandboxOf ws with
    | some (n, dir) => Assoc.put m.containers n dir
    | none => m.containers
  let files := match card with
    | some p => m.files.applyCardEdits p spec.edits
    | none => m.files
  let agent : Agent := ⟨spec, ws.headD "", card, result, spec.polls⟩
  { m with agents, containers, files }.modifySession s.name fun s => { s with agent := some agent }

/-- Keys typed into a session. -/
def sendKeys (m : Machine) (name : String) (keys : List String) : Output × Machine :=
  match m.session? name with
  | none => (cantFind name, m)
  | some s =>
    let now := m.clock
    let m := m.modifySession name fun s => { s with activity := now }
    if keys.contains "C-c" then
      match s.agent with
      | some a => if a.spec.ignoreInterrupt then ({}, m) else ({}, m.agentExits name a)
      | none => ({}, m)
    else
      match keys, s.agent with
      | [cmd, "Enter"], none => if cmd.isEmpty then ({}, m) else ({}, m.startAgent s cmd)
      | _, _ => ({}, m)

theorem sendKeys_missing (m : Machine) (name : String) (keys : List String) (h : m.session? name = none) :
    m.sendKeys name keys = (cantFind name, m) := by
  simp [sendKeys, h]

/-- A pane query: the agent's program while it has queries left, else the shell. -/
def panes (m : Machine) (name : String) : Output × Machine :=
  match m.session? name with
  | none => (cantFind name, m)
  | some s =>
    match s.agent with
    | none => (.printing "bash\n", m)
    | some a =>
      if 0 < a.pollsLeft then
        (.printing (a.command ++ "\n"), m.modifySession name fun s => { s with agent := some { a with pollsLeft := a.pollsLeft - 1 } })
      else (.printing "bash\n", m.agentExits name a)

theorem panes_idle (m : Machine) (name : String) (s : TermSession) (h : m.session? name = some s)
    (ha : s.agent = none) : m.panes name = (.printing "bash\n", m) := by
  simp [panes, h, ha]

/-- Run the multiplexer. -/
def tmux (m : Machine) (args : List String) : Output × Machine :=
  let c := TmuxCommand.read args
  let t := c.target.getD ""
  let withSession (f : TermSession → Output × Machine) : Output × Machine :=
    match m.session? t with
    | some s => f s
    | none => (cantFind t, m)
  match c.sub with
  | "list-sessions" =>
    if m.sessions.isEmpty then (.failure 1 "no server running on /tmp/tmux-0/handy\n", m)
    else
      let fmt := c.format.getD "#\x7bsession_name\x7d"
      (.printing (String.join (m.sortedSessions.map fun s => s.fill fmt ++ "\n")), m)
  | "has-session" => withSession fun _ => ({}, m)
  | "list-panes" => m.panes t
  | "display-message" => withSession fun s => (.printing (s.fill (c.rest.headD "") ++ "\n"), m)
  | "show-environment" => withSession fun s => (.printing s.envText, m)
  | "new-session" =>
    let n := c.name.getD ""
    if (m.session? n).isSome then (.failure 1 ("duplicate session: " ++ n ++ "\n"), m)
    else ({}, { m with sessions := m.sessions ++ [{ name := n, dir := c.dir, created := m.clock, activity := m.clock }] })
  | "set-environment" =>
    withSession fun _ =>
      match c.rest with
      | k :: v :: _ => ({}, m.modifySession t fun s => { s with env := Assoc.put s.env k v })
      | _ => ({}, m)
  | "kill-session" => withSession fun _ => ({}, { m with sessions := m.sessions.filter (·.name != t) })
  | "send-keys" => m.sendKeys t c.rest
  | sub => (.failure 1 ("unknown command: " ++ sub ++ "\n"), m)

end Machine

end EpicFlow
