import EpicFlow.Console.Aliases
import EpicFlow.Worker.Tmux
import EpicFlow.Card.Transport
import EpicFlow.Tool.Doctor
import EpicFlow.Tool.Worktree

/-!
# Console: the machine

A request may describe the machine the conductor runs programs on: which
programs are installed and their versions, canned answers, sessions and
containers that exist, the agents the next sessions start, files, and the
environment. The console builds that machine, and answers requests that run
the conductor's helpers on it one step at a time, each step with the
program runs it made.
-/

set_option autoImplicit false

namespace EpicFlow.Console

/-! Building the machine -/

/-- The card edits of an agent description; an edit that does not read is
left out. -/
def agentEdits (xs : List Json) : List CardEdit := xs.filterMap fun e => (CardEdit.ofJson id e).toOption

/-- How an agent described by an input object behaves. -/
def agentSpecOf (j : Json) : AgentSpec :=
  { polls := fNat j "polls" 1, edits := agentEdits (fArr j "edits"), lateEdits := agentEdits (fArr j "late_edits")
    turns := fNat j "turns" 0, cost := fFloat j "cost" 0.0
    result := match j.get "result" with
      | .str s => .text s
      | .bool false => .nothing
      | _ => .report
    ignoreInterrupt := fBool j "ignore_interrupt" false }

/-- The members of an object field. -/
def fObj (j : Json) (k : String) : List (String × Json) := ((j.get k).obj?).getD []

/-- A canned answer described by an input object. -/
def ruleOf (j : Json) : Rule :=
  { tool := fStr j "tool" "", needles := fStrs j "match"
    output := { code := fNat j "code" 0, stdout := fStr j "stdout" "", stderr := fStr j "stderr" "" }
    times := fNat? j "times" }

/-- A session described by an input object, at a clock reading. -/
def sessionOf (clock : Nat) (j : Json) : TermSession :=
  let agent := match j.get "agent" with
    | .obj kvs =>
      let a := Json.obj kvs
      let spec := agentSpecOf a
      some { spec, command := fStr a "cmd" "claude", cardPath := fStr? a "card_path",
             resultPath := fStr? a "result_path", pollsLeft := spec.polls }
    | _ => none
  { name := fStr j "name" "", dir := fStr? j "dir"
    env := (fObj j "env").filterMap fun (k, v) => v.str?.map (k, ·)
    created := fNat j "created" clock, activity := fNat j "activity" clock, agent }

/-- The machine a request describes, and the home directory it runs with
(the given one, unless the request sets another). -/
def machineOf (spec : Json) (home : Option String) : Machine × Option String :=
  let base : Machine := {}
  let installed := match spec.get "installed" with
    | .arr xs => xs.filterMap Json.str?
    | _ => base.installed
  let versions := (fObj spec "versions").foldl (fun vs (k, v) => Assoc.put vs k v.str?) base.versions
  let env := (fObj spec "env").filterMap fun (k, v) => v.str?.map (k, ·)
  let home := if fBool spec "home" false then some (underScratch "home")
    else match Assoc.get? env "HOME" with
      | some h => some h
      | none => home
  let files : FileTree := { dirs := [scratch, underScratch "host", underScratch "host/bin"] }
  let files := (fStrs spec "dirs").foldl (fun t d => ((t.createDirAll (underScratch d)).toOption).getD t) files
  let files := (fObj spec "files").foldl (fun t (p, v) =>
    ((t.writeAll (underScratch p) ((v.str?).getD "")).toOption).getD t) files
  let m : Machine :=
    { installed, versions, env, files, binDir := underScratch "host/bin"
      versionStderr := fStrs spec "version_stderr", dockerDaemon := fBool spec "docker_daemon" true
      branches := match spec.get "branches" with
        | .arr xs => xs.filterMap Json.str?
        | _ => base.branches
      sessions := (fArr spec "sessions").map (sessionOf base.clock)
      containers := (fObj spec "containers").filterMap fun (k, v) => v.str?.map (k, ·)
      agents := (fArr spec "agents").map agentSpecOf
      rules := (fArr spec "rules").map ruleOf }
  (m, home)

/-! Steps against the machine -/

/-- What the machine steps carry from one to the next. -/
structure HostRig where
  st : Host × Conductor
  aliases : Aliases := {}
  settings : EngineSettings
  home : Option String

namespace HostRig

/-- The worker of the steps. -/
def worker (r : HostRig) : TmuxWorker.Config :=
  { transport := r.settings.cards.transport, containerPrefix := r.settings.cards.containerPrefix, home := r.home }

/-- Run work on the machine. -/
def onShell {α : Type} (r : HostRig) (s : Shell α) : HostRig × α :=
  let (a, m) := s.run r.st.1.machine
  ({ r with st := ({ r.st.1 with machine := m }, r.st.2) }, a)

/-- Run a conductor's job. -/
def onEng {α : Type} (r : HostRig) (j : Eng α) : HostRig × Except EngineError α :=
  let (st, a) := runEng r.st j
  ({ r with st }, a)

end HostRig

/-- The answer of a helper that fails with a text. -/
def toolAnswer {α : Type} (f : α → Json) : Except String α → Json
  | .ok a => f a
  | .error m => errJ "Tool" m

/-- The answer of a conductor's job. -/
def engAnswer {α : Type} (f : α → Json) : Except EngineError α → Json
  | .ok a => f a
  | .error e => engErr e

/-- The stage session of the multiplexer steps, unless a step names one. -/
def defaultSession : String := "handy-agent-s_BUILD_1"

/-- The metadata of a session a step creates. -/
def metadataInput (name : String) (j : Json) : SessionMetadata :=
  { session := fStr j "session" name, epicId := fStr? j "epic_id", stage := fStr? j "stage"
    runId := fStr? j "run_id", worktree := fStr? j "worktree", agentType := fStr j "agent_type" "claude"
    machineId := fStr j "machine_id" "m1", startedAt := fStr j "started_at" "2026-01-01T00:00:00Z" }

/-- The card location of a mailbox step. -/
def mailboxLocation (step : Json) : CardLocation :=
  { CardLocation.inWorkspace (underScratch (fStr step "workspace" "ws1")) (fStr step "card_id" "card-1") with
    container := fStr? step "container" }

/-- The mailbox of a step's transport. -/
def mailboxOf (home : Option String) (step : Json) : Mailbox Eng :=
  if fStr step "transport" "worktree" == "docker" then Mailbox.docker home else Mailbox.worktree

/-- The invocation of a worker step. -/
def invocationInput (step : Json) : A Invocation := do
  let stage ← liftInvalid (StageName.parse (fStr step "stage" "BUILD"))
  pure { epicId := fStr step "epic_id" "epic-1", stage, objective := fStr step "objective" "obj"
         sessionName := fStr step "session_name" "epic-1_BUILD_1", maxTurns := fNat step "max_turns" 10
         resume := fBool step "resume" false
         workspace := match step.get "workspace" with
           | .null => if (step.obj?.getD []).any (·.1 == "workspace") then none else some (underScratch "ws1")
           | v => some (underScratch ((v.str?).getD "ws1"))
         agentType := fStr step "agent_type" "claude"
         cardPath := underScratch (fStr step "card_path" "ws1/.handy/cards/card-1.md")
         prompt := fStr step "prompt" "do it" }

/-- Answer one step against the machine. -/
def hostStep (rig : HostRig) (step : Json) : HostRig × Json :=
  let session := fStr step "session" defaultSession
  let keep := fun (j : Json) => (rig, j)
  let ok := fun (_ : Unit) => Json.str "ok"
  let runId := rig.aliases.real (fStr step "run_id" "")
  match fStr? step "do" with
  | some "tmux.list" =>
    let (rig, r) := rig.onShell (Tmux.listSessions stamp).run
    (rig, toolAnswer (fun xs => .arr (xs.map SessionInfo.toJson)) r)
  | some "tmux.has" =>
    let (rig, b) := rig.onShell (Tmux.hasSession session)
    (rig, .bool b)
  | some "tmux.active" =>
    let (rig, b) := rig.onShell (Tmux.isActive session)
    (rig, .bool b)
  | some "tmux.activity" =>
    let (rig, r) := rig.onShell (Tmux.activity session).run
    (rig, toolAnswer Json.int r)
  | some "tmux.metadata" =>
    let (rig, r) := rig.onShell (Tmux.metadata session stamp).run
    (rig, toolAnswer SessionMetadata.toJson r)
  | some "tmux.create" =>
    let dir := (fStr? step "dir").map underScratch
    let info := metadataInput session (step.get "metadata")
    let (rig, r) := rig.onShell (Tmux.createSession session dir info stamp).run
    (rig, toolAnswer ok r)
  | some "tmux.kill" =>
    let (rig, r) := rig.onShell (Tmux.killSession session).run
    (rig, toolAnswer ok r)
  | some "tmux.send" =>
    let (rig, r) := rig.onShell (Tmux.sendCommand session (fStr step "command" "")).run
    (rig, toolAnswer ok r)
  | some "tmux.keys" =>
    let (rig, r) := rig.onShell (Tmux.sendKeys session (fStr step "keys" "C-c")).run
    (rig, toolAnswer ok r)
  | some "docker.available" =>
    let (rig, b) := rig.onShell Container.available
    (rig, .bool b)
  | some "docker.rm" =>
    let (rig, r) := rig.onShell (Container.remove rig.home (fStr step "container" "c1")).run
    (rig, toolAnswer ok r)
  | some "docker.cp" =>
    let dest := underScratch (fStr step "dest" "out")
    let (rig, r) := rig.onShell (Container.copyOut rig.home (fStr step "container" "c1")
      (fStr step "source" "/workspace/x") dest).run
    (rig, toolAnswer (fun _ => match rig.st.1.machine.files.read dest with
      | .ok t => .str t
      | .error _ => .null) r)
  | some "worktree" =>
    let (rig, r) := rig.onShell (Worktree.create (underScratch (fStr step "repo" "repo")) (fStr step "branch" "epic/x")
      (underScratch (fStr step "path" "wt"))).run
    (rig, toolAnswer ok r)
  | some "deps" =>
    let (rig, r) := rig.onShell (Doctor.check rig.home rig.settings)
    (rig, .obj [("report", r.toJson), ("blocking", Json.strs (r.blocking.map (·.name)))])
  | some "required" => keep (Json.strs rig.settings.requiredTools)
  | some "worker.container_for" =>
    keep (match TmuxWorker.containerFor rig.worker (fStr step "session_id" "e_BUILD_1") with
      | some c => .str c
      | none => .null)
  | some "worker.invoke" =>
    match invocationInput step with
    | .error e => keep e
    | .ok inv =>
      let (rig, r) := rig.onEng (TmuxWorker.invoke rig.worker inv)
      (rig, engAnswer Json.str r)
  | some "worker.status" =>
    let (rig, r) := rig.onEng (TmuxWorker.status rig.worker runId)
    (rig, engAnswer WorkerStatus.toJson r)
  | some "worker.terminate" =>
    let (rig, r) := rig.onEng (TmuxWorker.terminate rig.worker runId (fBool step "force" false))
    (rig, engAnswer ok r)
  | some "worker.release" =>
    let (rig, r) := rig.onEng (TmuxWorker.release rig.worker runId)
    (rig, engAnswer ok r)
  | some "mailbox.deliver" =>
    let loc := mailboxLocation step
    let (rig, r) := rig.onEng ((mailboxOf rig.home step).deliver loc (fStr step "content" ""))
    (rig, engAnswer ok r)
  | some "mailbox.pull" =>
    let inbox := underScratch (fStr step "inbox" "inbox/card-1.md")
    let (rig, r) := rig.onEng ((mailboxOf rig.home step).pull (mailboxLocation step) inbox)
    (rig, engAnswer (fun (p : PulledCard) => .obj [("local_path", .str inbox), ("modified", .bool p.modified.isSome),
      ("content", .str p.content)]) r)
  | some "write" =>
    let path := underScratch (fStr step "path" "")
    let m := rig.st.1.machine
    match m.files.writeAll path (fStr step "content" "") with
    | .ok files => ({ rig with st := ({ rig.st.1 with machine := { m with files } }, rig.st.2) }, .str "ok")
    | .error e => keep (errJ "Io" e.message)
  | some "read" =>
    keep (match rig.st.1.machine.files.read (underScratch (fStr step "path" "")) with
      | .ok t => .str t
      | .error _ => .null)
  | some "mkdir" =>
    let m := rig.st.1.machine
    match m.files.createDirAll (underScratch (fStr step "path" "")) with
    | .ok files => ({ rig with st := ({ rig.st.1 with machine := { m with files } }, rig.st.2) }, .str "ok")
    | .error e => keep (errJ "Io" e.message)
  | some d => keep (bad ("unknown host step '" ++ d ++ "'"))
  | none => keep (bad "missing string field 'do'")

/-- The program runs of the machine since a point of its log. -/
def callsSince (m : Machine) (n : Nat) : Json := .arr ((m.calls.drop n).map Json.strs)

/-- Run the helpers of the conductor against a machine, step by step. -/
def opHost (home : Option String) (j : Json) : A Json := do
  let j := fromRoot j
  let settings ← settingsInput (match j.get "settings" with | .null => .obj [] | v => v)
  let (machine, home) := machineOf (match j.get "host" with | .null => .obj [] | v => v) home
  let rig : HostRig := { st := ({ machine }, {}), settings, home }
  let (_, outs) := (fArr j "steps").foldl (fun (acc : HostRig × List Json) step =>
    let (rig, outs) := acc
    let before := rig.st.1.machine.calls.length
    let (rig, res) := hostStep rig step
    let out := Json.obj [("calls", callsSince rig.st.1.machine before), ("result", res)]
    let aliases := rig.aliases.scan out
    ({ rig with aliases }, outs ++ [toRoot (aliases.display out)])) (rig, [])
  pure (.arr outs)

end EpicFlow.Console
