import EpicFlow.Worker.Tmux
import EpicFlow.Proofs.Conduct
import EpicFlow.Proofs.QuietMachine

/-!
# Starting an agent in a session

The tmux worker starts a stage's agent (`TmuxWorker.invoke`) in steps on the machine: it makes
the run directory in the workspace, removes a container left from an earlier run of the session
(with docker cards), kills a session of the same name, creates the session with the run in its
environment, and types the agent's command line into it. Only the last step starts the agent.
Each step may fail; the failure is a worker error, and the steps done before it stay done.

So an invocation either answers the host's next run id and records the run under its session,
its container and its usage report, or it fails. A failure records no run, and, since the
command line was not typed, it starts no agent and makes no container
(`invoke_records_run_or_starts_nothing`). The session it created is not taken back, though: a
failure after the session is made, such as a refused environment variable, leaves a session that
runs a shell and no agent, and nothing kills it (`refused_start_leaves_session`).

Main statements:

* `TmuxWorker.invoke_records_run_or_starts_nothing`: what one invocation does, on every machine.
* `TmuxWorker.refused_start_leaves_session`: a failed invocation that leaves its session.
-/

set_option autoImplicit false

namespace EpicFlow

/-- The id the next agent run of a host gets: the counter of runs moved on by one, spread over
the range. -/
def Host.nextAgentRunId (x : Host) : String :=
  "run-" ++ Eng.scatter (x.runSeq + 1) 2246822519

theorem Eng.freshAgentRunId_bind {α : Type} (k : String → Eng α) (t : Conductor) (x : Host) :
    (Eng.freshAgentRunId >>= k) t x = k x.nextAgentRunId t { x with runSeq := x.runSeq + 1 } :=
  rfl

theorem Eng.shell_apply {α : Type} (s : Shell α) (t : Conductor) (x : Host) :
    Eng.shell s t x = .done { x with machine := (s.run x.machine).2 } t (.ok (s.run x.machine).1) :=
  rfl

namespace Shell

variable {β : Type}

/-- Reading the machine and going on from it starts nothing when going on starts nothing from
the machine it read. -/
theorem CalmOnError.get_bind {f : Machine → ExceptT String Shell β}
    (hf : ∀ m e m', (f m).run.run m = (.error e, m') → Machine.Quiet m m') :
    CalmOnError (get >>= f) :=
  hf

/-- Replacing the machine by one with its sessions and containers, then going on, starts what
going on starts. -/
theorem CalmOnError.set_bind {k : PUnit → ExceptT String Shell β} {m m₁ m' : Machine} {e : String}
    (h : (set m₁ >>= k : ExceptT String Shell β).run.run m = (.error e, m'))
    (hk : CalmOnError (k ⟨⟩)) (hs : m₁.sessions = m.sessions) (hc : m₁.containers = m.containers) :
    Machine.Quiet m m' :=
  (Machine.Quiet.of_eq hs hc).trans (hk m₁ e m' h)

end Shell

namespace TmuxWorker

open Shell

/-- Work on the machine that starts nothing when it fails: the conductor stays as it was and the
machine is quiet; or it gives a value, and the rest goes on from the machine it left. -/
theorem onMachine_bind_done {α β : Type} {w : ExceptT String Shell α} {k : α → Eng β}
    {t : Conductor} {x : Host} {P : Host → Conductor → Except EngineError β → Prop}
    (hw : CalmOnError w)
    (hfail : ∀ e m, Machine.Quiet x.machine m → P { x with machine := m } t (.error (.worker e)))
    (hgo : ∀ a m, ∃ x' t' r, k a t { x with machine := m } = .done x' t' r ∧ P x' t' r) :
    ∃ x' t' r, (onMachine w >>= k) t x = .done x' t' r ∧ P x' t' r := by
  rcases hrun : w.run.run x.machine with ⟨r, m⟩
  cases r with
  | error e =>
    refine ⟨_, _, _, ?_, hfail e m (hw _ e m hrun)⟩
    simp only [onMachine, Job.bind_apply, Eng.shell_apply, hrun]
    rfl
  | ok a =>
    obtain ⟨x', t', r, heq, hp⟩ := hgo a m
    refine ⟨x', t', r, ?_, hp⟩
    simp only [onMachine, Job.bind_apply, Eng.shell_apply, hrun]
    exact heq

/-- Replacing a session by a fresh one and typing a command line into it starts nothing if it
fails: only typing the command line starts an agent, and it is the last step. -/
theorem restart_calmOnError (name cmd : String) (dir : Option String) (info : SessionMetadata)
    (now : String) :
    CalmOnError (do Tmux.killSession name; Tmux.createSession name dir info now; Tmux.sendCommand name cmd) :=
  CalmOnError.bind (Tmux.killSession_calm name) fun _ =>
    CalmOnError.bind (Tmux.createSession_calm name dir info now) fun _ => Tmux.sendCommand_calmOnError name cmd

/-- The run an invocation in the workspace `ws` records under the id `id`: its session, its
sandbox container if any, and its usage report under the workspace's run directory. -/
def startedRun (cfg : Config) (inv : Invocation) (ws id : String) : AgentRun :=
  { sessionName := Session.tmuxName inv.sessionName, container := containerFor cfg inv.sessionName,
    resultFile := Path.join ws (AgentRun.runDir ++ "/" ++ id ++ ".json") }

/-- What one invocation from the conductor `t` on the host `x` did when it ended with the
conductor `t'` on the host `x'` and answered `r`. -/
structure Invoked (cfg : Config) (inv : Invocation) (t : Conductor) (x x' : Host) (t' : Conductor)
    (r : Except EngineError String) : Prop where
  /-- an answered id is the host's next run id, and the run is recorded under it -/
  started : ∀ id, r = .ok id → id = x.nextAgentRunId ∧ x'.runSeq = x.runSeq + 1 ∧
    ∃ ws, inv.workspace = some ws ∧
      t' = { t with agentRuns := Assoc.put t.agentRuns id (startedRun cfg inv ws id) }
  /-- a failure records no run, starts no agent and makes no container -/
  failed : ∀ e, r = .error e → t' = t ∧ Machine.Quiet x.machine x'.machine
  /-- a failure is the missing workspace, or a worker error from the machine -/
  reported : ∀ e, r = .error e →
    (inv.workspace = none ∧ e = .spawnRejected "tmux worker needs a workspace path") ∨
      ∃ msg, e = .worker msg

variable {cfg : Config} {inv : Invocation} {t : Conductor} {x : Host}

theorem Invoked.of_failure {x' : Host} {e : EngineError} (hq : Machine.Quiet x.machine x'.machine)
    (hreport : (inv.workspace = none ∧ e = .spawnRejected "tmux worker needs a workspace path") ∨
      ∃ msg, e = .worker msg) :
    Invoked cfg inv t x x' t (.error e) where
  started _ h := by cases h
  failed _ h := by cases h; exact ⟨rfl, hq⟩
  reported _ h := by cases h; exact hreport

/-- An invocation of the tmux worker ends without a wait, in one of two ways. It answers the
host's next run id, with the counter moved on and the run recorded under its session, its
container and its usage report; or it fails, for want of a workspace or with a worker error, and
then the conductor is as it was and the machine runs no agent and no container that it did not
run before. -/
theorem invoke_records_run_or_starts_nothing (cfg : Config) (inv : Invocation) (t : Conductor)
    (x : Host) : ∃ x' t' r, invoke cfg inv t x = .done x' t' r ∧ Invoked cfg inv t x x' t' r := by
  unfold invoke
  cases hws : inv.workspace with
  | none => exact ⟨x, t, _, rfl, .of_failure (.refl _) (.inl ⟨hws, rfl⟩)⟩
  | some ws =>
    dsimp only
    rw [Eng.freshAgentRunId_bind, Eng.stamp_bind]
    refine onMachine_bind_done ?_ (fun e m hq => .of_failure hq (.inr ⟨e, rfl⟩)) fun _ m => ?_
    · -- the steps on the machine: only typing the command line, the last one, starts anything
      refine CalmOnError.get_bind fun m e m' h => ?_
      split at h
      · refine CalmOnError.set_bind h ?_ rfl rfl
        refine CalmOnError.bind (calm_liftExcept _) fun _ => ?_
        split
        · exact CalmOnError.bind (Container.remove_calm _ _) fun _ =>
            CalmOnError.bind (calm_exceptPure _) fun _ => restart_calmOnError _ _ _ _ _
        · exact CalmOnError.bind (calm_exceptPure _) fun _ => restart_calmOnError _ _ _ _ _
      · exact (calm_throw_bind _ _).calmOnError m e m' h
    · -- the agent was started: the run is recorded under the fresh id
      refine ⟨_, _, _, rfl, ⟨fun id h => ?_, (fun _ h => by cases h), (fun _ h => by cases h)⟩⟩
      cases h
      exact ⟨rfl, rfl, ws, hws, rfl⟩

/-- The invocation of the build stage of `epic-1` in the workspace `/ws1`, by a `claude` agent. -/
def sampleInvocation : Invocation :=
  { epicId := "epic-1", stage := ⟨"BUILD"⟩, objective := "obj", sessionName := "epic-1_BUILD_1",
    maxTurns := 10, resume := false, workspace := some "/ws1", agentType := "claude",
    cardPath := "/ws1/.handy/cards/card-1.md", prompt := "do it" }

/-- A host whose multiplexer refuses to set any session's environment. -/
def refusingHost : Host :=
  { machine := { rules := [{ tool := "tmux", needles := ["set-environment"], output := .failure 1 "boom\n" }] } }

/-- The sample invocation with plain workspaces on the refusing host, from a conductor that knows
no run. -/
def refusedStart : Host × Conductor × Except EngineError String :=
  (invoke { transport := .worktree, containerPrefix := "handy-", home := none } sampleInvocation {}
    refusingHost).solo

/-- An invocation whose session's environment cannot be set fails with the multiplexer's error
and records no run, but the session it made stays on the machine, with a shell and no agent. -/
theorem refused_start_leaves_session :
    refusedStart.2.2.toOption = none ∧
      (match refusedStart.2.2 with
        | .error e => e.message
        | .ok id => id) = "Worker error: Failed to set HANDY_AGENT_TYPE: boom\n" ∧
      refusedStart.2.1.agentRuns.isEmpty = true ∧
      refusedStart.1.machine.sessions.map (fun s => (s.name, s.agent.isSome)) =
        [("handy-agent-epic-1_BUILD_1", false)] := by
  decide +kernel

end TmuxWorker

end EpicFlow
