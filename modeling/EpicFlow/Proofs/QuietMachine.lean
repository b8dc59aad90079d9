import EpicFlow.Tool.Tmux
import EpicFlow.Tool.Container

/-!
# Programs that start nothing

On the model machine an agent starts in one way only: a command line typed into a session of the
multiplexer that runs no agent (`Machine.startAgent`), which also makes the container of a
sandboxed command line. This module says that every other program run starts no agent and makes
no container.

`Machine.Quiet m m'` says that `m'` runs nothing that `m` did not: each session of `m'` with an
agent has a session of its name with an agent in `m`, and each container of `m'` is one of `m`.
It is a preorder. Every run of a program keeps the machine quiet, except the multiplexer typing
keys, and that run answers success (`Machine.quiet_run`). A program on the machine that never
types keys is then calm (`Shell.Calm`): it keeps the machine quiet whatever it answers. The
multiplexer helpers that list, query, create and kill sessions or set their environment are calm,
and so is removing a container; typing a command line is calm when it fails
(`Tmux.sendCommand_calmOnError`).

Main statements:

* `Machine.quiet_run`: one program run starts nothing, unless it types keys and succeeds.
* `Tmux.listSessions_calm`, `Tmux.createSession_calm`, `Tmux.killSession_calm`,
  `Container.remove_calm`: the helpers that type no keys are calm.
* `Tmux.sendCommand_calmOnError`: a command line that fails to be typed starts nothing.
-/

set_option autoImplicit false

namespace EpicFlow

namespace Machine

/-- `m'` runs nothing that `m` did not: each session of `m'` that runs an agent has a session of
its name that runs one in `m`, and each container of `m'` is a container of `m`. -/
structure Quiet (m m' : Machine) : Prop where
  agents : ∀ s' ∈ m'.sessions, s'.agent.isSome = true →
    ∃ s ∈ m.sessions, s.name = s'.name ∧ s.agent.isSome = true
  containers : ∀ c ∈ m'.containers, c ∈ m.containers

theorem Quiet.refl (m : Machine) : Quiet m m :=
  ⟨fun s hs ha => ⟨s, hs, rfl, ha⟩, fun _ h => h⟩

theorem Quiet.trans {m₁ m₂ m₃ : Machine} (h₁ : Quiet m₁ m₂) (h₂ : Quiet m₂ m₃) : Quiet m₁ m₃ where
  agents s hs ha := by
    obtain ⟨s₂, hs₂, hn₂, ha₂⟩ := h₂.agents s hs ha
    obtain ⟨s₁, hs₁, hn₁, ha₁⟩ := h₁.agents s₂ hs₂ ha₂
    exact ⟨s₁, hs₁, hn₁.trans hn₂, ha₁⟩
  containers c hc := h₁.containers c (h₂.containers c hc)

/-- A machine with the same sessions and containers is quiet. -/
theorem Quiet.of_eq {m m' : Machine} (hs : m'.sessions = m.sessions)
    (hc : m'.containers = m.containers) : Quiet m m' :=
  ⟨fun s h ha => ⟨s, hs ▸ h, rfl, ha⟩, fun _ h => hc ▸ h⟩

/-- Changing the sessions of a name keeps the machine quiet when the change keeps their name and
gives one an agent only where a session of that name ran one. -/
theorem quiet_modifySession (m : Machine) (name : String) {f : TermSession → TermSession}
    (hf : ∀ s, s.name = name → (f s).name = name ∧
      ((f s).agent.isSome = true → ∃ s₀ ∈ m.sessions, s₀.name = name ∧ s₀.agent.isSome = true)) :
    Quiet m (m.modifySession name f) := by
  refine ⟨fun s' hs' ha => ?_, fun _ hc => hc⟩
  obtain ⟨s, hs, rfl⟩ := List.mem_map.1 hs'
  by_cases h : (s.name == name) = true
  · have hname : s.name = name := beq_iff_eq.1 h
    rw [if_pos h] at ha ⊢
    rw [(hf s hname).1]
    exact (hf s hname).2 ha
  · rw [if_neg h] at ha ⊢
    exact ⟨s, hs, rfl, ha⟩

/-- A change that keeps a session's name and its agent, or takes it away, keeps the machine
quiet. -/
theorem quiet_modifySession_of_keeps (m : Machine) (name : String) {f : TermSession → TermSession}
    (hf : ∀ s, (f s).name = s.name ∧ ((f s).agent.isSome = true → s.agent.isSome = true)) :
    Quiet m (m.modifySession name f) := by
  refine ⟨fun s' hs' ha => ?_, fun c hc => hc⟩
  obtain ⟨s, hs, rfl⟩ := List.mem_map.1 hs'
  split at ha
  · rw [if_pos ‹_›]
    exact ⟨s, hs, ((hf s).1).symm, (hf s).2 ha⟩
  · rw [if_neg ‹_›]
    exact ⟨s, hs, rfl, ha⟩

/-- An agent exiting leaves its session without one. -/
theorem quiet_agentExits (m : Machine) (name : String) (a : Agent) : Quiet m (m.agentExits name a) :=
  have h := quiet_modifySession_of_keeps m name (f := fun s => { s with agent := none })
    fun _ => ⟨rfl, fun h => by simp at h⟩
  ⟨h.agents, h.containers⟩

/-- A pane query starts nothing: it counts down the agent's queries or sees it exit. -/
theorem quiet_panes (m : Machine) (name : String) : Quiet m (m.panes name).2 := by
  unfold panes
  split
  · exact .refl m
  · rename_i s hs
    split
    · exact .refl m
    · rename_i a ha
      split
      · -- the session of the name found first runs the agent
        have hmem : s ∈ m.sessions ∧ s.name = name := by
          have h := List.find?_some hs
          exact ⟨List.mem_of_find?_eq_some hs, beq_iff_eq.1 h⟩
        exact quiet_modifySession m name fun _ _ =>
          ⟨‹_›, fun _ => ⟨s, hmem.1, hmem.2, by simp [ha]⟩⟩
      · exact quiet_agentExits m name a

/-- Keys that fail to be typed change nothing: the session is missing. -/
theorem quiet_sendKeys_of_failure (m : Machine) (name : String) (keys : List String)
    (h : (m.sendKeys name keys).1.success = false) : Quiet m (m.sendKeys name keys).2 := by
  cases hs : m.session? name with
  | none => rw [sendKeys_missing m name keys hs]; exact .refl m
  | some s =>
    -- a session that is there takes the keys and answers success
    exfalso
    revert h
    simp only [sendKeys, hs]
    split <;> (try split) <;> (try split) <;> simp [Output.success]

/-- A new session without an agent keeps the machine quiet. -/
theorem quiet_addSession (m : Machine) {s : TermSession} (h : s.agent = none) :
    Quiet m { m with sessions := m.sessions ++ [s] } := by
  refine ⟨fun s' hs' ha => ?_, fun _ hc => hc⟩
  rcases List.mem_append.1 hs' with hs' | hs'
  · exact ⟨s', hs', rfl, ha⟩
  · rw [List.mem_singleton.1 hs', h] at ha
    cases ha

/-- The multiplexer starts nothing, unless it types keys and answers success. -/
theorem quiet_tmux (m : Machine) (args : List String) :
    Quiet m (m.tmux args).2 ∨
      ((TmuxCommand.read args).sub = "send-keys" ∧ (m.tmux args).1.success = true) := by
  unfold tmux
  dsimp only
  split
  · split <;> exact .inl (.refl m)
  · split <;> exact .inl (.refl m)
  · exact .inl (quiet_panes m _)
  · split <;> exact .inl (.refl m)
  · split <;> exact .inl (.refl m)
  · split
    · exact .inl (.refl m)
    · exact .inl (quiet_addSession m rfl)
  · split
    · split
      · exact .inl (quiet_modifySession_of_keeps m _ fun _ => ⟨rfl, id⟩)
      · exact .inl (.refl m)
    · exact .inl (.refl m)
  · split
    · exact .inl ⟨fun s hs ha => ⟨s, (List.mem_filter.1 hs).1, rfl, ha⟩, fun _ hc => hc⟩
    · exact .inl (.refl m)
  · -- typing keys: a failure changes nothing
    rename_i hsub
    by_cases hs : (m.sendKeys ((TmuxCommand.read args).target.getD "") (TmuxCommand.read args).rest).1.success = true
    · exact .inr ⟨hsub, hs⟩
    · exact .inl (quiet_sendKeys_of_failure m _ _ (by simpa using hs))
  · exact .inl (.refl m)

/-- The container engine makes no container: it only removes them. -/
theorem quiet_docker (m : Machine) (args : List String) : Quiet m (m.docker args).2 := by
  unfold docker
  split
  · split <;> exact .refl m
  · dsimp only
    split
    · exact .refl m
    · exact ⟨fun s hs ha => ⟨s, hs, rfl, ha⟩, fun _ hc => (List.mem_filter.1 hc).1⟩
  · split
    · split
      · exact .refl m
      · split
        · exact .refl m
        · split <;> exact .of_eq rfl rfl
    · exact .refl m
  · exact .refl m

/-- Version control touches files and branches only. -/
theorem quiet_git (m : Machine) (args : List String) : Quiet m (m.git args).2 := by
  have hin : ∀ dir args', Quiet m (m.gitIn dir args').2 := by
    intro dir args'
    unfold gitIn
    dsimp only
    -- every answer leaves the machine or changes its files and branches
    repeat' split
    all_goals exact .of_eq rfl rfl
  unfold git
  split
  · split
    · exact hin _ _
    · exact .refl m
  · exact hin _ _

/-- The run of a program is the multiplexer typing keys. -/
def IsSendKeys (tool : String) (args : List String) : Prop :=
  tool = "tmux" ∧ (TmuxCommand.read args).sub = "send-keys"

/-- A program's own behaviour starts nothing, unless it is the multiplexer typing keys and
answering success. -/
theorem quiet_behave (m : Machine) (tool : String) (args : List String) :
    Quiet m (m.behave tool args).2 ∨ (IsSendKeys tool args ∧ (m.behave tool args).1.success = true) := by
  unfold behave
  split
  · exact .inl (.refl m)
  · split
    · rcases quiet_tmux m args with h | ⟨hsub, hs⟩
      · exact .inl h
      · exact .inr ⟨⟨rfl, hsub⟩, hs⟩
    · exact .inl (quiet_docker m args)
    · exact .inl (quiet_git m args)
    · exact .inl (.refl m)
    · exact .inl (.refl m)

/-- A canned answer changes only the rules. -/
theorem takeRule_quiet {m m' : Machine} {tool : String} {args : List String} {o : Output}
    (h : m.takeRule tool args = some (o, m')) : Quiet m m' := by
  unfold takeRule at h
  split at h
  · split at h
    · cases h
      exact .of_eq rfl rfl
    · cases h
  · cases h

/-- One program run starts no agent and makes no container, unless it is the multiplexer typing
keys and answering success. -/
theorem quiet_run (m : Machine) (tool : String) (args : List String) :
    Quiet m (m.run tool args).2 ∨
      (IsSendKeys tool args ∧ ∃ o, (m.run tool args).1 = .ok o ∧ o.success = true) := by
  unfold run
  split
  · exact .inl (.refl m)
  · -- the run is logged and the clock moves, which starts nothing
    have hlog : Quiet m { m with clock := m.clock + 1, calls := m.calls ++ [tool :: args] } :=
      .of_eq rfl rfl
    dsimp only
    split
    · rename_i o m' hrule
      exact .inl (hlog.trans (takeRule_quiet hrule))
    · rcases quiet_behave { m with clock := m.clock + 1, calls := m.calls ++ [tool :: args] } tool args with
        h | ⟨hsk, hs⟩
      · exact .inl (hlog.trans h)
      · exact .inr ⟨hsk, _, rfl, hs⟩

end Machine

namespace Shell

/-- A program on the machine that starts no agent and makes no container, whatever it answers. -/
def Calm {α : Type} (p : Shell α) : Prop := ∀ m, Machine.Quiet m (p.run m).2

theorem calm_pure {α : Type} (a : α) : Calm (pure a : Shell α) := fun m => .refl m

theorem Calm.bind {α β : Type} {p : Shell α} {f : α → Shell β} (hp : Calm p) (hf : ∀ a, Calm (f a)) :
    Calm (p >>= f) :=
  fun m => (hp m).trans (hf _ _)

/-- A program run that does not type keys is calm. -/
theorem exec_calm {tool : String} {args : List String} (h : ¬ Machine.IsSendKeys tool args) :
    Calm (Shell.exec tool args) :=
  fun m => (Machine.quiet_run m tool args).resolve_right fun h' => h h'.1

/-! Programs that may fail, with a text: calm when their runs are. -/

variable {α β : Type}

theorem Calm.exceptBind {x : ExceptT String Shell α} {f : α → ExceptT String Shell β}
    (hx : Calm x.run) (hf : ∀ a, Calm (f a).run) : Calm (x >>= f).run := by
  rw [ExceptT.run_bind]
  refine hx.bind fun r => ?_
  cases r with
  | ok a => exact hf a
  | error e => exact calm_pure _

theorem Calm.lift {p : Shell α} (h : Calm p) : Calm (ExceptT.lift p : ExceptT String Shell α).run :=
  h.bind fun _ => calm_pure _

theorem calm_throw (e : String) : Calm (throw e : ExceptT String Shell α).run := calm_pure _

/-- What follows a failure does not run. -/
theorem calm_throw_bind (e : String) (f : α → ExceptT String Shell β) :
    Calm (throw e >>= f).run :=
  fun m => .refl m

theorem calm_exceptPure (a : α) : Calm (pure a : ExceptT String Shell α).run := calm_pure _

/-- A program that answers without running anything, a failure or a value, is calm. -/
theorem calm_of_run_eq_pure {p : ExceptT String Shell α} {r : Except String α} (h : p.run = pure r) :
    Calm p.run := by
  rw [h]
  exact calm_pure r

theorem calm_mapM {f : α → ExceptT String Shell β} (hf : ∀ a, Calm (f a).run) :
    ∀ xs : List α, Calm (xs.mapM f).run
  | [] => calm_exceptPure _
  | a :: as => by
    rw [List.mapM_cons]
    exact (hf a).exceptBind fun _ => (calm_mapM hf as).exceptBind fun _ => calm_exceptPure _

theorem calm_forIn {γ : Type} {f : γ → β → ExceptT String Shell (ForInStep β)}
    (hf : ∀ x b, Calm (f x b).run) : ∀ (xs : List γ) (b : β), Calm (forIn xs b f).run
  | [], b => calm_exceptPure b
  | x :: xs, b => by
    rw [List.forIn_cons]
    refine (hf x b).exceptBind fun r => ?_
    cases r with
    | done b' => exact calm_exceptPure b'
    | yield b' => exact calm_forIn hf xs b'

/-- Lifting a result starts nothing. -/
theorem calm_liftExcept (x : Except String α) : Calm (liftM x : ExceptT String Shell α).run :=
  fun m => .refl m

/-! Programs that start nothing when they fail: a calm program, followed by one that is. -/

/-- A program that may fail, and starts no agent and makes no container when it does. -/
def CalmOnError (p : ExceptT String Shell α) : Prop :=
  ∀ m e m', p.run.run m = (.error e, m') → Machine.Quiet m m'

theorem Calm.calmOnError {p : ExceptT String Shell α} (h : Calm p.run) : CalmOnError p := by
  intro m e m' hr
  have hq := h m
  rw [hr] at hq
  exact hq

theorem CalmOnError.bind {x : ExceptT String Shell α} {f : α → ExceptT String Shell β}
    (hx : Calm x.run) (hf : ∀ a, CalmOnError (f a)) : CalmOnError (x >>= f) := by
  intro m e m' h
  rcases hrun : x.run.run m with ⟨r, m₁⟩
  have hq : Machine.Quiet m m₁ := by
    have := hx m
    rwa [hrun] at this
  rw [ExceptT.run_bind, StateT.run_bind, hrun] at h
  cases r with
  | ok a => exact hq.trans (hf a m₁ e m' h)
  | error e' =>
    -- the failure is passed on, on the machine it left
    cases (Prod.mk.inj h).2
    exact hq

end Shell

theorem TmuxCommand.readOptions_sub (l : List String) (c : TmuxCommand) :
    (TmuxCommand.readOptions l c).sub = c.sub := by
  fun_induction TmuxCommand.readOptions l c <;> simp_all

namespace Tmux

open Shell

/-- A run of the multiplexer whose command is not to type keys is calm. -/
theorem call_calm {sub : String} (rest : List String) (h : sub ≠ "send-keys") :
    Calm (call (sub :: rest)) :=
  exec_calm fun hk => h (by simpa [TmuxCommand.read, TmuxCommand.readOptions_sub] using hk.2)

/-- Such a run, followed by a calm reading of its answer, is calm. -/
theorem call_bind_calm {β : Type} {sub : String} {rest : List String} (h : sub ≠ "send-keys")
    {f : Except OsError Output → ExceptT String Shell β} (hf : ∀ r, Calm (f r).run) :
    Calm (ExceptT.lift (call (sub :: rest)) >>= f).run :=
  (Calm.lift (call_calm rest h)).exceptBind hf

theorem metadata_calm (name now : String) : Calm (metadata name now).run := by
  unfold metadata
  refine call_bind_calm (by decide) fun r => ?_
  cases r with
  | error e => exact calm_throw _
  | ok o =>
    dsimp only
    split <;> exact calm_of_run_eq_pure rfl

theorem isActive_calm (name : String) : Calm (isActive name) :=
  (call_calm _ (by decide)).bind fun r => by
    cases r <;> exact calm_pure _

theorem listSessions_calm (now : String) : Calm (listSessions now).run := by
  unfold listSessions
  refine call_bind_calm (by decide) fun r => ?_
  cases r with
  | error e => exact calm_throw _
  | ok o =>
    dsimp only
    split
    · split <;> exact calm_of_run_eq_pure rfl
    · -- each listed session is queried for its environment and its pane
      apply calm_mapM
      intro s
      exact (Calm.lift (metadata_calm s.name now)).exceptBind fun _ =>
        (Calm.lift (isActive_calm s.name)).exceptBind fun _ => calm_exceptPure _

theorem setEnv_calm (name key value : String) : Calm (setEnv name key value).run := by
  unfold setEnv
  refine call_bind_calm (by decide) fun r => ?_
  cases r with
  | error e => exact calm_throw _
  | ok o =>
    dsimp only
    split <;> exact calm_of_run_eq_pure rfl

theorem killSession_calm (name : String) : Calm (killSession name).run := by
  unfold killSession
  refine call_bind_calm (by decide) fun r => ?_
  cases r with
  | error e => exact calm_throw _
  | ok o =>
    dsimp only
    split <;> exact calm_of_run_eq_pure rfl

/-- Creating a session starts no agent: it lists the sessions, makes the new one without an
agent and sets its environment. -/
theorem createSession_calm (name : String) (dir : Option String) (info : SessionMetadata)
    (now : String) : Calm (createSession name dir info now).run := by
  unfold createSession
  dsimp only
  -- each refusal throws before the rest runs; the rest is checked once, on the way through
  split
  · exact calm_throw_bind _ _
  refine (listSessions_calm now).exceptBind fun _ => ?_
  split
  · exact calm_throw_bind _ _
  refine call_bind_calm (by decide) fun r => ?_
  split
  · exact calm_throw_bind _ _
  split
  · exact calm_throw_bind _ _
  refine (setEnv_calm _ _ _).exceptBind fun _ => (setEnv_calm _ _ _).exceptBind fun _ =>
    (setEnv_calm _ _ _).exceptBind fun _ => ?_
  refine Calm.exceptBind (calm_forIn (fun x b => ?_) _ _) fun _ => calm_exceptPure _
  split
  · exact (setEnv_calm _ _ _).exceptBind fun _ => calm_exceptPure _
  · exact calm_exceptPure _

/-- Typing a command line that fails starts nothing: the multiplexer could not be started, or it
answered a failure, and a run that types keys and fails changes nothing. -/
theorem sendCommand_calmOnError (name cmd : String) : CalmOnError (sendCommand name cmd) := by
  intro m e m' h
  rcases hrun : m.run "tmux" (["-L", "handy"] ++
    (["send-keys", "-t", name] ++ ((if cmd.isEmpty = true then [] else [cmd]) ++ ["Enter"]))) with ⟨r, m1⟩
  simp only [sendCommand, call, Shell.exec, ExceptT.run_bind, StateT.run_bind, liftM, monadLift,
    MonadLift.monadLift, ExceptT.run_lift, StateT.run_map, StateT.run_modifyGet, hrun, map_pure,
    pure_bind] at h
  -- the run answered a failure, and the machine is the one it left
  obtain ⟨hm, hfail⟩ : m' = m1 ∧ ∀ o, r = .ok o → o.success = false := by
    cases r with
    | error err => exact ⟨(Prod.mk.inj h).2.symm, fun _ ho => by cases ho⟩
    | ok o =>
      cases hs : o.success
      · simp only [hs] at h
        exact ⟨(Prod.mk.inj h).2.symm, fun _ ho => by cases ho; exact hs⟩
      · simp only [hs] at h
        cases (Prod.mk.inj h).1
  rcases Machine.quiet_run m "tmux" _ with hq | ⟨-, o, ho, hs⟩
  · rw [hrun] at hq
    rw [hm]
    exact hq
  · rw [hrun] at ho
    rw [hfail o ho] at hs
    cases hs

end Tmux

namespace Container

theorem remove_calm (home : Option String) (container : String) : Shell.Calm (remove home container).run := by
  unfold remove
  refine (Shell.Calm.lift (Shell.exec_calm fun h => absurd h.1 (by decide))).exceptBind fun r => ?_
  cases r with
  | error e => exact Shell.calm_throw _
  | ok o =>
    dsimp only
    split <;> exact Shell.calm_of_run_eq_pure rfl

end Container

end EpicFlow
