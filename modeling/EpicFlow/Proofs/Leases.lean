import EpicFlow.Proofs.Quota

/-!
# Workspace leases

A conductor lends each epic's workspace to one session at a time: the lease is an entry of its
session book (`SessionBook.holder`). Starting a run for a session (`SessionBook.startRun`)
checks three things before it asks the worker anything (`StartOpen`): the stage is registered,
the store has no running run of the epic, and the session may take the workspace, which is free
or already its own (`MayTake`). A start that fails a check is refused at once, and nothing has
changed (`startRun_refused`). A start that passes takes the lease for the session and then asks
the worker for a run (`startRun_invokes`). If the worker fails, the lease is given up. If the
store then refuses the run, the worker is asked to stop it by force and to release it, and the
lease is given up too. So every failed start changed nothing or leaves the epic with no lease
(`startRun_failed_unleased`), whatever the worker does. A teardown (`SessionBook.teardown`)
always ends with the lease out of the session's hands (`teardown_unleases`).

The lease is keyed by the session, not by the run. A session whose run the store shows finished
but which was never torn down still holds the workspace, and may start again: the worker is
then asked for a second run while the first one was never stopped or released
(`held_session_starts_again`).

Main statements:

* `SessionBook.workspace_lease_rules`: the rules above, for every worker; and for the scripted
  worker, a run the store refuses is stopped by force and released.
* `SessionBook.held_session_starts_again`: a session that still holds the workspace starts a
  second run.
-/

set_option autoImplicit false

namespace EpicFlow

namespace ScriptedWorld

/-! ### Stopping and releasing a scripted run -/

theorem run?_isSome (w : ScriptedWorld) (id : String) :
    (w.run? id).isSome = w.runs.any (·.1 == id) := by
  rw [run?, Option.isSome_map, Bool.eq_iff_iff, List.find?_isSome, List.any_eq_true]

theorem run?_setRun_isSome (w : ScriptedWorld) (id id' : String) (r : ScriptedRun) :
    ((w.setRun id r).run? id').isSome = (w.run? id').isSome := by
  simp only [run?_isSome, setRun, List.any_map]
  congr 1
  funext ⟨k, v⟩
  simp only [Function.comp]
  split <;> rfl

theorem terminate_terminations (w : ScriptedWorld) (id : String) (force : Bool) :
    (w.terminate id force).terminations = w.terminations ++ [(id, force)] := by
  unfold terminate
  dsimp only
  split
  · split <;> rfl
  · rfl

theorem run?_terminate_isSome (w : ScriptedWorld) (id id' : String) (force : Bool) :
    ((w.terminate id force).run? id').isSome = (w.run? id').isSome := by
  unfold terminate
  dsimp only
  split
  · split
    · rw [run?_setRun_isSome]
      rfl
    · rfl
  · rfl

theorem release_terminations (w : ScriptedWorld) (id : String) :
    (w.release id).terminations = w.terminations := by
  unfold release
  split <;> rfl

/-- A run the world has heard of is no longer unreleased once it is released. -/
theorem not_mem_unreleased_release {w : ScriptedWorld} {id : String} (h : (w.run? id).isSome) :
    id ∉ (w.release id).unreleased := by
  obtain ⟨r, hr⟩ := Option.isSome_iff_exists.1 h
  simp only [release, hr, unreleased, setRun, List.mem_mergeSort, List.mem_map, List.mem_filter]
  rintro ⟨⟨k, v⟩, ⟨⟨⟨k', v'⟩, -, hkv⟩, hfree⟩, rfl⟩
  -- every entry under the id was rewritten as released, and every other keeps its own id
  split at hkv
  · simp only [Prod.mk.injEq] at hkv
    rw [← hkv.2] at hfree
    cases hfree
  · simp_all

theorem run?_invoke (w : ScriptedWorld) (sc : Script) (reg : Registry) (inv : Invocation) :
    ((w.invoke sc reg inv).1.run? (w.invoke sc reg inv).2).isSome := by
  simp [run?_isSome, invoke]

end ScriptedWorld

namespace SessionBook

/-- The session may take the epic's workspace: nobody holds it, or the session itself does. -/
def MayTake (b : SessionBook) (h : SessionHandle) : Prop :=
  b.holder h.epicId = none ∨ b.holder h.epicId = some h.sessionId

instance (b : SessionBook) (h : SessionHandle) : Decidable (b.MayTake h) :=
  inferInstanceAs (Decidable (_ ∨ _))

@[simp] theorem holder_setKey (b : SessionBook) (e e' s : String) :
    ({ b with leases := setKey b.leases e s } : SessionBook).holder e' =
      if e' = e then some s else b.holder e' :=
  getKey_setKey b.leases e e' s

@[simp] theorem holder_unlease (b : SessionBook) (e : String) : (b.unlease e).holder e = none := by
  simp [unlease, holder, getKey, dropKey, List.find?_filter]

theorem holder_unleaseIfHeld (b : SessionBook) (h : SessionHandle) :
    (b.unleaseIfHeld h).holder h.epicId ≠ some h.sessionId := by
  unfold unleaseIfHeld
  split
  · simp
  · rename_i hne
    simpa using hne

theorem takeResume_leases (b : SessionBook) (id : String) : (b.takeResume id).1.leases = b.leases := by
  unfold takeResume
  split <;> rfl

/-- A session takes the epic's workspace exactly when it may, and then holds its lease. -/
theorem acquire_eq_ok {b b' : SessionBook} {h : SessionHandle} :
    b.acquire h = .ok b' ↔
      b.MayTake h ∧ b' = { b with leases := setKey b.leases h.epicId h.sessionId } := by
  unfold acquire MayTake
  cases hh : b.holder h.epicId with
  | none => simp [eq_comm]
  | some other =>
    by_cases ho : other = h.sessionId
    · subst ho
      simp [eq_comm]
    · simp [ho]

theorem acquire_error_of_not_mayTake {b : SessionBook} {h : SessionHandle} (hno : ¬ b.MayTake h) :
    ∃ e, b.acquire h = .error e := by
  cases hacq : b.acquire h with
  | ok b' => exact absurd (acquire_eq_ok.1 hacq).1 hno
  | error e => exact ⟨e, rfl⟩

/-- What a start checks before it asks the worker anything: the stage is registered, the store
has no running run of the epic, and the session may take the epic's workspace. -/
def StartOpen (reg : Registry) (h : SessionHandle) (x : Host) (b : SessionBook) : Prop :=
  (reg.get? h.stage).isSome ∧ x.store.runningRun? h.epicId = none ∧ b.MayTake h

section Start

variable (w : Worker Eng) (reg : Registry) (h : SessionHandle) (cardId cardPath objective : String)
  (t : Conductor) (x : Host)

/-- A start that fails a check is refused at once, with the host and the conductor as they were:
the worker is not asked. -/
theorem startRun_refused (hno : ¬ StartOpen reg h x t.sessions) :
    ∃ e, startRun w reg h cardId cardPath objective t x = .done x t (.error e) := by
  unfold startRun
  cases hd : reg.get? h.stage with
  | none => exact ⟨_, rfl⟩
  | some d =>
    dsimp -zeta only
    rw [Eng.store_bind]
    cases hr : x.store.runningRun? h.epicId with
    | some r => exact ⟨_, rfl⟩
    | none =>
      have hno' : ¬ t.sessions.MayTake h := fun hm => hno ⟨by simp [hd], hr, hm⟩
      obtain ⟨e, he⟩ := acquire_error_of_not_mayTake hno'
      dsimp -zeta only
      rw [get_bind, he, Eng.ofExcept_error_bind]
      exact ⟨e, rfl⟩

/-- A start that passes its checks asks the worker for a run first, with the epic's lease taken
for the session. What follows gives the lease up at every failure. When the store refuses the
run the worker answered, the worker is asked to stop that run by force and to release it, and
then the lease is given up. -/
theorem startRun_invokes (hopen : StartOpen reg h x t.sessions) :
    ∃ inv k b, startRun w reg h cardId cardPath objective t x =
        (Job.attempt (w.invoke inv) >>= k) { t with sessions := b } x ∧
      inv.epicId = h.epicId ∧ inv.sessionName = h.sessionId ∧ b.holder h.epicId = some h.sessionId ∧
      (∀ (env : Host → Host → Prop) r t' x', (k r t' x').Ends env
        (fun _ t'' r' => ∀ e, r' = .error e → t''.sessions.holder h.epicId = none)) ∧
      ∀ id t' x' e, x'.store.insertRun
          ((Run.pending h.epicId h.stage h.sessionId h.iteration cardId).start id x'.stamp) = .error e →
        k (.ok id) t' x' = (do
          let _ ← Job.attempt (w.terminate id true)
          let _ ← Job.attempt (w.release id)
          modify (·.unlease h.epicId)
          Eng.fail e : Eng Run) t' x' := by
  obtain ⟨hreg, hrun, hmay⟩ := hopen
  obtain ⟨d, hd⟩ := Option.isSome_iff_exists.1 hreg
  unfold startRun
  rw [hd]
  dsimp -zeta only
  rw [Eng.store_bind, hrun]
  dsimp -zeta only
  rw [get_bind, acquire_eq_ok.2 ⟨hmay, rfl⟩, Eng.ofExcept_ok_bind]
  cases htake : ({ t.sessions with leases := setKey t.sessions.leases h.epicId h.sessionId } :
      SessionBook).takeResume h.sessionId with
  | mk b resumed =>
    dsimp only
    rw [modify_bind]
    refine ⟨_, _, b, rfl, rfl, rfl, ?held, ?after, ?stop⟩
    case held =>
      -- the lease taken by the acquire survives handing back the resume request
      have hl : b.leases = setKey t.sessions.leases h.epicId h.sessionId := by
        simpa [htake] using takeResume_leases
          ({ t.sessions with leases := setKey t.sessions.leases h.epicId h.sessionId } : SessionBook)
          h.sessionId
      simpa [holder, hl] using holder_setKey t.sessions h.epicId h.epicId h.sessionId
    case stop =>
      intro id t' x' e hins
      dsimp only
      rw [Job.pure_bind, Eng.stamp_bind, Eng.store_bind, hins]
    intro env r t' x'
    cases r with
    | ok id =>
      dsimp only
      rw [Job.pure_bind, Eng.stamp_bind, Eng.store_bind]
      cases x'.store.insertRun ((Run.pending h.epicId h.stage h.sessionId h.iteration cardId).start id
          x'.stamp) with
      | ok s => exact fun _ he => nomatch he
      | error e =>
        -- the run the store refused is stopped and released, whatever the worker answers
        refine (Job.ends_attempt_bind _ _ _ _ _).2 (Flow.Ends.of_forall _ fun _ _ _ => ?_)
        refine (Job.ends_attempt_bind _ _ _ _ _).2 (Flow.Ends.of_forall _ fun _ _ _ => ?_)
        rw [modify_bind]
        exact fun _ _ => holder_unlease _ _
    | error e =>
      dsimp only
      rw [modify_bind]
      exact fun _ _ => holder_unlease _ _

/-- With the scripted worker, a start that the store refuses has asked for the run it started to
be stopped by force, has released it, and has given the lease up. -/
theorem scripted_refused_run_released (sc : Script) (reg' : Registry)
    (hopen : StartOpen reg h x t.sessions) (e : EngineError)
    (hins : x.store.insertRun ((Run.pending h.epicId h.stage h.sessionId h.iteration cardId).start
      ("sim-run-" ++ Text.natText (t.world.nextRun + 1)) x.stamp) = .error e) :
    ∃ t', startRun (Worker.scripted sc reg') reg h cardId cardPath objective t x = .done x t' (.error e) ∧
      ("sim-run-" ++ Text.natText (t.world.nextRun + 1), true) ∈ t'.world.terminations ∧
      "sim-run-" ++ Text.natText (t.world.nextRun + 1) ∉ t'.world.unreleased ∧
      t'.sessions.holder h.epicId = none := by
  obtain ⟨inv, k, b, heq, -, -, -, -, hstop⟩ :=
    startRun_invokes (Worker.scripted sc reg') reg h cardId cardPath objective t x hopen
  -- the scripted worker answers at once, with the next run id of its world
  have hinv : Job.attempt ((Worker.scripted sc reg').invoke inv) { t with sessions := b } x =
      .done x { t with sessions := b, world := (t.world.invoke sc reg' inv).1 }
        (.ok (.ok (t.world.invoke sc reg' inv).2)) := rfl
  have hid : (t.world.invoke sc reg' inv).2 = "sim-run-" ++ Text.natText (t.world.nextRun + 1) := rfl
  rw [heq, Job.bind_apply_of_done hinv, hstop _ _ _ e (hid ▸ hins)]
  refine ⟨_, rfl, ?_, ?_, holder_unlease _ _⟩
  all_goals dsimp only
  all_goals rw [← hid]
  · rw [ScriptedWorld.release_terminations, ScriptedWorld.terminate_terminations]
    exact List.mem_append_right _ (List.mem_singleton_self _)
  · refine ScriptedWorld.not_mem_unreleased_release ?_
    rw [ScriptedWorld.run?_terminate_isSome]
    exact ScriptedWorld.run?_invoke _ _ _ _

/-- Every failed start changed nothing, or leaves the epic with no lease. -/
theorem startRun_failed_unleased (env : Host → Host → Prop) :
    (startRun w reg h cardId cardPath objective t x).Ends env (fun x' t' r =>
      ∀ e, r = .error e → (x' = x ∧ t' = t) ∨ t'.sessions.holder h.epicId = none) := by
  by_cases hopen : StartOpen reg h x t.sessions
  · obtain ⟨inv, k, b, heq, -, -, -, hk, -⟩ := startRun_invokes w reg h cardId cardPath objective t x hopen
    rw [heq]
    refine (Job.ends_attempt_bind _ _ _ _ _).2 (Flow.Ends.of_forall _ fun x' t' r => ?_)
    exact (hk env r t' x').mono fun _ _ _ hr e he => .inr (hr e he)
  · obtain ⟨e, he⟩ := startRun_refused w reg h cardId cardPath objective t x hopen
    rw [he]
    exact fun _ _ => .inl ⟨rfl, rfl⟩

end Start

section Teardown

variable (w : Worker Eng) (env : Host → Host → Prop)

/-! A teardown never fails: its worker calls are all caught, and its sleeps always wake. -/

theorem sleep_ok (ns : Nat) (t : Conductor) (x : Host) :
    (Eng.sleep ns t x).Ends env (fun _ _ r => ∃ a, r = .ok a) :=
  fun _ _ => ⟨(), rfl⟩

theorem observe_ok (run : Run) (t : Conductor) (x : Host) :
    (observe w run t x).Ends env (fun _ _ r => ∃ a, r = .ok a) := by
  unfold observe
  refine (Job.ends_attempt_bind _ _ _ _ _).2 (Flow.Ends.of_forall _ fun _ _ r => ?_)
  cases r <;> exact ⟨_, rfl⟩

theorem awaitStop_ok (grace fuel : Nat) : ∀ run alive waited t x,
    (awaitStop w grace fuel run alive waited t x).Ends env (fun _ _ r => ∃ a, r = .ok a) := by
  induction fuel with
  | zero => exact fun _ _ _ _ _ => ⟨_, rfl⟩
  | succ fuel ih =>
    intro run alive waited t x
    unfold awaitStop
    split
    · -- one sleep and one status query, then the next poll
      rw [Job.bind_apply]
      refine Flow.Ends.bind_ok (sleep_ok env _ t x) fun _ t x => ?_
      rw [Job.bind_apply]
      exact Flow.Ends.bind_ok (observe_ok w env _ t x) fun _ t x => ih _ _ _ t x
    · exact ⟨_, rfl⟩

/-- A teardown answers, whatever the worker does, and leaves the epic's workspace out of the
session's hands. -/
theorem teardown_unleases (h : SessionHandle) (run : Run) (grace : Nat) (t : Conductor) (x : Host) :
    (teardown w h run grace t x).Ends env
      (fun _ t' r => (∃ a, r = .ok a) ∧ t'.sessions.holder h.epicId ≠ some h.sessionId) := by
  unfold teardown
  refine (Job.ends_attempt_bind _ _ _ _ _).2 (Flow.Ends.of_forall _ fun x t _ => ?_)
  rw [Job.bind_apply]
  refine Flow.Ends.bind_ok (observe_ok w env _ t x) fun ⟨run₁, alive₁⟩ t x => ?_
  dsimp only
  rw [Job.bind_apply]
  refine Flow.Ends.bind_ok (awaitStop_ok w env _ _ _ _ _ t x) fun ⟨run₂, alive₂, waited⟩ t x => ?_
  dsimp -zeta only
  -- a forced stop only while the run is still alive; the release and the lease follow either way
  split
  · refine (Job.ends_attempt_bind _ _ _ _ _).2 (Flow.Ends.of_forall _ fun x t _ => ?_)
    refine (Job.ends_attempt_bind _ _ _ _ _).2 (Flow.Ends.of_forall _ fun x t _ => ?_)
    rw [modify_bind]
    exact ⟨⟨_, rfl⟩, holder_unleaseIfHeld _ _⟩
  · rw [Job.pure_bind]
    refine (Job.ends_attempt_bind _ _ _ _ _).2 (Flow.Ends.of_forall _ fun x t _ => ?_)
    rw [modify_bind]
    exact ⟨⟨_, rfl⟩, holder_unleaseIfHeld _ _⟩

end Teardown

/-- The workspace leases of a conductor's sessions. A start that fails its checks (an
unregistered stage, a running run of the epic in the store, or the workspace held by another
session) is refused at once, and nothing has changed. A start that passes asks the worker first,
with the lease already taken for the session. If the store refuses the run, the worker is asked
to stop it by force and to release it before the lease is given up. Every failed start changed
nothing or leaves the epic with no lease, and a teardown always answers with the lease out of
the session's hands. With the scripted worker, a run the store refuses is recorded as stopped
by force and is released. -/
theorem workspace_lease_rules (w : Worker Eng) (reg : Registry) (h : SessionHandle)
    (cardId cardPath objective : String) (t : Conductor) (x : Host) (env : Host → Host → Prop) :
    (¬ StartOpen reg h x t.sessions →
      ∃ e, startRun w reg h cardId cardPath objective t x = .done x t (.error e)) ∧
    (StartOpen reg h x t.sessions →
      ∃ inv k b, startRun w reg h cardId cardPath objective t x =
          (Job.attempt (w.invoke inv) >>= k) { t with sessions := b } x ∧
        inv.epicId = h.epicId ∧ inv.sessionName = h.sessionId ∧
        b.holder h.epicId = some h.sessionId ∧
        ∀ id t' x' e, x'.store.insertRun
            ((Run.pending h.epicId h.stage h.sessionId h.iteration cardId).start id x'.stamp) =
              .error e →
          k (.ok id) t' x' = (do
            let _ ← Job.attempt (w.terminate id true)
            let _ ← Job.attempt (w.release id)
            modify (·.unlease h.epicId)
            Eng.fail e : Eng Run) t' x') ∧
    (startRun w reg h cardId cardPath objective t x).Ends env (fun x' t' r =>
      ∀ e, r = .error e → (x' = x ∧ t' = t) ∨ t'.sessions.holder h.epicId = none) ∧
    (∀ run grace, (teardown w h run grace t x).Ends env
      (fun _ t' r => (∃ a, r = .ok a) ∧ t'.sessions.holder h.epicId ≠ some h.sessionId)) ∧
    (∀ sc reg', StartOpen reg h x t.sessions → ∀ e, x.store.insertRun
        ((Run.pending h.epicId h.stage h.sessionId h.iteration cardId).start
          ("sim-run-" ++ Text.natText (t.world.nextRun + 1)) x.stamp) = .error e →
      ∃ t', startRun (Worker.scripted sc reg') reg h cardId cardPath objective t x =
          .done x t' (.error e) ∧
        ("sim-run-" ++ Text.natText (t.world.nextRun + 1), true) ∈ t'.world.terminations ∧
        "sim-run-" ++ Text.natText (t.world.nextRun + 1) ∉ t'.world.unreleased ∧
        t'.sessions.holder h.epicId = none) := by
  refine ⟨startRun_refused w reg h cardId cardPath objective t x, fun hopen => ?_,
    startRun_failed_unleased w reg h cardId cardPath objective t x env,
    fun run grace => teardown_unleases w env h run grace t x,
    fun sc reg' hopen e hins =>
      scripted_refused_run_released reg h cardId cardPath objective t x sc reg' hopen e hins⟩
  obtain ⟨inv, k, b, heq, he, hs, hheld, -, hstop⟩ :=
    startRun_invokes w reg h cardId cardPath objective t x hopen
  exact ⟨inv, k, b, heq, he, hs, hheld, hstop⟩

/-- The session `epic-1_BUILD_1`, of the stage `BUILD` of `epic-1`. -/
def buildSession : SessionHandle :=
  { sessionId := "epic-1_BUILD_1", baseName := "epic-1_BUILD", iteration := 1, epicId := "epic-1"
    stage := ⟨"BUILD"⟩, workspace := "/sim/ws", cardRef := "card-1", turnBudget := 10
    resume := false }

/-- A first start of the session in a fresh conductor passes its checks, asks the worker for a
run, and takes the epic's workspace for the session. -/
theorem fresh_start_takes_lease :
    StartOpen Registry.builtin buildSession {} ({} : Conductor).sessions ∧
      ∀ w : Worker Eng, ∃ inv k b,
        startRun w Registry.builtin buildSession "card-1" "/sim/ws/card-1.md" "x" {} {} =
          (Job.attempt (w.invoke inv) >>= k) { sessions := b } {} ∧
        b.holder "epic-1" = some "epic-1_BUILD_1" := by
  have hopen : StartOpen Registry.builtin buildSession {} ({} : Conductor).sessions :=
    ⟨by decide, rfl, by decide⟩
  refine ⟨hopen, fun w => ?_⟩
  obtain ⟨inv, k, b, heq, -, -, hheld, -⟩ :=
    (workspace_lease_rules w Registry.builtin buildSession "card-1" "/sim/ws/card-1.md" "x" {} {}
      (fun _ _ => True)).2.1 hopen
  exact ⟨inv, k, b, heq, hheld⟩

/-- The run of `buildSession`, which the store shows completed. -/
def finishedBuildRun : Run :=
  { runId := "sim-run-1", epicId := "epic-1", stage := ⟨"BUILD"⟩, sessionId := "epic-1_BUILD_1"
    iteration := 1, cardId := "card-1", status := .completed }

/-- A session that still holds its epic's workspace, and whose run the store shows completed, is
started again: the worker is asked for a second run of the epic, though the first one was never
torn down. -/
theorem held_session_starts_again :
    let t : Conductor := { sessions := { leases := [("epic-1", "epic-1_BUILD_1")] } }
    let x : Host := { store := { runs := [finishedBuildRun] } }
    t.sessions.holder "epic-1" = some "epic-1_BUILD_1" ∧
      ∀ w : Worker Eng, ∃ inv k b,
        startRun w Registry.builtin buildSession "card-1" "/sim/ws/card-1.md" "x" t x =
          (Job.attempt (w.invoke inv) >>= k) { t with sessions := b } x ∧
        inv.sessionName = "epic-1_BUILD_1" := by
  intro t x
  have hopen : StartOpen Registry.builtin buildSession x t.sessions := ⟨by decide, rfl, by decide⟩
  refine ⟨by decide, fun w => ?_⟩
  obtain ⟨inv, k, b, heq, -, hs, -⟩ :=
    startRun_invokes w Registry.builtin buildSession "card-1" "/sim/ws/card-1.md" "x" t x hopen
  exact ⟨inv, k, b, heq, hs⟩

end SessionBook

end EpicFlow
