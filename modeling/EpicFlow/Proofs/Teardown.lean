import EpicFlow.Proofs.Polling

/-!
# How a session is torn down

`SessionBook.teardown` stops the run of a session: it asks the worker to stop the run, watches it
wind down for a grace period, stops it outright if it is still alive, releases it, and gives the
epic's workspace lease up. This module proves the course of a teardown for every grace period and
every worker that answers its calls at once, whatever the answers are, and whatever the world does
while the teardown sleeps.

The calls are read off a journal of `Exchange`s, each call with its answer, that the worker keeps
on the conductor (`Worker.AnswersAtOnce`). The sleeps are read off a run of the teardown's flow
(`Flow.Paced`): for each wait, the clock when it began and the millisecond it waits for.

The waiting loop is described by `WaitCourse`: while the worker was last seen alive (a status
query that failed counts as alive, `observedAlive`) and less than the grace period has passed, it
sleeps for a poll interval cut short at the end of the grace period, then asks for the status
again. The loop's fuel, `grace / teardownPoll + 2` rounds, is always enough: the loop stops for
one of those two reasons, never for want of fuel (`awaitStop_course`).

Main statements:

* `Flow.Paced`: the runs of a flow, with the waits they go through.
* `WaitCourse.waited_le`: the pauses add up to at most the grace period.
* `teardown_course`: the calls, the pauses, the answer and the lease of every teardown.
-/

set_option autoImplicit false

namespace EpicFlow

/-! ### Runs of a flow and their waits -/

namespace Flow

variable {σ τ ε α : Type} [Clocked σ]

/-- A run of a flow, whatever the world is when it wakes up: the clock when each of its waits
began and the millisecond it waited for, and how it ended. -/
inductive Paced : Flow σ τ ε α → List (Nat × Nat) → σ → τ → Except ε α → Prop
  | done (s : σ) (t : τ) (r : Except ε α) : Paced (.done s t r) [] s t r
  | wait {s : σ} {w : Nat} {k : σ → Flow σ τ ε α} (s' : σ) {ps : List (Nat × Nat)} {s'' : σ}
      {t : τ} {r : Except ε α} : Paced (k s') ps s'' t r → Paced (.wait s w k) ((Clocked.now s, w) :: ps) s'' t r

theorem Paced.done_inv {s s' : σ} {t t' : τ} {r r' : Except ε α} {ps : List (Nat × Nat)}
    (h : (Flow.done s t r).Paced ps s' t' r') : ps = [] ∧ s' = s ∧ t' = t ∧ r' = r := by
  cases h
  exact ⟨rfl, rfl, rfl, rfl⟩

theorem Paced.wait_inv {s s'' : σ} {w : Nat} {k : σ → Flow σ τ ε α} {t : τ} {r : Except ε α}
    {ps : List (Nat × Nat)} (h : (Flow.wait s w k).Paced ps s'' t r) :
    ∃ s' ps', ps = (Clocked.now s, w) :: ps' ∧ (k s').Paced ps' s'' t r := by
  cases h with
  | wait s' h => exact ⟨s', _, rfl, h⟩

/-- Every flow runs to an end; run alone it ends as `Flow.solo` says. -/
theorem paced_solo (f : Flow σ τ ε α) : ∃ ps, f.Paced ps f.solo.1 f.solo.2.1 f.solo.2.2 := by
  induction f with
  | done s t r => exact ⟨[], .done s t r⟩
  | wait s w k ih =>
    obtain ⟨ps, h⟩ := ih (Clocked.setNow s (max (Clocked.now s) w))
    exact ⟨_, .wait _ h⟩

end Flow

/-! ### The worker's side -/

/-- A call a teardown makes to its worker about a run, with the worker's answer. -/
inductive Exchange where
  | terminate (runId : String) (force : Bool) (answer : Except EngineError Unit)
  | status (runId : String) (answer : Except EngineError WorkerStatus)
  | release (runId : String) (answer : Except EngineError Unit)

/-- Whether a status answer shows the worker alive; a query that failed counts as alive. -/
def observedAlive : Except EngineError WorkerStatus → Bool
  | .ok st => st.isAlive
  | .error _ => true

/-- The answer of a teardown: the failure of the forced stop, if one was made and failed, and
the release's answer otherwise. -/
def stopOutcome : Option (Except EngineError Unit) → Except EngineError Unit → Except EngineError Unit
  | some (.error e), _ => .error e
  | _, released => released

/-- A worker that answers every call at once, noting the call and its answer in a journal `log`
read off the conductor, and that leaves the conductor's sessions alone; the journal is kept apart
from the sessions. -/
structure Worker.AnswersAtOnce (log : Conductor → List Exchange) (w : Worker Eng) : Prop where
  status : ∀ id t x, ∃ x' t' r, w.status id t x = .done x' t' r ∧
    log t' = log t ++ [.status id r] ∧ t'.sessions = t.sessions
  terminate : ∀ id force t x, ∃ x' t' r, w.terminate id force t x = .done x' t' r ∧
    log t' = log t ++ [.terminate id force r] ∧ t'.sessions = t.sessions
  release : ∀ id t x, ∃ x' t' r, w.release id t x = .done x' t' r ∧
    log t' = log t ++ [.release id r] ∧ t'.sessions = t.sessions
  books : ∀ t sessions, log { t with sessions := sessions } = log t

/-! ### The waiting loop -/

/-- The course of the waiting loop, from the liveness last observed and the time waited: the
pauses it makes and the status answers after them, and the liveness and the time waited it ends
with. A pause is made while the worker was last seen alive and less than the grace period has
passed; it lasts a poll interval cut short at the end of the grace period, and a status query
follows it. -/
inductive WaitCourse (grace : Nat) :
    Bool → Nat → List Nat → List (Except EngineError WorkerStatus) → Bool → Nat → Prop
  | stop {alive : Bool} {waited : Nat} (h : ¬(alive = true ∧ waited < grace)) :
      WaitCourse grace alive waited [] [] alive waited
  | pause {waited : Nat} {o : Except EngineError WorkerStatus} {steps : List Nat}
      {obs : List (Except EngineError WorkerStatus)} {alive' : Bool} {waited' : Nat} (h : waited < grace) :
      WaitCourse grace (observedAlive o) (waited + SessionBook.pollStep grace waited) steps obs alive' waited' →
      WaitCourse grace true waited (SessionBook.pollStep grace waited :: steps) (o :: obs) alive' waited'

namespace WaitCourse

variable {grace : Nat} {alive alive' : Bool} {waited waited' : Nat} {steps : List Nat}
  {obs : List (Except EngineError WorkerStatus)}

/-- The loop never waits past the end of the grace period. -/
theorem waited_le (h : WaitCourse grace alive waited steps obs alive' waited') (hw : waited ≤ grace) :
    waited' ≤ grace := by
  induction h with
  | stop => exact hw
  | pause hlt _ ih =>
    apply ih
    unfold SessionBook.pollStep
    omega

/-- The loop ends with the liveness of the last status answer. -/
theorem last {o : Except EngineError WorkerStatus}
    (h : WaitCourse grace (observedAlive o) waited steps obs alive' waited') :
    alive' = observedAlive ((o :: obs).getLast (List.cons_ne_nil _ _)) := by
  generalize hα : observedAlive o = alive at h
  induction h generalizing o with
  | stop => simp [hα]
  | @pause waited o' steps obs alive' waited' _ _ ih => simpa using ih rfl

/-- One status answer follows each pause. -/
theorem length_eq (h : WaitCourse grace alive waited steps obs alive' waited') :
    obs.length = steps.length := by
  induction h with
  | stop => rfl
  | pause _ _ ih => simp [ih]

end WaitCourse

/-! ### Calls answered at once -/

/-- A job that is done at once is caught at once. -/
theorem Job.attempt_of_done {σ τ ε α : Type} {j : Job σ τ ε α} {t t' : τ} {s s' : σ} {r : Except ε α}
    (h : j t s = .done s' t' r) : Job.attempt j t s = .done s' t' (.ok r) := by
  have hflow : Job.attempt j t s = ((j t s).bind fun a => (pure (.ok a) : Job σ τ ε (Except ε α))).handle
      fun e => (pure (.error e) : Job σ τ ε (Except ε α)) := rfl
  rw [hflow, h]
  cases r <;> rfl

/-- A sleep is one wait, until the first millisecond at or after its end. -/
theorem Eng.sleep_then {α β : Type} (ns : Nat) (j : Eng α) (k : α → Eng β) (t : Conductor) (x : Host) :
    ((Eng.sleep ns >>= fun _ => j) >>= k) t x = .wait x (wakeAfter x.now ns) fun x' => (j >>= k) t x' :=
  rfl

namespace SessionBook

variable {log : Conductor → List Exchange} {w : Worker Eng}

/-- A status query answered at once: the run, with the usage the answer reports, and whether the
answer shows the worker alive. -/
theorem observe_at_once (hw : w.AnswersAtOnce log) (run : Run) (t : Conductor) (x : Host) :
    ∃ x' t' r run', observe w run t x = .done x' t' (.ok (run', observedAlive r)) ∧
      log t' = log t ++ [.status run.runId r] ∧ t'.sessions = t.sessions ∧ run'.runId = run.runId := by
  obtain ⟨x', t', r, hs, hlog, hsess⟩ := hw.status run.runId t x
  unfold observe
  rw [Job.bind_apply_of_done (Job.attempt_of_done hs)]
  cases r with
  | ok st => exact ⟨x', t', .ok st, _, rfl, hlog, hsess, rfl⟩
  | error e => exact ⟨x', t', .error e, run, rfl, hlog, hsess, rfl⟩

/-- A pause within the grace period leaves enough rounds for the rest of the loop: the rounds
left cover what is left of the grace period. -/
theorem fuel_after_pause {grace waited fuel : Nat} (hfuel : grace ≤ waited + (fuel + 1) * teardownPoll) :
    grace ≤ waited + pollStep grace waited + fuel * teardownPoll := by
  unfold pollStep
  rw [Nat.succ_mul] at hfuel
  omega

/-- Every run of the waiting loop, followed by `k`, goes its course: it makes the pauses and
status queries `WaitCourse` says, each pause one wait until the first millisecond at or after its
end, and then goes on into `k` from where the loop stopped. The loop has rounds enough when they
cover what is left of the grace period. -/
theorem awaitStop_course (hw : w.AnswersAtOnce log) (grace : Nat) {β : Type} (k : Run × Bool × Nat → Eng β) :
    ∀ fuel run alive waited t x ps x'' t'' out, grace ≤ waited + fuel * teardownPoll →
      ((awaitStop w grace fuel run alive waited >>= k) t x).Paced ps x'' t'' out →
      ∃ steps obs alive' waited' run' t₁ x₁ ps₁ ps₂, WaitCourse grace alive waited steps obs alive' waited' ∧
        ps = ps₁ ++ ps₂ ∧ List.Forall₂ (fun p step => p.2 = wakeAfter p.1 step) ps₁ steps ∧
        log t₁ = log t ++ obs.map (.status run.runId) ∧ t₁.sessions = t.sessions ∧
        run'.runId = run.runId ∧ (k (run', alive', waited') t₁ x₁).Paced ps₂ x'' t'' out := by
  intro fuel
  -- the loop is followed round by round: a round that goes on pauses, queries, and hands the rest
  -- of the loop the rounds it has left
  induction fuel with
  | zero =>
    intro run alive waited t x ps x'' t'' out hfuel hrun
    refine ⟨[], [], alive, waited, run, t, x, [], ps, .stop (by omega), rfl, .nil, by simp, rfl, rfl, hrun⟩
  | succ fuel ih =>
    intro run alive waited t x ps x'' t'' out hfuel hrun
    unfold awaitStop at hrun
    by_cases hgo : (alive && decide (waited < grace)) = true
    · rw [if_pos hgo] at hrun
      obtain ⟨halive, hlt⟩ : alive = true ∧ waited < grace := by simpa using hgo
      subst halive
      rw [Eng.sleep_then] at hrun
      -- one wait, then the status query, then the rounds left
      obtain ⟨x₁, ps', rfl, hrest⟩ := Flow.Paced.wait_inv hrun
      obtain ⟨x₂, t₂, r, run₂, hobs, hlog, hsess, hid⟩ := observe_at_once hw run t x₁
      rw [Job.bind_assoc, Job.bind_apply_of_done hobs] at hrest
      dsimp only at hrest
      obtain ⟨steps, obs, alive', waited', run', t₃, x₃, ps₁, ps₂, hcourse, hps, hwake, hlog₃, hsess₃, hid₃,
        hk⟩ := ih run₂ (observedAlive r) (waited + pollStep grace waited) t₂ x₂ ps' x'' t'' out
          (fuel_after_pause hfuel) hrest
      refine ⟨pollStep grace waited :: steps, r :: obs, alive', waited', run', t₃, x₃, (x.now, _) :: ps₁, ps₂,
        .pause hlt hcourse, by rw [hps]; rfl, .cons rfl hwake, ?_, hsess₃.trans hsess, hid₃.trans hid, hk⟩
      rw [hlog₃, hlog, hid]
      simp
    · rw [if_neg hgo, Job.pure_bind] at hrun
      refine ⟨[], [], alive, waited, run, t, x, [], ps, .stop fun h => hgo (by simpa using h), rfl, .nil,
        by simp, rfl, rfl, hrun⟩

/-- The teardown has rounds enough: `grace / teardownPoll + 2` rounds cover the grace period. -/
theorem fuel_covers (grace : Nat) : grace ≤ 0 + (grace / teardownPoll + 2) * teardownPoll := by
  have := Nat.lt_div_mul_add (a := grace) (b := teardownPoll) (by decide)
  rw [Nat.add_mul]
  omega

/-- Every teardown, whatever the worker answers and whatever the world does while it sleeps,
goes this course. It asks the worker to stop the run, then asks for its status. While the
worker was last seen alive and less than the grace period has passed, it sleeps for a poll
interval cut short at the end of the grace period (each sleep one wait, until the first
millisecond at or after its end), then asks for the status again; a status query that failed
counts as alive, and the sleeps add up to at most the grace period. It stops the run outright
exactly when the last status still showed the worker alive, and then releases the run, its last
call. Its answer is the forced stop's failure if that failed, and the release's answer otherwise.
The epic's lease is given up exactly when the handle's session held it, and the sessions are
otherwise left as they were. -/
theorem teardown_course (hw : w.AnswersAtOnce log) (h : SessionHandle) (run : Run) (grace : Nat)
    (t : Conductor) (x : Host) {ps : List (Nat × Nat)} {x' : Host} {t' : Conductor}
    {out : Except EngineError (Run × Except EngineError Unit)}
    (hrun : (teardown w h run grace t x).Paced ps x' t' out) :
    ∃ (graceful : Except EngineError Unit) (first : Except EngineError WorkerStatus) (steps : List Nat)
      (obs : List (Except EngineError WorkerStatus)) (alive : Bool) (waited : Nat)
      (forced : Option (Except EngineError Unit)) (released : Except EngineError Unit) (run' : Run),
      WaitCourse grace (observedAlive first) 0 steps obs alive waited ∧ waited ≤ grace ∧
      List.Forall₂ (fun p step => p.2 = wakeAfter p.1 step) ps steps ∧
      forced.isSome = observedAlive ((first :: obs).getLast (List.cons_ne_nil _ _)) ∧
      log t' = log t ++ .terminate run.runId false graceful :: (first :: obs).map (.status run.runId) ++
        (forced.map (.terminate run.runId true)).toList ++ [.release run.runId released] ∧
      out = .ok (run', stopOutcome forced released) ∧ run'.runId = run.runId ∧
      (t.sessions.holder h.epicId = some h.sessionId → t'.sessions = t.sessions.unlease h.epicId) ∧
      (t.sessions.holder h.epicId ≠ some h.sessionId → t'.sessions = t.sessions) := by
  -- the request to stop and the first status query are answered at once
  obtain ⟨x₁, t₁, graceful, hterm, hlog₁, hsess₁⟩ := hw.terminate run.runId false t x
  obtain ⟨x₂, t₂, first, run₂, hobs, hlog₂, hsess₂, hid₂⟩ := observe_at_once hw run t₁ x₁
  unfold teardown at hrun
  rw [Job.bind_apply_of_done (Job.attempt_of_done hterm), Job.bind_apply_of_done hobs] at hrun
  dsimp only at hrun
  -- the loop goes its course; what follows it is answered at once
  obtain ⟨steps, obs, alive, waited, run₃, t₃, x₃, ps₁, ps₂, hcourse, hps, hwake, hlog₃, hsess₃, hid₃, hk⟩ :=
    awaitStop_course hw grace _ _ _ _ _ t₂ x₂ ps x' t' out (fuel_covers grace) hrun
  dsimp only at hk
  have hlast := hcourse.last
  -- the log and the sessions up to the end of the loop
  have hlog : log t₃ = log t ++ .terminate run.runId false graceful :: (first :: obs).map (.status run.runId) := by
    rw [hlog₃, hlog₂, hlog₁, hid₂]
    simp
  have hsess : t₃.sessions = t.sessions := hsess₃.trans (hsess₂.trans hsess₁)
  -- the lease is given up exactly when the session held it
  have hlease : ∀ t₅ : Conductor, t₅.sessions = t.sessions →
      (t.sessions.holder h.epicId = some h.sessionId →
        ({ t₅ with sessions := t₅.sessions.unleaseIfHeld h } : Conductor).sessions = t.sessions.unlease h.epicId) ∧
      (t.sessions.holder h.epicId ≠ some h.sessionId →
        ({ t₅ with sessions := t₅.sessions.unleaseIfHeld h } : Conductor).sessions = t.sessions) := by
    intro t₅ h₅
    refine ⟨fun hheld => ?_, fun hfree => ?_⟩
    · simp [h₅, unleaseIfHeld, hheld]
    · simp [h₅, unleaseIfHeld, hfree]
  cases halive : alive with
  | true =>
    -- still alive: stopped outright, then released
    obtain ⟨x₅, t₅, forced, hforce, hlog₅, hsess₅⟩ := hw.terminate run₃.runId true t₃ x₃
    obtain ⟨x₆, t₆, released', hrel', hlog₆, hsess₆⟩ := hw.release run₃.runId t₅ x₅
    rw [halive, if_pos rfl, Job.bind_apply_of_done (Job.attempt_of_done hforce),
      Job.bind_apply_of_done (Job.attempt_of_done hrel'), SessionBook.modify_bind, Job.pure_apply] at hk
    obtain ⟨rfl, rfl, rfl, rfl⟩ := hk.done_inv
    refine ⟨graceful, first, steps, obs, true, waited, some forced, released', run₃, halive ▸ hcourse,
      hcourse.waited_le (Nat.zero_le _), by simpa [hps] using hwake, by rw [← hlast, halive]; rfl, ?_, ?_,
      hid₃.trans hid₂, hlease t₆ (hsess₆.trans (hsess₅.trans hsess))⟩
    · rw [hw.books, hlog₆, hlog₅, hlog, hid₃, hid₂]
      simp
    · cases forced <;> rfl
  | false =>
    -- gone: released only
    obtain ⟨x₄, t₄, released, hrel, hlog₄, hsess₄⟩ := hw.release run₃.runId t₃ x₃
    rw [halive, if_neg Bool.false_ne_true, Job.pure_bind, Job.bind_apply_of_done (Job.attempt_of_done hrel),
      SessionBook.modify_bind, Job.pure_apply] at hk
    obtain ⟨rfl, rfl, rfl, rfl⟩ := hk.done_inv
    refine ⟨graceful, first, steps, obs, false, waited, none, released, run₃, halive ▸ hcourse,
      hcourse.waited_le (Nat.zero_le _), by simpa [hps] using hwake, by rw [← hlast, halive]; rfl, ?_, rfl,
      hid₃.trans hid₂, hlease t₄ (hsess₄.trans hsess)⟩
    rw [hw.books, hlog₄, hlog, hid₃, hid₂]
    simp

end SessionBook

/-! ### A worker whose run never stops -/

/-- The status of a run that goes on running. -/
def stuckStatus : WorkerStatus := ⟨.running, 0, 0.0, none⟩

/-- Note a call of kind `kind` about the run `id` in the conductor's table of agent runs. -/
def noteKind (id kind : String) : Eng Unit :=
  Eng.modifySelf fun t => { t with agentRuns := t.agentRuns ++ [(id, ⟨kind, none, ""⟩)] }

/-- A worker whose run never stops: every status query finds it running, and every request to
stop it and every release succeeds. It notes each call in the conductor's table of agent runs. -/
def Worker.stuck : Worker Eng where
  invoke _ := pure "run-1"
  status id := do noteKind id "status"; pure stuckStatus
  terminate id force := noteKind id (if force then "kill" else "stop")
  release id := noteKind id "release"

/-- The exchanges of the stuck worker, read back from its notes. -/
def stuckExchange (n : String × AgentRun) : Option Exchange :=
  match n.2.sessionName with
  | "status" => some (.status n.1 (.ok stuckStatus))
  | "stop" => some (.terminate n.1 false (.ok ()))
  | "kill" => some (.terminate n.1 true (.ok ()))
  | "release" => some (.release n.1 (.ok ()))
  | _ => none

/-- The journal of the stuck worker. -/
def stuckLog (t : Conductor) : List Exchange := t.agentRuns.filterMap stuckExchange

theorem stuck_answersAtOnce : Worker.stuck.AnswersAtOnce stuckLog where
  status id t x := ⟨_, _, _, rfl, by simp [stuckLog, stuckExchange, List.filterMap_append], rfl⟩
  terminate id force t x := ⟨_, _, _, rfl, by cases force <;> simp [stuckLog, stuckExchange, List.filterMap_append], rfl⟩
  release id t x := ⟨_, _, _, rfl, by simp [stuckLog, stuckExchange, List.filterMap_append], rfl⟩
  books t sessions := rfl

/-- A running run of `SessionBook.buildSession`. -/
def liveBuildRun : Run :=
  { runId := "sim-run-1", epicId := "epic-1", stage := ⟨"BUILD"⟩, sessionId := "epic-1_BUILD_1"
    iteration := 1, cardId := "card-1", status := .running }

/-- Tearing down the stuck worker's run, with 2.5 s of grace, in a conductor where the session
holds the epic's workspace: the teardown runs to an end, its last call releases the run, and the
epic's lease is free. -/
theorem stuck_teardown_releases_last :
    Worker.stuck.AnswersAtOnce stuckLog ∧
      let t : Conductor := { sessions := { leases := [("epic-1", "epic-1_BUILD_1")] } }
      ∃ ps x' t' out, (SessionBook.teardown Worker.stuck SessionBook.buildSession liveBuildRun 2500000000 t {}).Paced ps x' t' out ∧
        (∃ pre r, stuckLog t' = pre ++ [.release "sim-run-1" r]) ∧ t'.sessions.holder "epic-1" = none := by
  refine ⟨stuck_answersAtOnce, ?_⟩
  intro t
  obtain ⟨ps, hrun⟩ := Flow.paced_solo (SessionBook.teardown Worker.stuck SessionBook.buildSession liveBuildRun 2500000000 t {})
  obtain ⟨graceful, first, steps, obs, alive, waited, forced, released, run', -, -, -, -, hlog, -, -, hheld, -⟩ :=
    SessionBook.teardown_course stuck_answersAtOnce SessionBook.buildSession liveBuildRun 2500000000 t {} hrun
  refine ⟨ps, _, _, _, hrun, ⟨_, released, hlog⟩, ?_⟩
  rw [hheld (by decide)]
  exact SessionBook.holder_unlease _ _

end EpicFlow
