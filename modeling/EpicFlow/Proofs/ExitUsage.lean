import EpicFlow.Proofs.Polling
import EpicFlow.Proofs.TurnCounts

/-!
# Usage reported on the way out

A worker reports the usage of its run with every status it answers: the turns it has taken
and what it has cost so far. The conductor folds each report into the run as it gets it
(`Run.recordUsage`): the run keeps the larger turn count and the larger cost. Reports come in
during the watch of the run (`Monitor.watch`, one status query per poll) and during its
teardown (`SessionBook.teardown`, which polls the stopping run until it is gone). A worker may
hold its usage back until it is asked to stop, so the teardown's reports matter as much as the
watch's.

To say which statuses a worker answered, the worker is taken to note each of them in a log read
off the conductor (`Worker.Reports`): any worker can be instrumented so. `Tallies log u f t t' r`
says that between the conductor `t` and `t'` the log grew by some statuses, and every answer of
`r` carries (through `f`) a run whose usage is `u` with those statuses folded in, in order
(`foldUsage`). Each piece of the watch and of the teardown is shown to tally: a poll
(`Monitor.observe_logs`, `Monitor.verdict_usage`), the loop of polls by induction on its fuel
(`Monitor.loop_tallies`), a teardown poll and the teardown's loop (`SessionBook.awaitStop_tallies`).

`Crew.settle` is the end of a stage up to the decision it applies: watch, tear down, record the
run, and let the budget judge the router's decision from the store. `Crew.conclude` applies that
decision (`Crew.conclude_eq_settle`). The run is recorded as the columns of its row keep it
(`Store.storedRun`): a turn count from `2^63` on reads back as `0`, and so does not count against
the budget.

Main statements:

* `Crew.stop_tallies`: tearing a session down folds in every status reported on the way out.
* `Crew.settle_tallies`: the run a stage settles on has the starting usage with every status
  reported during its watch and its teardown folded in.
* `Crew.settle_records`: that run is the one recorded, as its columns keep it, in the store from
  which the budget judges the decision.
* `exit_usage_counts_against_budget`: the three together, with the usage as the larger of the
  starting one and of every one reported.
-/

set_option autoImplicit false

namespace EpicFlow

/-! ### Usage folded in -/

/-- The usage of a run: its turns and its cost. -/
def Run.usage (r : Run) : Nat × Float := (r.turns, r.cost)

/-- The usage `u` with the statuses `sts` folded in, in the order they were reported, as
`Run.recordUsage` takes each: the larger turn count and the larger cost, a cost that is not a
number aside. -/
def foldUsage (u : Nat × Float) (sts : List WorkerStatus) : Nat × Float :=
  sts.foldl (fun u st => (max u.1 st.turns, Run.fmax u.2 st.cost)) u

@[simp] theorem foldUsage_nil (u : Nat × Float) : foldUsage u [] = u := rfl

theorem foldUsage_append (u : Nat × Float) (sts sts' : List WorkerStatus) :
    foldUsage u (sts ++ sts') = foldUsage (foldUsage u sts) sts' :=
  List.foldl_append

/-- The turns folded in are the largest of the starting ones and the reported ones, and so is the
cost. -/
theorem foldUsage_eq (u : Nat × Float) (sts : List WorkerStatus) :
    foldUsage u sts = ((sts.map (·.turns)).foldl max u.1, (sts.map (·.cost)).foldl Run.fmax u.2) := by
  induction sts generalizing u with
  | nil => rfl
  | cons st sts ih => exact ih _

/-- The row `updateRun` writes for a run holds its usage as the columns keep it. -/
theorem Store.run?_updateRun_usage {s s' : Store} {r : Run} (h : s.updateRun r = .ok s') :
    ∃ row, s'.run? r.runId = some row ∧ row.usage = (Store.storedCount r.turns, Store.storedCost r.cost) := by
  obtain ⟨old, -, hold, -⟩ := Store.run?_updateRun h
  refine ⟨Store.storedRun (r.overwrite old), ?_, rfl⟩
  -- the write keeps every row's id, so the row found under the id is the one written
  unfold Store.run? at hold ⊢
  have hid : old.runId = r.runId := by simpa using List.find?_some hold
  rw [Store.updateRun_runs h, List.find?_map]
  simp only [Function.comp_def, apply_ite (f := Run.runId), Store.storedRun, Run.overwrite, ite_self]
  rw [hold]
  simp only [Option.map_some, hid, beq_self_eq_true, ↓reduceIte]

theorem usage_recordUsage (r : Run) (st : WorkerStatus) :
    (r.recordUsage st.turns st.cost).1.usage = foldUsage r.usage [st] := rfl

@[simp] theorem usage_finish (r : Run) (st : RunStatus) (reason : Option Rationale) (now : String) :
    (r.finish st reason now).usage = r.usage := rfl

/-! ### A log of the statuses a worker answered -/

/-- A change of state that leaves the log as it was. -/
def LogKept (log : Conductor → List WorkerStatus) (a b : Host × Conductor) : Prop := log b.2 = log a.2

/-- A worker that notes in `log`, read off the conductor, every status it answers, and notes
nothing when it is asked to stop or to release a run. -/
structure Worker.Reports (log : Conductor → List WorkerStatus) (w : Worker Eng) : Prop where
  status : ∀ id t x, (w.status id t x).Ends StoreKept fun _ t' r => log t' = log t ++ r.toOption.toList
  terminate : ∀ id force, Job.Keeps StoreKept (LogKept log) (w.terminate id force)
  release : ∀ id, Job.Keeps StoreKept (LogKept log) (w.release id)

/-- From the conductor `t` to `t'` the log grew by some statuses, and every answer of `r`
carries, through `f`, a run whose usage is `u` with those statuses folded in. -/
def Tallies {α : Type} (log : Conductor → List WorkerStatus) (u : Nat × Float) (f : α → Run)
    (t t' : Conductor) (r : Except EngineError α) : Prop :=
  ∃ sts, log t' = log t ++ sts ∧ ∀ a, r = .ok a → (f a).usage = foldUsage u sts

section Log

variable {log : Conductor → List WorkerStatus}

/-- The log is kept apart from the conductor's cards and sessions: changes of bookkeeping keep it. -/
theorem LogKept.tidy (hbooks : ∀ t cards sessions, log { t with cards := cards, sessions := sessions } = log t) :
    Tidy (LogKept log) := by
  refine ⟨fun {a b} h => ?_, fun h₁ h₂ => h₂.trans h₁⟩
  show log b.2 = log a.2
  rw [h.2]
  exact hbooks a.2 _ a.2.sessions

/-- The log is the conductor's own: the host's moves at a wait keep it. -/
theorem LogKept.guarantee : Job.Guarantee StoreKept (LogKept log) :=
  ⟨fun _ => rfl, fun h₁ h₂ => h₂.trans h₁, fun _ _ => rfl⟩

namespace Tallies

variable {α : Type} {u : Nat × Float} {f : α → Run} {t t₁ t₂ : Conductor} {r : Except EngineError α}

/-- Nothing reported, and every answer with the usage it started from. -/
theorem of_logKept (h : log t₁ = log t) (hr : ∀ a, r = .ok a → (f a).usage = u) :
    Tallies log u f t t₁ r :=
  ⟨[], by rw [h, List.append_nil], fun a ha => by rw [foldUsage_nil]; exact hr a ha⟩

/-- Tallies after statuses already folded in are tallies from before them. -/
theorem after {sts : List WorkerStatus} (h : log t₁ = log t ++ sts)
    (h' : Tallies log (foldUsage u sts) f t₁ t₂ r) : Tallies log u f t t₂ r := by
  obtain ⟨sts', hlog, hr⟩ := h'
  refine ⟨sts ++ sts', by rw [hlog, h, List.append_assoc], fun a ha => ?_⟩
  rw [hr a ha, foldUsage_append]

/-- Tallies after a step that kept the log are tallies from before it. -/
theorem of_kept (h : log t₁ = log t) (h' : Tallies log u f t₁ t₂ r) : Tallies log u f t t₂ r := by
  obtain ⟨sts, hlog, hr⟩ := h'
  exact ⟨sts, by rw [hlog, h], hr⟩

/-- A failure at once tallies nothing. -/
theorem of_fail {e : EngineError} : Tallies log u f t t (.error e) :=
  of_logKept rfl fun _ he => by cases he

/-- A failure answers no run: whatever it tallied, it tallies for any usage. -/
theorem of_error {β : Type} {u' : Nat × Float} {g : β → Run} {e : EngineError}
    (h : Tallies log u f t t₁ (.error e)) : Tallies log u' g t t₁ (.error e) := by
  obtain ⟨sts, hlog, -⟩ := h
  exact ⟨sts, hlog, fun _ he => by cases he⟩

/-- What a tally says of a run answered: the log grew by some statuses, and the run has the
larger of the starting turn count and of every one reported, and likewise for the cost. -/
theorem ok_usage {a : α} (h : Tallies log u f t t₁ (.ok a)) :
    ∃ sts, log t₁ = log t ++ sts ∧ (f a).turns = (sts.map (·.turns)).foldl max u.1 ∧
      (f a).cost = (sts.map (·.cost)).foldl Run.fmax u.2 := by
  obtain ⟨sts, hlog, hu⟩ := h
  have hfold := (hu a rfl).trans (foldUsage_eq u sts)
  exact ⟨sts, hlog, congrArg Prod.fst hfold, congrArg Prod.snd hfold⟩

end Tallies

/-- After a step that keeps the log, the job tallies from where it started. -/
theorem tallies_keeps_bind {α β : Type} {m : Eng α} {k : α → Eng β} {u : Nat × Float} {f : β → Run}
    {t : Conductor} {x : Host} (hm : Job.Keeps StoreKept (LogKept log) m)
    (hk : ∀ a t' x', log t' = log t → (k a t' x').Ends StoreKept fun _ t'' r => Tallies log u f t' t'' r) :
    ((m >>= k) t x).Ends StoreKept fun _ t' r => Tallies log u f t t' r :=
  Job.Keeps.ends_bind hm
    (fun a t' x' h => (hk a t' x' h).mono fun _ _ _ h' => h'.of_kept h)
    fun _ t' _ h => Tallies.of_logKept h fun _ e => by cases e

/-- A job that answers at once, from the state it started in. -/
theorem tallies_pure {α : Type} {a : α} {u : Nat × Float} {f : α → Run} (hu : (f a).usage = u)
    (t : Conductor) (x : Host) :
    ((pure a : Eng α) t x).Ends StoreKept fun _ t' r => Tallies log u f t t' r :=
  Tallies.of_logKept rfl fun _ e => by cases e; exact hu

/-- Sequencing: the second job tallies from the usage of the run the first one answered. -/
theorem tallies_bind {α β : Type} {m : Eng α} {k : α → Eng β} {u : Nat × Float} {f : α → Run}
    {g : β → Run} {t : Conductor} {x : Host}
    (hm : (m t x).Ends StoreKept fun _ t' r => Tallies log u f t t' r)
    (hk : ∀ a t' x', (k a t' x').Ends StoreKept fun _ t'' r => Tallies log (f a).usage g t' t'' r) :
    ((m >>= k) t x).Ends StoreKept fun _ t' r => Tallies log u g t t' r := by
  rw [Job.bind_apply]
  refine Flow.Ends.bind hm (fun a t₁ x₁ h₁ => ?_) fun _ _ _ h₁ => h₁.of_error
  obtain ⟨sts, hlog, hu⟩ := h₁
  exact (hk a t₁ x₁).mono fun _ _ _ h => (hu a rfl ▸ h).after hlog

/-- A write of the store keeps the log. -/
theorem keeps_updateStore_log (f : Store → Except EngineError Store) :
    Job.Keeps StoreKept (LogKept log) (Eng.updateStore f) :=
  Eng.keeps_updateStore LogKept.guarantee fun _ _ _ _ => rfl

/-- A change of the sessions keeps the log. -/
theorem keeps_modifySessions (hbooks : ∀ t cards sessions, log { t with cards := cards, sessions := sessions } = log t)
    (f : SessionBook → SessionBook) : Job.Keeps StoreKept (LogKept log) (SessionBook.modify f) :=
  Job.Keeps.modifyOwn fun _ t => hbooks t t.cards (f t.sessions)

/-! ### The teardown -/

section Teardown

variable {w : Worker Eng} (hw : w.Reports log)
  (hbooks : ∀ t cards sessions, log { t with cards := cards, sessions := sessions } = log t)
include hw

/-- One teardown poll folds in the status it is answered, if any. -/
theorem SessionBook.observe_tallies (run : Run) (t : Conductor) (x : Host) :
    (SessionBook.observe w run t x).Ends StoreKept fun _ t' r => Tallies log run.usage Prod.fst t t' r := by
  unfold SessionBook.observe
  refine (Job.ends_attempt_bind _ _ t x _).2 ((hw.status run.runId t x).mono fun x₁ t₁ r hlog => ?_)
  cases r with
  | ok st =>
    -- the status is the one report, folded into the run
    dsimp only
    refine (tallies_pure ?_ t₁ x₁).mono fun _ _ _ h => h.after hlog
    exact usage_recordUsage run st
  | error e =>
    dsimp only
    exact (tallies_pure rfl t₁ x₁).mono fun _ _ _ h => h.after hlog

include hbooks

/-- The polls of a stopping run fold in every status they are answered. -/
theorem SessionBook.awaitStop_tallies (grace fuel : Nat) :
    ∀ run alive waited t x, (SessionBook.awaitStop w grace fuel run alive waited t x).Ends StoreKept
      fun _ t' r => Tallies log run.usage (·.1) t t' r := by
  have ht := LogKept.tidy hbooks
  -- one sleep, then one poll, then the polls left, from the run the poll answered
  induction fuel with
  | zero => exact fun run _ _ t x => tallies_pure rfl t x
  | succ fuel ih =>
    intro run alive waited t x
    unfold SessionBook.awaitStop
    split
    · refine tallies_keeps_bind (Eng.keeps_sleep ht _) fun _ t₁ x₁ _ => ?_
      exact tallies_bind (observe_tallies hw run t₁ x₁) fun p t₂ x₂ => ih _ _ _ t₂ x₂
    · exact tallies_pure rfl t x

/-- A teardown folds in every status it is answered: the one after the first request to stop, and
those of the polls that wait for the run to be gone. -/
theorem SessionBook.teardown_tallies (h : SessionHandle) (run : Run) (grace : Nat) (t : Conductor)
    (x : Host) :
    (SessionBook.teardown w h run grace t x).Ends StoreKept fun _ t' r => Tallies log run.usage Prod.fst t t' r := by
  have hg := (LogKept.tidy hbooks).guarantee
  unfold SessionBook.teardown
  refine tallies_keeps_bind (Job.Keeps.attempt (hw.terminate _ _)) fun _ t₁ x₁ _ => ?_
  refine tallies_bind (observe_tallies hw run t₁ x₁) fun p t₂ x₂ => ?_
  obtain ⟨run₁, alive₁⟩ := p
  refine tallies_bind (awaitStop_tallies hw hbooks _ _ _ _ _ t₂ x₂) fun q t₃ x₃ => ?_
  obtain ⟨run₂, alive₂, waited⟩ := q
  dsimp -zeta only
  -- the release is shared by the forced and the unforced stop, and reports nothing
  extract_lets finish
  have hfinish : ∀ forced t' x', log t' = log t₃ →
      (finish forced t' x').Ends StoreKept fun _ t'' r => Tallies log run₂.usage Prod.fst t' t'' r := by
    intro forced t' x' _
    refine tallies_keeps_bind (Job.Keeps.attempt (hw.release _)) fun _ t₄ x₄ _ => ?_
    exact tallies_keeps_bind (keeps_modifySessions hbooks _) fun _ t₅ x₅ _ => tallies_pure rfl t₅ x₅
  clear_value finish
  split
  · exact tallies_keeps_bind (Job.Keeps.attempt (hw.terminate _ _)) hfinish
  · exact tallies_keeps_bind (Job.Keeps.pure hg _) hfinish

end Teardown

/-! ### The watch -/

namespace Monitor

/-- The statuses a poll was answered: one, when its status query answered. -/
def Poll.statuses : Poll → List WorkerStatus
  | .read st _ _ => [st]
  | _ => []

/-- The run a settled poll ends or goes on with; a failed watch has none. -/
def Settled.run? : Settled → Option Run
  | .ends run _ _ => some run
  | .fails _ => none
  | .goesOn s _ => some s.run

variable (cfg : MonitorConfig)

/-- Reading a status folds its usage into the run, whatever the card. -/
theorem afterRead_usage (s : Watch) (st : WorkerStatus) (card : Except EngineError CardView) :
    (s.afterRead cfg st card).1.run.usage = foldUsage s.run.usage [st] := by
  cases card <;> rfl

/-- The worker's rules end or go on with the run as the poll left it. -/
theorem workerRule_run? (st : WorkerStatus) (now : Nat) (next : Watch × Bool × Bool) :
    (workerRule cfg st now next).run? = some next.1.run := by
  unfold workerRule
  split_ifs <;> rfl

/-- The card's rules end the run with the status of the poll folded in, or fail the watch. -/
theorem cardRule_usage {s : Watch} {st : WorkerStatus} {card : Except EngineError CardView}
    {o : Settled} (h : cardRule cfg s st card = some o) {r : Run} (hr : o.run? = some r) :
    r.usage = foldUsage s.run.usage [st] := by
  unfold cardRule at h
  split at h
  · -- a card read: the run as the poll left it, with the card's signals
    split at h
    · cases h
      cases hr
      exact afterRead_usage cfg s st _
    · split at h
      · cases h
        cases hr
        exact afterRead_usage cfg s st _
      · cases h
  · cases h
    cases hr
    rfl
  · split at h
    · cases h
      cases hr
      rfl
    · cases h
  · cases h
    cases hr

/-- Every run a poll ends or goes on with has the statuses of the poll folded in. -/
theorem verdict_usage (s : Watch) (p : Poll) {r : Run} (hr : (verdict cfg s p).run? = some r) :
    r.usage = foldUsage s.run.usage p.statuses := by
  cases p with
  | cancelled =>
    cases hr
    rfl
  | statusFailed =>
    cases hr
    rfl
  | read st card now =>
    change ((cardRule cfg s st card).getD (workerRule cfg st now (s.afterRead cfg st card))).run? = some r at hr
    cases h : cardRule cfg s st card with
    | some o =>
      rw [h, Option.getD_some] at hr
      exact cardRule_usage cfg h hr
    | none =>
      rw [h, Option.getD_none, workerRule_run?] at hr
      cases hr
      exact afterRead_usage cfg s st card

variable {log : Conductor → List WorkerStatus}

/-- Ending a run stores it and answers it with the usage it had. -/
theorem finish_tallies (run : Run) (st : RunStatus) (reason : Option Rationale) (t : Conductor)
    (x : Host) : (finish run st reason t x).Ends StoreKept fun _ t' r => Tallies log run.usage id t t' r := by
  unfold finish
  rw [Eng.stamp_bind]
  exact tallies_keeps_bind (keeps_updateStore_log _)
    fun _ t₁ x₁ _ => tallies_pure (f := id) (usage_finish _ _ _ _) t₁ x₁

/-- Carrying out a settled poll answers a run with the usage it settled, when the polls that follow
answer one with the usage they start from. -/
theorem conclude_tallies {next : Watch → Eng Run}
    (hnext : ∀ s t x, (next s t x).Ends StoreKept fun _ t' r => Tallies log s.run.usage id t t' r)
    {o : Settled} {u : Nat × Float} (hu : ∀ r, o.run? = some r → r.usage = u) (t : Conductor) (x : Host) :
    (conclude next o t x).Ends StoreKept fun _ t' r => Tallies log u id t t' r := by
  cases o with
  | ends run st reason =>
    obtain rfl := hu run rfl
    exact finish_tallies run st reason t x
  | fails e => exact Tallies.of_fail
  | goesOn s write =>
    obtain rfl := hu s.run rfl
    cases write
    · exact hnext s t x
    · -- the run changed: it is written before the next poll
      exact tallies_keeps_bind (keeps_updateStore_log _)
        fun _ t₁ x₁ _ => hnext s t₁ x₁

variable {w : Worker Eng} {mb : Mailbox Eng} (hw : w.Reports log) (hmb : mb.Keeps (LogKept log))
  (hbooks : ∀ t cards sessions, log { t with cards := cards, sessions := sessions } = log t)
include hw hmb hbooks

/-- A poll notes in the log the status it was answered, if any, and nothing else. -/
theorem observe_logs (s : Watch) (t : Conductor) (x : Host) :
    (observe w mb s t x).Ends StoreKept fun _ t' r => ∃ p, r = .ok p ∧ log t' = log t ++ p.statuses := by
  have ht := LogKept.tidy hbooks
  unfold observe
  rw [Job.bind_apply]
  refine Flow.Ends.bind (((Eng.keeps_sleepOrCancel ht s.interval).ends t x).and
      (Eng.sleepOrCancel_ok StoreKept s.interval t x)) (fun cancelled t₁ x₁ h₁ => ?_)
    fun _ _ _ h₁ => by obtain ⟨_, he⟩ := h₁.2; cases he
  have hlog₁ : log t₁ = log t := h₁.1
  cases cancelled
  · rw [if_neg Bool.false_ne_true]
    refine (Job.ends_attempt_bind _ _ _ _ _).2 ((hw.status s.run.runId t₁ x₁).mono fun x₂ t₂ r hlog₂ => ?_)
    cases r with
    | error e => exact ⟨.statusFailed, rfl, by rw [hlog₂, hlog₁]; rfl⟩
    | ok st =>
      -- the card and the clock are read without a word to the worker
      refine (Job.ends_attempt_bind _ _ _ _ _).2
        (((CardBook.keeps_pullAndRead ht hmb _).ends t₂ x₂).mono fun x₃ t₃ card hlog₃ => ?_)
      exact ⟨.read st card x₃.now, rfl, by rw [hlog₃, hlog₂, hlog₁]; rfl⟩
  · rw [if_pos rfl]
    exact ⟨.cancelled, rfl, by rw [hlog₁]; exact (List.append_nil _).symm⟩

/-- Every run of the loop answers a run with every status it was answered folded in. -/
theorem loop_tallies (fuel : Nat) :
    ∀ s t x, (loop w mb cfg fuel s t x).Ends StoreKept fun _ t' r => Tallies log s.run.usage id t t' r := by
  -- one poll, then the rule it settles, which goes on from the run with that poll folded in
  induction fuel with
  | zero => exact fun s t x => finish_tallies s.run _ _ t x
  | succ fuel ih =>
    intro s t x
    rw [loop_succ, Job.bind_apply]
    refine Flow.Ends.bind (observe_logs hw hmb hbooks s t x) (fun p t₁ x₁ h₁ => ?_)
      fun _ _ _ h₁ => by obtain ⟨_, he, -⟩ := h₁; cases he
    obtain ⟨p', hp, hlog⟩ := h₁
    cases hp
    exact (conclude_tallies ih (fun _ hr => verdict_usage cfg s p hr) t₁ x₁).mono
      fun _ _ _ h => h.after hlog

theorem watch_tallies (run : Run) (t : Conductor) (x : Host) :
    (watch w mb cfg run t x).Ends StoreKept fun _ t' r => Tallies log run.usage id t t' r := by
  rw [watch_eq_start, Eng.now_bind]
  exact loop_tallies cfg hw hmb hbooks maxPolls (Watch.start cfg run x.now) t x

end Monitor

/-! ### The end of a stage -/

namespace Crew

/-- The end of a stage up to the decision it applies: the run is watched to its end, its session
torn down, its card forgotten and the run recorded; the decision is the router's, as the budget
lets it stand in the store so written. -/
def settle (c : Crew) (h : SessionHandle) (run : Run) : Eng (Run × Decision) := do
  let cardId := run.cardId
  match ← Job.attempt (Monitor.watch c.worker c.mailbox c.monitor run) with
  | .error err =>
    let _ ← c.stop h run
    CardBook.modify (·.forget cardId)
    Eng.fail err
  | .ok run =>
    let run ← c.stop h run
    CardBook.modify (·.forget cardId)
    record run
    let now ← Eng.stamp
    pure (run, c.policy.enforceBudget (← Eng.store) (routeRun c.registry h.epicId run now) now)

/-- The end of a stage applies the decision it settled. -/
theorem conclude_eq_settle (c : Crew) (h : SessionHandle) (run : Run) :
    c.conclude h run = c.settle h run >>= fun p => c.apply p.2 := by
  unfold conclude settle
  simp only [Job.bind_assoc]
  congr 1
  funext r
  cases r with
  | error err => simp only [Job.bind_assoc, Eng.fail, Job.throw_bind]
  | ok run₁ => simp only [Job.bind_assoc, Job.pure_bind]

/-- At the end of a stage the run answered is the one recorded: the store the budget reads holds
it under its id, with its usage as the columns keep it, and the decision is the router's for it,
as the budget lets it stand in that store. -/
theorem settle_records (c : Crew) (h : SessionHandle) (run : Run) (t : Conductor) (x : Host) :
    (c.settle h run t x).Ends StoreKept fun x' _ r => ∀ run' d, r = .ok (run', d) →
      ∃ row now, x'.store.run? run'.runId = some row ∧
        row.usage = (Store.storedCount run'.turns, Store.storedCost run'.cost) ∧
        d = c.policy.enforceBudget x'.store (routeRun c.registry h.epicId run' now) now := by
  unfold settle
  refine (Job.ends_attempt_bind _ _ t x _).2 (Flow.Ends.of_forall _ fun x₁ t₁ r₁ => ?_)
  cases r₁ with
  | error err =>
    -- a failed watch answers no run
    dsimp only
    rw [Job.bind_apply]
    exact Flow.Ends.bind_any (fun _ _ _ _ _ he => by cases he) fun _ _ _ _ _ he => by cases he
  | ok run₁ =>
    dsimp only
    rw [Job.bind_apply]
    refine Flow.Ends.bind_any (fun run₂ t₂ x₂ => ?_) fun _ _ _ _ _ he => by cases he
    rw [CardBook.modify_bind, record_bind]
    cases hrec : x₂.store.updateRun run₂ with
    | error e => exact fun _ _ he => by cases he
    | ok s =>
      dsimp only
      rw [Eng.stamp_bind, Eng.store_bind]
      intro run' d hr
      cases hr
      obtain ⟨row, hrow, husage⟩ := Store.run?_updateRun_usage hrec
      exact ⟨row, x₂.stamp, hrow, husage, rfl⟩

variable {log : Conductor → List WorkerStatus} {c : Crew} (hw : c.worker.Reports log)
  (hmb : c.mailbox.Keeps (LogKept log))
  (hbooks : ∀ t cards sessions, log { t with cards := cards, sessions := sessions } = log t)
include hw hbooks

/-- Tearing a session down answers the run with every status reported on the way out folded in. -/
theorem stop_tallies (h : SessionHandle) (run : Run) (t : Conductor) (x : Host) :
    (c.stop h run t x).Ends StoreKept fun _ t' r => Tallies log run.usage id t t' r := by
  unfold stop
  refine tallies_bind (SessionBook.teardown_tallies hw hbooks h run c.grace t x) fun p t' x' => ?_
  obtain ⟨run', _⟩ := p
  exact tallies_pure rfl t' x'

include hmb

/-- The run a stage settles on has every status reported during its watch and its teardown
folded in, in order. -/
theorem settle_tallies (h : SessionHandle) (run : Run) (t : Conductor) (x : Host) :
    (c.settle h run t x).Ends StoreKept fun _ t' r => Tallies log run.usage Prod.fst t t' r := by
  have ht := LogKept.tidy hbooks
  unfold settle
  refine (Job.ends_attempt_bind _ _ t x _).2
    ((Monitor.watch_tallies c.monitor hw hmb hbooks run t x).mono fun x₁ t₁ r₁ h₁ => ?_)
  cases r₁ with
  | error err =>
    -- a failed watch still tears the session down, and answers no run
    obtain ⟨sts, hlog, -⟩ := h₁
    dsimp only
    rw [Job.bind_apply]
    refine Flow.Ends.bind (stop_tallies hw hbooks h run t₁ x₁) (fun _ t₂ x₂ h₂ => ?_)
      fun _ _ _ h₂ => h₂.of_error.after hlog
    obtain ⟨sts', hlog₂, -⟩ := h₂
    refine (tallies_keeps_bind (CardBook.keeps_modify ht _) fun _ t₃ x₃ _ => ?_).mono
      fun _ _ _ h' => (h'.after hlog₂).after hlog
    exact Tallies.of_fail
  | ok run₁ =>
    obtain ⟨sts, hlog, hu⟩ := h₁
    have hu₁ : run₁.usage = foldUsage run.usage sts := hu run₁ rfl
    dsimp only
    refine (tallies_bind (stop_tallies hw hbooks h run₁ t₁ x₁) fun run₂ t₂ x₂ => ?_).mono
      fun _ _ _ h' => (hu₁ ▸ h').after hlog
    -- forgetting the card, recording the run and reading the clock and the store report nothing
    refine tallies_keeps_bind (CardBook.keeps_modify ht _) fun _ t₃ x₃ _ => ?_
    refine tallies_keeps_bind (keeps_updateStore_log _)
      fun _ t₄ x₄ _ => ?_
    rw [Eng.stamp_bind, Eng.store_bind]
    exact tallies_pure rfl t₄ x₄

end Crew

/-- Usage reported on the way out counts against the budget. Take any worker that notes the
statuses it answers. Tearing a session down answers the run with the larger of its turns and of
every turn count reported meanwhile, and likewise for the cost. The end of a stage applies the
decision it settles on. The run it settles on has the larger of its starting turns and of every
turn count reported during its watch and its teardown, and likewise for the cost; the store the
budget then reads holds that run under its id, its usage as the columns keep it; and the
decision is the router's for that run, as the budget lets it stand in that store. -/
theorem exit_usage_counts_against_budget {log : Conductor → List WorkerStatus} {c : Crew}
    (hw : c.worker.Reports log) (hmb : c.mailbox.Keeps (LogKept log))
    (hbooks : ∀ t cards sessions, log { t with cards := cards, sessions := sessions } = log t)
    (h : SessionHandle) (run : Run) :
    (∀ t x, (c.stop h run t x).Ends StoreKept fun _ t' r => ∀ run', r = .ok run' →
      ∃ sts, log t' = log t ++ sts ∧ run'.turns = (sts.map (·.turns)).foldl max run.turns ∧
        run'.cost = (sts.map (·.cost)).foldl Run.fmax run.cost) ∧
    c.conclude h run = (c.settle h run >>= fun p => c.apply p.2) ∧
    ∀ t x, (c.settle h run t x).Ends StoreKept fun x' t' r => ∀ run' d, r = .ok (run', d) →
      ∃ sts row now, log t' = log t ++ sts ∧ run'.turns = (sts.map (·.turns)).foldl max run.turns ∧
        run'.cost = (sts.map (·.cost)).foldl Run.fmax run.cost ∧ x'.store.run? run'.runId = some row ∧
        row.turns = Store.storedCount run'.turns ∧ row.cost = Store.storedCost run'.cost ∧
        d = c.policy.enforceBudget x'.store (routeRun c.registry h.epicId run' now) now := by
  refine ⟨fun t x => ?_, Crew.conclude_eq_settle c h run, fun t x => ?_⟩
  · exact (Crew.stop_tallies hw hbooks h run t x).mono fun _ _ _ htal run' hr => by
      subst hr
      exact htal.ok_usage
  · -- the run settled on tallies, and it is the run recorded in the store the budget reads
    refine ((Crew.settle_tallies hw hmb hbooks h run t x).and (Crew.settle_records c h run t x)).mono
      fun x' t' r hr run' d hd => ?_
    obtain ⟨htal, hrec⟩ := hr
    subst hd
    obtain ⟨sts, hlog, hturns, hcost⟩ := htal.ok_usage
    obtain ⟨row, now, hrow, husage, hdec⟩ := hrec run' d rfl
    exact ⟨sts, row, now, hlog, hturns, hcost, hrow, congrArg Prod.fst husage,
      congrArg Prod.snd husage, hdec⟩

/-! ### A worker that reports a steady status -/

/-- A worker that answers every status query with `st`, counting the queries among the
conductor's recorded replies. -/
def Worker.steady (st : WorkerStatus) : Worker Eng where
  invoke _ := pure "run-1"
  status _ := do
    Eng.modifySelf fun c => { c with replies := { c.replies with calls := c.replies.calls + 1 } }
    pure st
  terminate _ _ := pure ()
  release _ := pure ()

/-- The statuses the steady worker has answered. -/
def Worker.steadyLog (st : WorkerStatus) (t : Conductor) : List WorkerStatus :=
  List.replicate t.replies.calls st

theorem Worker.steady_reports (st : WorkerStatus) : (Worker.steady st).Reports (Worker.steadyLog st) where
  status _ t _ := List.replicate_succ' (n := t.replies.calls)
  terminate _ _ := Job.Keeps.pure LogKept.guarantee _
  release _ := Job.Keeps.pure LogKept.guarantee _

/-- The scripted mailbox reads and writes the scripted world only, apart from the replies. -/
theorem Mailbox.scripted_keeps_steadyLog (st : WorkerStatus) :
    Mailbox.scripted.Keeps (LogKept (Worker.steadyLog st)) := by
  have ht : Tidy (LogKept (Worker.steadyLog st)) := LogKept.tidy fun _ _ _ => rfl
  refine ⟨fun _ _ => Job.Keeps.modifyOwn fun _ _ => rfl, fun loc _ => ?_⟩
  refine Job.Keeps.bind ht.guarantee (Eng.keeps_self ht) fun c => ?_
  split
  · exact Job.Keeps.pure ht.guarantee _
  · exact Eng.keeps_fail ht _

/-- The notebook crew with the steady worker. -/
def Crew.steady (st : WorkerStatus) : Crew := { Crew.notebook with worker := Worker.steady st }

/-- A worker that has taken 7 turns for half a dollar. -/
def exitStatus : WorkerStatus := ⟨.running, 7, 0.5, none⟩

theorem steady_exit_usage_counts :
    (Crew.steady exitStatus).worker.Reports (Worker.steadyLog exitStatus) ∧
      (Crew.steady exitStatus).mailbox.Keeps (LogKept (Worker.steadyLog exitStatus)) ∧
      (∀ t cards sessions, Worker.steadyLog exitStatus { t with cards := cards, sessions := sessions } =
        Worker.steadyLog exitStatus t) ∧
      ((∀ t x, ((Crew.steady exitStatus).stop SessionBook.buildSession SessionBook.finishedBuildRun t x).Ends
          StoreKept fun _ t' r => ∀ run', r = .ok run' →
            ∃ sts, Worker.steadyLog exitStatus t' = Worker.steadyLog exitStatus t ++ sts ∧
              run'.turns = (sts.map (·.turns)).foldl max SessionBook.finishedBuildRun.turns ∧
              run'.cost = (sts.map (·.cost)).foldl Run.fmax SessionBook.finishedBuildRun.cost) ∧
        (Crew.steady exitStatus).conclude SessionBook.buildSession SessionBook.finishedBuildRun =
          ((Crew.steady exitStatus).settle SessionBook.buildSession SessionBook.finishedBuildRun >>= fun p =>
            (Crew.steady exitStatus).apply p.2) ∧
        ∀ t x, ((Crew.steady exitStatus).settle SessionBook.buildSession SessionBook.finishedBuildRun t x).Ends
          StoreKept fun x' t' r => ∀ run' d, r = .ok (run', d) →
            ∃ sts row now, Worker.steadyLog exitStatus t' = Worker.steadyLog exitStatus t ++ sts ∧
              run'.turns = (sts.map (·.turns)).foldl max SessionBook.finishedBuildRun.turns ∧
              run'.cost = (sts.map (·.cost)).foldl Run.fmax SessionBook.finishedBuildRun.cost ∧
              x'.store.run? run'.runId = some row ∧
              row.turns = Store.storedCount run'.turns ∧ row.cost = Store.storedCost run'.cost ∧
              d = (Crew.steady exitStatus).policy.enforceBudget x'.store
                (routeRun (Crew.steady exitStatus).registry SessionBook.buildSession.epicId run' now) now) :=
  ⟨Worker.steady_reports exitStatus, Mailbox.scripted_keeps_steadyLog exitStatus, fun _ _ _ => rfl,
    exit_usage_counts_against_budget (Worker.steady_reports exitStatus)
      (Mailbox.scripted_keeps_steadyLog exitStatus) (fun _ _ _ => rfl) _ _⟩

end Log

end EpicFlow
