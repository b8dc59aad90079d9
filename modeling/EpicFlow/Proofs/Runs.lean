import Mathlib.Data.List.Nodup
import EpicFlow.Proofs.JobLogic
import EpicFlow.Session.Lifecycle

/-!
# The run table

The store keeps one row per run. Two rules hold on that table. A run id is recorded once,
and an epic has at most one `RUNNING` run. The database keeps the second rule with a
partial unique index. `Store.insertRun` checks the first rule itself before it writes, and
reports a reused run id as a fault of the worker. A write that breaks the index is refused,
and the refusal is reported as a rejected spawn (`Store.runConflict`). `Store.updateRun` can
move a run to `RUNNING` too, and the same index holds it.

`Write` lists the writes the engine makes to its store, and `applyAll` runs a list of them
in order. A refused write returns no store, so it leaves the store as it was. `RunsKept` is
the invariant of the run table: the run ids are distinct, and two running runs of one epic
are the same run. Every write keeps it (`RunsKept.apply`). So every store that the engine
builds from the empty one keeps it, whatever components issued the writes and in whatever
order.

`Renews` says what `updateRun` does to each row: the row of the run takes the new status,
and every row keeps its id, its epic and its stage. The later modules use it too.

Main statements:

* `RunsKept.runningCount_le_one`: under the invariant, an epic has at most one running run.
* `insertRun_second_running`, `updateRun_second_running`: a write that would make a second
  running run of an epic is refused as a rejected spawn.
* `insertRun_reused_id`: recording a run id again is refused as a worker fault.
* `startRun_of_running`: starting a run for an epic that has a running run fails at once,
  before the worker is asked anything.
-/

set_option autoImplicit false

namespace EpicFlow

namespace Store

/-- A write the engine makes to its store. -/
inductive Write where
  | insertEpic (e : Epic)
  | updateEpic (e : Epic)
  | insertRun (r : Run)
  | updateRun (r : Run)
  | insertDecision (d : Decision)
  | insertEscalation (m : EscalationMessage)
  | resolveEscalation (id : Int) (o : Resolution) (now : String)
  | storePattern (r : PatternRecord)

namespace Write

/-- What a write does to the store. A refused write gives an error and no store. -/
def apply : Write → Store → Except EngineError Store
  | insertEpic e, s => s.insertEpic e
  | updateEpic e, s => s.updateEpic e
  | insertRun r, s => s.insertRun r
  | updateRun r, s => s.updateRun r
  | insertDecision d, s => s.insertDecision d
  | insertEscalation m, s => (s.insertEscalation m).map (·.1)
  | resolveEscalation id o now, s => s.resolveEscalation id o now
  | storePattern r, s => (s.patterns.store r).map fun b => { s with patterns := b.1 }

end Write

/-- The store after a write: the written store, or the same store when the write is
refused. -/
def afterWrite (s : Store) (w : Write) : Store :=
  match w.apply s with
  | .ok s' => s'
  | .error _ => s

/-- The store after writes in order. -/
def applyAll (s : Store) (ws : List Write) : Store := ws.foldl afterWrite s

/-- What `updateRun` does to each row, for the run `r`. The row of the run takes the new
status. Every row keeps its id, its epic and its stage, and the other rows stay as they
were. -/
structure Renews (r : Run) (f : Run → Run) : Prop where
  other : ∀ x, x.runId ≠ r.runId → f x = x
  runId : ∀ x, (f x).runId = x.runId
  epicId : ∀ x, (f x).epicId = x.epicId
  stage : ∀ x, (f x).stage = x.stage
  status : ∀ x, x.runId = r.runId → (f x).status = r.status

/-- A run that `insertRun` records has a new run id and is no second running run of its
epic. It is appended to the table, as it reads back. -/
theorem insertRun_eq_ok {s s' : Store} {r : Run} (h : s.insertRun r = .ok s') :
    (∀ x ∈ s.runs, x.runId ≠ r.runId) ∧ Store.secondRunning s.runs r.epicId r.status = false ∧
      s' = { s with runs := s.runs ++ [Store.storedRun r] } := by
  unfold Store.insertRun at h
  split at h
  · cases h
  rename_i hfresh
  split at h
  · cases h
  rename_i hrule
  cases h
  simp only [Bool.or_eq_true, not_or, Bool.not_eq_true] at hrule
  refine ⟨?_, hrule.2, rfl⟩
  intro x hx hid
  exact hfresh (List.any_eq_true.2 ⟨x, hx, by simp [hid]⟩)

/-- A run that `updateRun` writes is on record, and the new status makes no second running
run of its epic among the other runs. Each row is renewed as `Renews` says. -/
theorem updateRun_eq_ok {s s' : Store} {r : Run} (h : s.updateRun r = .ok s') :
    ∃ old f, s.run? r.runId = some old ∧
      Store.secondRunning (s.runs.filter (·.runId != r.runId)) old.epicId r.status = false ∧
      Renews r f ∧ s' = { s with runs := s.runs.map f } := by
  unfold Store.updateRun at h
  split at h
  · cases h
  rename_i old hold
  split at h
  · cases h
  rename_i hrule
  cases h
  simp only [Bool.or_eq_true, not_or, Bool.not_eq_true] at hrule
  refine ⟨old, _, hold, hrule.2, ⟨?_, ?_, ?_, ?_, ?_⟩, rfl⟩
  · intro x hx
    simp [hx]
  all_goals intro x
  all_goals by_cases hx : x.runId = r.runId <;> simp [hx, Store.storedRun]

/-- Only the two writes of the run table change it. -/
theorem Write.runs_apply {s s' : Store} {w : Write} (hw : w.apply s = .ok s')
    (hins : ∀ r, w ≠ .insertRun r) (hupd : ∀ r, w ≠ .updateRun r) : s'.runs = s.runs := by
  cases w with
  | insertRun r => exact absurd rfl (hins r)
  | updateRun r => exact absurd rfl (hupd r)
  | insertEpic e =>
    replace hw : s.insertEpic e = .ok s' := hw
    unfold Store.insertEpic at hw
    split at hw <;> cases hw
    rfl
  | updateEpic e =>
    replace hw : s.updateEpic e = .ok s' := hw
    unfold Store.updateEpic at hw
    split at hw <;> cases hw
    rfl
  | insertDecision d =>
    replace hw : s.insertDecision d = .ok s' := hw
    unfold Store.insertDecision at hw
    -- the refusal tests the run's earlier decision first, then the epic
    split at hw <;> simp only at hw <;> split at hw <;> cases hw <;> rfl
  | insertEscalation m =>
    replace hw : (s.insertEscalation m).map (·.1) = .ok s' := hw
    unfold Store.insertEscalation at hw
    split at hw <;> cases hw
    rfl
  | resolveEscalation id o now =>
    replace hw : s.resolveEscalation id o now = .ok s' := hw
    unfold Store.resolveEscalation at hw
    split at hw <;> cases hw
    rfl
  | storePattern r =>
    replace hw : (s.patterns.store r).map (fun b => { s with patterns := b.1 }) = .ok s' := hw
    cases hb : s.patterns.store r <;> rw [hb] at hw <;> cases hw
    rfl

/-- The rules of the run table: run ids are distinct, and two running runs of one epic are
the same run. -/
structure RunsKept (s : Store) : Prop where
  ids : (s.runs.map (·.runId)).Nodup
  oneRunning : ∀ x ∈ s.runs, ∀ y ∈ s.runs, x.epicId = y.epicId →
    x.status = .running → y.status = .running → x.runId = y.runId

namespace RunsKept

/-- A list whose entries all have one run id, and whose run ids are distinct, has at most
one entry. -/
theorem length_le_one_of_same_id (xs : List Run) (hnd : (xs.map (·.runId)).Nodup)
    (hsame : ∀ x ∈ xs, ∀ y ∈ xs, x.runId = y.runId) : xs.length ≤ 1 := by
  match xs, hnd, hsame with
  | [], _, _ => simp
  | [_], _, _ => simp
  | x :: y :: rest, hnd, hsame =>
    have hxy : x.runId = y.runId := hsame x (by simp) y (by simp)
    simp [hxy] at hnd

/-- Under the rules, an epic has at most one running run. -/
theorem runningCount_le_one {s : Store} (h : RunsKept s) (e : String) : s.runningCount e ≤ 1 := by
  unfold Store.runningCount
  apply length_le_one_of_same_id
  · exact h.ids.sublist (List.filter_sublist.map _)
  · intro x hx y hy
    simp only [List.mem_filter, Bool.and_eq_true, beq_iff_eq] at hx hy
    exact h.oneRunning x hx.1 y hy.1 (hx.2.1.trans hy.2.1.symm) hx.2.2 hy.2.2

/-- The empty table keeps the rules. -/
theorem empty : RunsKept ({} : Store) := ⟨List.nodup_nil, by simp⟩

/-- Recording a run keeps the rules: its id is new, and it is no second running run. -/
theorem insertRun {s s' : Store} {r : Run} (h : RunsKept s) (hw : s.insertRun r = .ok s') :
    RunsKept s' := by
  obtain ⟨hfresh, hsec, rfl⟩ := Store.insertRun_eq_ok hw
  have hsec' : ∀ x ∈ s.runs, x.epicId = r.epicId → x.status = .running → r.status ≠ .running := by
    intro x hx he hst hr
    simp only [Store.secondRunning, hr, beq_self_eq_true, Bool.true_and, List.any_eq_false,
      Bool.and_eq_true, beq_iff_eq, not_and] at hsec
    exact hsec x hx he hst
  constructor
  · simp only [List.map_append, List.map_cons, List.map_nil, List.nodup_append, List.nodup_cons,
      List.not_mem_nil, not_false_eq_true, List.nodup_nil, and_self, List.mem_map,
      List.mem_singleton, true_and]
    refine ⟨h.ids, ?_⟩
    rintro _ ⟨x, hx, rfl⟩ _ rfl
    exact hfresh x hx
  · simp only [List.mem_append, List.mem_singleton]
    rintro x (hx | rfl) y (hy | rfl) hxy hxs hys
    · exact h.oneRunning x hx y hy hxy hxs hys
    · exact absurd hys (hsec' x hx hxy hxs)
    · exact absurd hxs (hsec' y hy hxy.symm hys)
    · rfl

/-- Two rows with one run id are one row, when the ids are distinct. -/
theorem eq_of_runId {s : Store} (h : RunsKept s) {x y : Run} (hx : x ∈ s.runs) (hy : y ∈ s.runs)
    (hid : x.runId = y.runId) : x = y :=
  List.inj_on_of_nodup_map h.ids hx hy hid

/-- Writing a run's latest state keeps the rules: the new status makes no second running
run among the other runs. -/
theorem updateRun {s s' : Store} {r : Run} (h : RunsKept s) (hw : s.updateRun r = .ok s') :
    RunsKept s' := by
  obtain ⟨old, f, hold, hsec, hf, rfl⟩ := Store.updateRun_eq_ok hw
  have hold_mem : old ∈ s.runs := List.mem_of_find?_eq_some hold
  have hold_id : old.runId = r.runId := by simpa using List.find?_some hold
  -- A running run of the epic of `old` other than the run itself refutes `hsec`.
  have hother : ∀ y ∈ s.runs, y.runId ≠ r.runId → y.epicId = old.epicId →
      y.status = .running → r.status ≠ .running := by
    intro y hy hid he hst hr
    simp only [Store.secondRunning, hr, beq_self_eq_true, Bool.true_and, List.any_eq_false,
      List.mem_filter, bne_iff_ne, ne_eq, Bool.and_eq_true, beq_iff_eq, not_and, and_imp] at hsec
    exact hsec y hy hid he hst
  -- Every row that carries the run's id is `old`.
  have hrow : ∀ x ∈ s.runs, x.runId = r.runId → x = old := fun x hx hid =>
    h.eq_of_runId hx hold_mem (hid.trans hold_id.symm)
  constructor
  · rw [List.map_map]
    have : (·.runId) ∘ f = (·.runId) := funext hf.runId
    rw [this]
    exact h.ids
  · simp only [List.mem_map]
    rintro _ ⟨x, hx, rfl⟩ _ ⟨y, hy, rfl⟩ hxy hxs hys
    rw [hf.epicId, hf.epicId] at hxy
    rw [hf.runId, hf.runId]
    by_cases hx' : x.runId = r.runId <;> by_cases hy' : y.runId = r.runId
    · exact hx'.trans hy'.symm
    · rw [hrow x hx hx'] at hxy
      rw [hf.other y hy'] at hys
      exact absurd (hf.status x hx' ▸ hxs) (hother y hy hy' hxy.symm hys)
    · rw [hrow y hy hy'] at hxy
      rw [hf.other x hx'] at hxs
      exact absurd (hf.status y hy' ▸ hys) (hother x hx hx' hxy hxs)
    · rw [hf.other x hx'] at hxs
      rw [hf.other y hy'] at hys
      exact h.oneRunning x hx y hy hxy hxs hys

/-- The rules read the run table only. -/
theorem of_runs_eq {s s' : Store} (h : RunsKept s) (he : s'.runs = s.runs) : RunsKept s' := by
  obtain ⟨ids, one⟩ := h
  rw [← he] at ids one
  exact ⟨ids, one⟩

/-- Every write keeps the rules: only the two writes of the run table touch it. -/
theorem apply {s s' : Store} {w : Write} (h : RunsKept s) (hw : w.apply s = .ok s') :
    RunsKept s' := by
  cases w with
  | insertRun r => exact h.insertRun hw
  | updateRun r => exact h.updateRun hw
  | insertEpic e => exact h.of_runs_eq (Write.runs_apply hw (fun _ => nofun) (fun _ => nofun))
  | updateEpic e => exact h.of_runs_eq (Write.runs_apply hw (fun _ => nofun) (fun _ => nofun))
  | insertDecision d => exact h.of_runs_eq (Write.runs_apply hw (fun _ => nofun) (fun _ => nofun))
  | insertEscalation m => exact h.of_runs_eq (Write.runs_apply hw (fun _ => nofun) (fun _ => nofun))
  | resolveEscalation id o now =>
    exact h.of_runs_eq (Write.runs_apply hw (fun _ => nofun) (fun _ => nofun))
  | storePattern r => exact h.of_runs_eq (Write.runs_apply hw (fun _ => nofun) (fun _ => nofun))

/-- A write keeps the rules whether it is refused or not. -/
theorem afterWrite {s : Store} (h : RunsKept s) (w : Write) : RunsKept (Store.afterWrite s w) := by
  unfold Store.afterWrite
  split
  · rename_i s' hw
    exact h.apply hw
  · exact h

/-- Writes in any order keep the rules. -/
theorem applyAll {s : Store} (h : RunsKept s) (ws : List Write) : RunsKept (Store.applyAll s ws) := by
  induction ws generalizing s with
  | nil => exact h
  | cons w ws ih => exact ih (h.afterWrite w)

end RunsKept

/-- A run with a new id that would be a second running run of its epic is refused as a
rejected spawn. -/
theorem insertRun_second_running (s : Store) (r : Run) (hfresh : ∀ x ∈ s.runs, x.runId ≠ r.runId)
    (hr : r.status = .running)
    (hbusy : ∃ x ∈ s.runs, x.epicId = r.epicId ∧ x.status = .running) :
    s.insertRun r = .error (Store.runConflict r.epicId) := by
  obtain ⟨x, hx, he, hst⟩ := hbusy
  have hnew : s.runs.any (·.runId == r.runId) = false := by
    simpa using hfresh
  have hsec : Store.secondRunning s.runs r.epicId r.status = true := by
    simp only [Store.secondRunning, hr, beq_self_eq_true, Bool.true_and, List.any_eq_true,
      Bool.and_eq_true, beq_iff_eq]
    exact ⟨x, hx, he, hst⟩
  simp [Store.insertRun, hnew, hsec]

/-- A run on record that would become a second running run of its epic is refused as a
rejected spawn. The epic is the one the run was recorded under. -/
theorem updateRun_second_running (s : Store) (r old : Run) (hold : s.run? r.runId = some old)
    (hr : r.status = .running)
    (hbusy : ∃ y ∈ s.runs, y.runId ≠ r.runId ∧ y.epicId = old.epicId ∧ y.status = .running) :
    s.updateRun r = .error (Store.runConflict r.epicId) := by
  obtain ⟨y, hy, hid, he, hst⟩ := hbusy
  have hsec : Store.secondRunning (s.runs.filter (·.runId != r.runId)) old.epicId r.status = true := by
    simp only [Store.secondRunning, hr, beq_self_eq_true, Bool.true_and, List.any_eq_true,
      List.mem_filter, bne_iff_ne, ne_eq, Bool.and_eq_true, beq_iff_eq]
    exact ⟨y, ⟨hy, hid⟩, he, hst⟩
  simp [Store.updateRun, hold, hsec]

/-- A run id already on record is refused as a fault of the worker. -/
theorem insertRun_reused_id (s : Store) (r : Run) (htaken : ∃ x ∈ s.runs, x.runId = r.runId) :
    s.insertRun r =
      .error (.worker ("worker reused run id " ++ r.runId ++ " (already recorded)")) := by
  obtain ⟨x, hx, hid⟩ := htaken
  have : s.runs.any (·.runId == r.runId) = true := List.any_eq_true.2 ⟨x, hx, by simp [hid]⟩
  simp [Store.insertRun, this]

end Store

/-- Starting a run for an epic whose store holds a running run fails at once, as a rejected
spawn, with the host and the conductor as they were. The answer does not mention the
worker, so the worker is never invoked. -/
theorem startRun_of_running (w : Worker Eng) (reg : Registry) (hd : SessionHandle)
    (cardId cardPath objective : String) (t : Conductor) (h : Host) (r : Run)
    (hr : h.store.runningRun? hd.epicId = some r) :
    SessionBook.startRun w reg hd cardId cardPath objective t h =
      .done h t (.error (.spawnRejected (match reg.get? hd.stage with
        | some _ => "epic " ++ hd.epicId ++ " already has RUNNING run " ++ r.runId ++ " (" ++
            r.stage.val ++ ")"
        | none => "'" ++ hd.stage.val ++ "' is not a registered stage"))) := by
  unfold SessionBook.startRun
  cases reg.get? hd.stage with
  | none => rfl
  | some d =>
    simp only [Eng.store, Eng.host, Eng.fail, Job.bind_apply, Job.world_apply, Flow.bind,
      Job.pure_apply, hr, Job.throw_apply]

/-- The run table under any writes. From the empty store, after any writes in any order, an
epic has at most one running run. A write that would make a second running run of an epic
is refused as a rejected spawn and leaves the store as it was. A reused run id is refused
as a fault of the worker and leaves the store as it was. A start for an epic whose store
holds a running run fails before the worker is asked anything. -/
theorem one_running_run :
    (∀ (ws : List Store.Write) (e : String), (Store.applyAll {} ws).runningCount e ≤ 1) ∧
    (∀ (s : Store) (r : Run), (∀ x ∈ s.runs, x.runId ≠ r.runId) → r.status = .running →
      (∃ x ∈ s.runs, x.epicId = r.epicId ∧ x.status = .running) →
      s.insertRun r = .error (Store.runConflict r.epicId) ∧
        Store.afterWrite s (.insertRun r) = s) ∧
    (∀ (s : Store) (r old : Run), s.run? r.runId = some old → r.status = .running →
      (∃ y ∈ s.runs, y.runId ≠ r.runId ∧ y.epicId = old.epicId ∧ y.status = .running) →
      s.updateRun r = .error (Store.runConflict r.epicId) ∧
        Store.afterWrite s (.updateRun r) = s) ∧
    (∀ (s : Store) (r : Run), (∃ x ∈ s.runs, x.runId = r.runId) →
      s.insertRun r = .error (.worker ("worker reused run id " ++ r.runId ++ " (already recorded)")) ∧
        Store.afterWrite s (.insertRun r) = s) ∧
    (∀ (w : Worker Eng) (reg : Registry) (hd : SessionHandle) (cardId cardPath objective : String)
      (t : Conductor) (h : Host), (h.store.runningRun? hd.epicId).isSome →
      ∃ msg, SessionBook.startRun w reg hd cardId cardPath objective t h =
        .done h t (.error (.spawnRejected msg))) := by
  refine ⟨fun ws e => (Store.RunsKept.empty.applyAll ws).runningCount_le_one e, ?_, ?_, ?_, ?_⟩
  · intro s r hfresh hr hbusy
    have he := Store.insertRun_second_running s r hfresh hr hbusy
    exact ⟨he, by simp [Store.afterWrite, Store.Write.apply, he]⟩
  · intro s r old hold hr hbusy
    have he := Store.updateRun_second_running s r old hold hr hbusy
    exact ⟨he, by simp [Store.afterWrite, Store.Write.apply, he]⟩
  · intro s r htaken
    have he := Store.insertRun_reused_id s r htaken
    exact ⟨he, by simp [Store.afterWrite, Store.Write.apply, he]⟩
  · intro w reg hd cardId cardPath objective t h hbusy
    obtain ⟨r, hr⟩ := Option.isSome_iff_exists.1 hbusy
    exact ⟨_, startRun_of_running w reg hd cardId cardPath objective t h r hr⟩

/-- A running run of `epic-1` in the stage `BUILD`, by its run id. -/
def buildRun (runId : String) : Run :=
  { runId, epicId := "epic-1", stage := ⟨"BUILD"⟩, sessionId := "epic-1_BUILD_1", iteration := 1,
    cardId := "card-1", status := .running }

/-- A second running run of `epic-1` is refused as a rejected spawn. -/
theorem second_build_run_refused :
    ({ runs := [buildRun "run-1"] } : Store).insertRun (buildRun "run-2") =
      .error (Store.runConflict "epic-1") :=
  (one_running_run.2.1 { runs := [buildRun "run-1"] } (buildRun "run-2") (by decide) rfl
    ⟨_, List.mem_singleton_self _, rfl, rfl⟩).1

/-- The run `sim-run-1` of the stage `DESIGN` of an epic. -/
def firstDesignRun (epicId : String) : Run :=
  { runId := "sim-run-1", epicId, stage := ⟨"DESIGN"⟩, sessionId := epicId ++ "_DESIGN_1"
    iteration := 1, cardId := "card-1", status := .running }

/-- Conductors that each keep a scripted world of their own number their runs alike: every fresh
world names its first run `sim-run-1`. In one run table, the first run of a second epic is then
refused as a reused id, a fault of the worker, once the first epic's run is recorded. -/
theorem fresh_worlds_share_run_ids :
    (∀ (sc : Script) (reg : Registry) (inv : Invocation),
      (({} : ScriptedWorld).invoke sc reg inv).2 = "sim-run-1") ∧
    ({ runs := [firstDesignRun "epic-00000001"] } : Store).insertRun
        (firstDesignRun "epic-00000002") =
      .error (.worker "worker reused run id sim-run-1 (already recorded)") :=
  ⟨fun _ _ _ => rfl,
    Store.insertRun_reused_id _ _ ⟨_, List.mem_singleton_self _, rfl⟩⟩

end EpicFlow
