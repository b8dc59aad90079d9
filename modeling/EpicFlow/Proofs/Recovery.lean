import EpicFlow.Proofs.Cleanup
import EpicFlow.Proofs.DecisionLog
import EpicFlow.Proofs.Escalations

/-!
# Recovering interrupted runs

After a restart, `Crew.recover` goes through the runs the store holds as running, in the order
they were recorded, and asks the worker about each. A run whose worker is gone is stored failed
as interrupted; unless its epic has ended, the router's decision for it hands the epic to an
operator, which logs the decision, blocks the epic for the interruption and raises an
escalation. Runs whose worker is alive, and everything else, are left as they were.

The worker's answers are any liveness answers (`alive`), given by status queries that leave
the store and the count of escalations alone. The recovery is proved by an invariant over the
runs gone through so far (`Crew.Recovering`), from the runs it closed and those whose epic it
handed to an operator. A run whose worker is alive changes nothing; closing a run keeps the
invariant (`Recovering.close`), and so does handing its epic over (`Recovering.hand`). The
epic's status is read from the store as it is when its run comes up, but an epic handed over is
blocked, and so still open, as it was at the start (`Recovering.row_open`): the epics handed
over are those open at the start.

An operator's decision reaches the store as the decision itself, never as the refusal that
`Crew.apply` logs when the store turns a decision down: the refusal names the same run, and the
store turns it down for the same reason (`EpicPolicy.advance_of_same_run`).

Main statements:

* `Crew.apply_human_ends`: routing an operator's decision logs it and escalates it, or fails.
* `recover_closes_interrupted`: what a recovery that returns has done to the store.
-/

set_option autoImplicit false

namespace EpicFlow

/-! ### The store -/

namespace Store

/-- Writing the state of a run whose row is the only one of its id, as the run finished. -/
theorem updateRun_finish {s s' : Store} {run : Run} {st : RunStatus} {reason : Option Rationale}
    {now : String} (hrow : ∀ x ∈ s.runs, x.runId = run.runId → x = run)
    (h : s.updateRun (run.finish st reason now) = .ok s') :
    s' = { s with runs := s.runs.map fun x =>
      if x.runId = run.runId then storedRun (run.finish st reason now) else x } := by
  unfold updateRun at h
  split at h
  · cases h
  split at h
  · cases h
  cases h
  -- the row of the run is the run itself, so its new state is the finished run
  congr 1
  refine List.map_congr_left fun x hx => ?_
  by_cases hid : x.runId = run.runId
  · obtain rfl := hrow x hx hid
    simp [Run.finish]
  · simp [hid, Run.finish]

/-- Another epic's escalation leaves the open escalation of an epic as it was. -/
theorem openEscalation?_insertEscalation_other {s s' : Store} {m : EscalationMessage} {n : Nat}
    {id : String} (h : s.insertEscalation m = .ok (s', n)) (hid : id ≠ m.epicId) :
    s'.openEscalation? id = s.openEscalation? id := by
  unfold insertEscalation at h
  split at h
  · cases h
    simp [openEscalation?, Ne.symm hid]
  · cases h

end Store

namespace EpicPolicy

variable {p : EpicPolicy} {s s' : Store} {id now : String}

/-- The escalation of an epic leaves the open escalations of the other epics as they were. -/
theorem escalate_other {e : Epic} {d : Decision} {home : Option String} {k : Nat}
    (h : p.escalate s e d home now = .ok (s', k)) (hid : id ≠ e.id) :
    s'.openEscalation? id = s.openEscalation? id := by
  unfold escalate at h
  dsimp only at h
  split at h
  · split at h
    · simp only [Except.ok.injEq, Prod.mk.injEq] at h
      rw [← h.1]
    · exact Store.openEscalation?_insertEscalation_other h hid
  · exact Store.openEscalation?_insertEscalation_other h hid

/-- An escalation leaves the epics and the decisions as they were. -/
theorem escalate_keeps {e : Epic} {d : Decision} {home : Option String} {k : Nat}
    (h : p.escalate s e d home now = .ok (s', k)) :
    s'.epics = s.epics ∧ s'.runs = s.runs ∧ s'.decisions = s.decisions := by
  rcases escalate_eq_ok h with rfl | ⟨m, hm⟩
  · exact ⟨rfl, rfl, rfl⟩
  · exact Store.insertEscalation_eq_ok hm

/-- An operator's decision leaves the stored row of its epic blocked for the decision's
rationale. -/
theorem advance_blocks {d : Decision} {e : Epic} (h : p.advance s id d now = .ok (s', e))
    (hd : d.target = .human) :
    ∃ y, s'.row? id = some y ∧ y.status = .blocked ∧ y.blockedReason = some d.rationale := by
  obtain ⟨⟨y, hy, hys, -, hyr⟩, -, -, hid⟩ := advance_row h
  obtain ⟨x, -, -, -, rfl, -⟩ := advance_eq_ok h
  rw [moved_of_human hd] at hys hyr
  rw [hid] at hy
  exact ⟨y, hy, hys, hyr⟩

/-- The store turns a decision down only for its target, its epic or its run: a decision of
the same epic and run whose target the stage table accepts goes through wherever another one
did. -/
theorem advance_of_same_run {d d' : Decision} {now' : String} {r : Store × Epic}
    (h : p.advance s id d' now' = .ok r) (hacc : p.registry.accepts d.target = true)
    (hrun : d.runId = d'.runId) (hepic : d.epicId = d'.epicId) (now : String) :
    ∃ r', p.advance s id d now = .ok r' := by
  unfold advance at h ⊢
  obtain ⟨e, he, h⟩ := except_bind_eq_ok h
  obtain ⟨u, hu, h⟩ := except_bind_eq_ok h
  by_cases hacc' : p.registry.accepts d'.target = true
  · simp only [hacc', Bool.not_true, Bool.false_eq_true, if_false] at h
    obtain ⟨s₁, h₁, h⟩ := except_bind_eq_ok h
    obtain ⟨s₂, h₂, -⟩ := except_bind_eq_ok h
    -- the decision is logged as the other one was: the refusal reads only the run and the epic
    have hins : s.insertDecision d = .ok { s with decisions := s.decisions ++ [d] } := by
      unfold Store.insertDecision at h₁ ⊢
      rw [hrun, hepic]
      cases hr : d'.runId <;> simp only [hr] at h₁ ⊢ <;> split at h₁
      · cases h₁
      · rename_i hc
        rw [if_neg hc]
      · cases h₁
      · rename_i hc
        rw [if_neg hc]
    -- and the moved epic is written back to the same row
    have hupd : ∃ s₃, ({ s with decisions := s.decisions ++ [d] } : Store).updateEpic (p.moved e d now) =
        .ok s₃ := by
      rw [Store.insertDecision_eq_ok h₁] at h₂
      unfold Store.updateEpic at h₂ ⊢
      rw [moved_id]
      rw [moved_id] at h₂
      split at h₂
      · exact ⟨_, if_pos ‹_›⟩
      · cases h₂
    obtain ⟨s₃, h₃⟩ := hupd
    refine ⟨(s₃, p.moved e d now), ?_⟩
    simp only [he, hu, bind, Except.bind, hacc, Bool.not_true, Bool.false_eq_true, if_false, pure,
      Except.pure, hins, h₃]
  · simp only [hacc', Bool.not_false, if_true] at h
    cases h

end EpicPolicy

/-! ### Routing an operator's decision -/

namespace Crew

variable {c : Crew}

/-- How an operator's decision that moved an epic to `e` in the store `s₁` is escalated, from the
count of escalations `n`: kept in the store (a new escalation, or the open one of the same stage
and rationale) on the store's channel, one more in the count on the log's. -/
def Escalated (c : Crew) (s₁ : Store) (e : Epic) (d : Decision) (n : Nat) (s' : Store) (n' : Nat) :
    Prop :=
  (c.sink = .store ∧ n' = n ∧ ∃ now k, c.policy.escalate s₁ e d c.home now = .ok (s', k)) ∨
    (c.sink = .log ∧ s' = s₁ ∧ n' = n + 1)

namespace Escalated

variable {s₁ s' : Store} {e : Epic} {d : Decision} {n n' : Nat}

/-- An escalation leaves the epics, the runs, the decisions and the open escalations of the
other epics as they were, and counts one more on the log's channel. -/
theorem frame (h : c.Escalated s₁ e d n s' n') :
    s'.epics = s₁.epics ∧ s'.runs = s₁.runs ∧ s'.decisions = s₁.decisions ∧
      (∀ id, id ≠ e.id → s'.openEscalation? id = s₁.openEscalation? id) ∧
      n' = n + if c.sink = .log then 1 else 0 := by
  rcases h with ⟨hsink, rfl, now, k, hesc⟩ | ⟨hsink, rfl, rfl⟩
  · obtain ⟨hepics, hruns, hdecs⟩ := EpicPolicy.escalate_keeps hesc
    exact ⟨hepics, hruns, hdecs, fun _ hid => EpicPolicy.escalate_other hesc hid, by simp [hsink]⟩
  · exact ⟨rfl, rfl, rfl, fun _ _ => rfl, by simp [hsink]⟩

/-- On the store's channel, the epic has an open escalation for the decision's rationale. -/
theorem opens (h : c.Escalated s₁ e d n s' n') (hsink : c.sink = .store) :
    ∃ r, s'.openEscalation? e.id = some r ∧ r.message.rationale = d.rationale := by
  rcases h with ⟨-, -, now, k, hesc⟩ | ⟨hlog, -, -⟩
  · exact EpicPolicy.escalate_opens hesc
  · rw [hsink] at hlog
    cases hlog

end Escalated

/-- Routing an operator's decision logs that decision and moves the epic by it, then escalates
it on the crew's channel, or fails. When the store turns the decision down, the refusal that
would be logged instead names the same run and is turned down too. -/
theorem apply_human_ends {d : Decision} (hd : d.target = .human) (t : Conductor) (x : Host) :
    (c.apply d t x).Ends StoreKept fun x' t' r => ∀ e, r = .ok e →
      ∃ s₁, c.policy.advance x.store d.epicId d x.stamp = .ok (s₁, e) ∧
        c.Escalated s₁ e d t.logged x'.store t'.logged := by
  refine apply_ends_of (fun _ _ h => by cases h) (fun s e hadv => ?_)
    fun reason cur human hadv _ hcur _ hhuman => ?_
  · rw [if_pos (by simp [hd]), Job.bind_apply]
    refine (escalate_ends e d t _ fun now => EpicPolicy.escalate_ok_of_advance _ now hadv).bind
      (fun k t' x' h => ?_) fun _ _ _ h => by
        obtain ⟨_, hk⟩ := h.1
        cases hk
    obtain ⟨-, hstore, hlog⟩ := h
    intro e' he'
    cases he'
    refine ⟨s, hadv, ?_⟩
    cases hsink : c.sink with
    | store =>
      obtain ⟨rfl, now, k', hesc⟩ := hstore hsink
      exact Or.inl ⟨hsink, rfl, now, k', hesc⟩
    | log =>
      obtain ⟨hx', rfl⟩ := hlog hsink
      exact Or.inr ⟨hsink, hx', rfl⟩
  · -- the refusal names the same run, so the store turns it down as well
    unfold Eng.onStore
    rw [Job.bind_apply, Eng.store_bind]
    dsimp only
    cases hrefused : c.policy.advance x.store cur.id human x.stamp with
    | ok r =>
      subst hhuman
      obtain ⟨r', hr'⟩ := EpicPolicy.advance_of_same_run (d := d) hrefused
        (Registry.accepts_nonstage _ _ fun _ h => by rw [hd] at h; cases h) rfl hcur.symm x.stamp
      rw [hcur, hadv] at hr'
      cases hr'
    | error _ =>
      simp only [Job.throw_apply, Flow.bind, Flow.ends_done]
      exact fun _ h => by cases h

/-! ### The invariant of a recovery -/

/-- A decision that hands the run's epic to an operator because the run was interrupted. -/
def Interrupts (run : Run) (d : Decision) : Prop :=
  d.epicId = run.epicId ∧ d.runId = some run.runId ∧ d.target = .human ∧ d.rationale = .interrupted

/-- The router hands the epic of a run closed as interrupted to an operator, for the
interruption. -/
theorem interrupts_routeRun (reg : Registry) (run : Run) (now now' : String) :
    Interrupts run (routeRun reg run.epicId (run.finish .failed (some .interrupted) now) now') := by
  simp [Interrupts, routeRun, Run.finish, Decision.human]

/-- A run as recovery stores it when its worker is gone. -/
def closedRun (run : Run) (now : String) : Run := Store.storedRun (run.finish .failed (some .interrupted) now)

/-- What a recovery has done, from the store `s₀` and the count of escalations `n₀`, once it
closed the runs `closed` and handed the epics of the runs `handed` to operators: it now has the
store `s` and the count `n`. -/
structure Recovering (c : Crew) (s₀ : Store) (n₀ : Nat) (closed handed : List Run) (s : Store)
    (n : Nat) : Prop where
  /-- the closed runs are stored failed as interrupted, and the other runs as they were -/
  runs : ∃ stamp : String → String, s.runs = s₀.runs.map fun run =>
    if run.runId ∈ closed.map (·.runId) then closedRun run (stamp run.runId) else run
  /-- one decision is logged for each handed run, after the decisions there were -/
  decisions : ∃ ds, List.Forall₂ Interrupts handed ds ∧ s.decisions = s₀.decisions ++ ds
  /-- the epic of a handed run is blocked for the interruption -/
  blocked : ∀ run ∈ handed, ∃ e, s.row? run.epicId = some e ∧ e.status = .blocked ∧
    e.blockedReason = some .interrupted
  /-- with an open escalation for it, when the crew keeps escalations in the store -/
  escalated : c.sink = .store → ∀ run ∈ handed,
    ∃ r, s.openEscalation? run.epicId = some r ∧ r.message.rationale = .interrupted
  /-- the other epics, and their open escalations, are as they were -/
  others : ∀ id, id ∉ handed.map (·.epicId) →
    s.row? id = s₀.row? id ∧ s.openEscalation? id = s₀.openEscalation? id
  /-- on the log's channel, one escalation is counted for each handed run -/
  counted : n = n₀ + if c.sink = .log then handed.length else 0
  /-- a handed run's epic was stored and open at the start -/
  wasOpen : ∀ run ∈ handed, ∃ e, s₀.row? run.epicId = some e ∧ e.status.isTerminal = false

namespace Recovering

variable {s₀ s s₁ : Store} {n₀ n : Nat} {closed handed : List Run} {run : Run}

theorem start (c : Crew) (s₀ : Store) (n₀ : Nat) : Recovering c s₀ n₀ [] [] s₀ n₀ where
  runs := ⟨fun _ => "", by simp⟩
  decisions := ⟨[], .nil, by simp⟩
  blocked := by simp
  escalated := by simp
  others := fun _ _ => ⟨rfl, rfl⟩
  counted := by simp
  wasOpen := by simp

/-- Closing a run that has not been closed yet writes its row, the only one of its id, and
leaves the rows of the other runs as they were. -/
theorem runs_close (h : Recovering c s₀ n₀ closed handed s n) (hids : (s₀.runs.map (·.runId)).Nodup)
    (hrun : run ∈ s₀.runs) (hnew : run.runId ∉ closed.map (·.runId)) {now : String}
    (hupd : s.updateRun (run.finish .failed (some .interrupted) now) = .ok s₁) :
    s₁ = { s with runs := s.runs.map fun x => if x.runId = run.runId then closedRun run now else x } ∧
      ∃ stamp : String → String, s₁.runs = s₀.runs.map fun x =>
        if x.runId ∈ (closed ++ [run]).map (·.runId) then closedRun x (stamp x.runId) else x := by
  obtain ⟨stamp, hruns⟩ := h.runs
  have hsame : ∀ {x y : Run}, x ∈ s₀.runs → y ∈ s₀.runs → x.runId = y.runId → x = y :=
    fun hx hy hid => List.inj_on_of_nodup_map hids hx hy hid
  -- closing keeps the run id, so the row of the run's id is still the run itself
  have hid : ∀ x, (if x.runId ∈ closed.map (·.runId) then closedRun x (stamp x.runId) else x).runId =
      x.runId := by
    intro x
    split <;> rfl
  have hrow : ∀ x ∈ s.runs, x.runId = run.runId → x = run := by
    intro x hx hxid
    rw [hruns] at hx
    obtain ⟨y, hy, rfl⟩ := List.mem_map.1 hx
    rw [hid] at hxid
    obtain rfl := hsame hy hrun hxid
    simp [hnew]
  have hs₁ := Store.updateRun_finish hrow hupd
  refine ⟨hs₁, fun x => if x = run.runId then now else stamp x, ?_⟩
  rw [hs₁, hruns, List.map_map]
  refine List.map_congr_left fun y hy => ?_
  by_cases hyid : y.runId = run.runId
  · obtain rfl := hsame hy hrun hyid
    rw [Function.comp_apply, if_neg hnew, if_pos rfl, if_pos (by simp)]
    simp only [closedRun, if_true]
  · simp only [Function.comp_apply, hid, hyid, if_false, List.map_append, List.map_cons, List.map_nil,
      List.mem_append, List.mem_singleton, or_false]

/-- Closing a run that has not been closed yet keeps the invariant, with the run closed. -/
theorem close (h : Recovering c s₀ n₀ closed handed s n) (hids : (s₀.runs.map (·.runId)).Nodup)
    (hrun : run ∈ s₀.runs) (hnew : run.runId ∉ closed.map (·.runId)) {now : String}
    (hupd : s.updateRun (run.finish .failed (some .interrupted) now) = .ok s₁) :
    Recovering c s₀ n₀ (closed ++ [run]) handed s₁ n := by
  -- only the runs change, so every other field carries over as it is
  obtain ⟨rfl, hruns⟩ := h.runs_close hids hrun hnew hupd
  exact { h with runs := hruns }

/-- An epic stored now is open exactly when it was open at the start: the epics handed over
are blocked, and were open, and the others are as they were. -/
theorem row_open (h : Recovering c s₀ n₀ closed handed s n) {id : String} {e : Epic}
    (hrow : s.row? id = some e) : ∃ e₀, s₀.row? id = some e₀ ∧ e₀.status.isTerminal = e.status.isTerminal := by
  by_cases hid : id ∈ handed.map (·.epicId)
  · obtain ⟨r, hr, rfl⟩ := List.mem_map.1 hid
    obtain ⟨e', he', hblocked, -⟩ := h.blocked r hr
    rw [hrow] at he'
    cases he'
    obtain ⟨e₀, he₀, hopen⟩ := h.wasOpen r hr
    exact ⟨e₀, he₀, by rw [hopen, hblocked]; rfl⟩
  · rw [← (h.others id hid).1]
    exact ⟨e, hrow, rfl⟩

/-- Handing the epic of a closed run to an operator keeps the invariant, with the run handed:
the decision is logged, the epic blocked for the interruption and the escalation delivered,
and the other epics and the runs stay as they were. -/
theorem hand (h : Recovering c s₀ n₀ closed handed s n) {d : Decision} {e : Epic} {now : String}
    {s₂ : Store} {n' : Nat} (hd : Interrupts run d)
    (hadv : c.policy.advance s run.epicId d now = .ok (s₁, e)) (hesc : c.Escalated s₁ e d n s₂ n') :
    Recovering c s₀ n₀ closed (handed ++ [run]) s₂ n' := by
  obtain ⟨hepics, hruns, hdecs, hesc₂, hcount⟩ := hesc.frame
  obtain ⟨x, hx, hopen, -, rfl, f, -, hs₁⟩ := EpicPolicy.advance_eq_ok hadv
  have heid : (c.policy.moved { x with history := s.history run.epicId } d now).id = run.epicId :=
    (EpicPolicy.advance_answer hadv).1
  have hmoves := EpicPolicy.advance_movesOnly hadv
  have hrow : ∀ id, s₂.row? id = s₁.row? id := fun id => by
    unfold Store.row?
    rw [hepics]
  -- the row and the open escalation of another epic are those before the move
  have hother : ∀ id, id ≠ run.epicId →
      s₂.row? id = s.row? id ∧ s₂.openEscalation? id = s.openEscalation? id := by
    intro id hid
    refine ⟨(hrow id).trans (hmoves.2 id hid), ?_⟩
    rw [hesc₂ id (by rw [heid]; exact hid)]
    unfold Store.openEscalation?
    rw [hmoves.1]
  -- the moved epic is blocked for the interruption
  have hblocked : ∃ y, s₂.row? run.epicId = some y ∧ y.status = .blocked ∧
      y.blockedReason = some .interrupted := by
    obtain ⟨y, hy, hys, hyr⟩ := EpicPolicy.advance_blocks hadv hd.2.2.1
    rw [← hrow] at hy
    exact ⟨y, hy, hys, hyr.trans (congrArg some hd.2.2.2)⟩
  have hmem : ∀ r ∈ handed ++ [run], r.epicId ≠ run.epicId → r ∈ handed := by
    intro r hr hne
    rcases List.mem_append.1 hr with hr | hr
    · exact hr
    · rw [List.mem_singleton.1 hr] at hne
      exact absurd rfl hne
  refine ⟨?runs, ?decisions, ?blocked, ?escalated, ?others, ?counted, ?wasOpen⟩
  case runs =>
    rw [hruns, hs₁]
    exact h.runs
  case decisions =>
    obtain ⟨ds, hds, hdec⟩ := h.decisions
    refine ⟨ds ++ [d], List.rel_append (R := Interrupts) hds (.cons hd .nil), ?_⟩
    rw [hdecs, hs₁, hdec, List.append_assoc]
  case blocked =>
    intro r hr
    by_cases hid : r.epicId = run.epicId
    · rw [hid]
      exact hblocked
    · rw [(hother _ hid).1]
      exact h.blocked r (hmem r hr hid)
  case escalated =>
    intro hsink r hr
    by_cases hid : r.epicId = run.epicId
    · obtain ⟨k, hk, hkr⟩ := hesc.opens hsink
      rw [heid] at hk
      exact ⟨k, hid ▸ hk, hkr.trans hd.2.2.2⟩
    · rw [(hother _ hid).2]
      exact h.escalated hsink r (hmem r hr hid)
  case others =>
    intro id hid
    simp only [List.map_append, List.map_cons, List.map_nil, List.mem_append, List.mem_singleton,
      not_or] at hid
    rw [(hother id hid.2).1, (hother id hid.2).2]
    exact h.others id hid.1
  case counted =>
    rw [hcount, h.counted, List.length_append]
    by_cases hlog : c.sink = .log <;> simp [hlog]
    omega
  case wasOpen =>
    intro r hr
    by_cases hid : r.epicId = run.epicId
    · obtain ⟨e₀, he₀, ht⟩ := h.row_open hx
      exact ⟨e₀, hid ▸ he₀, ht.trans hopen⟩
    · exact h.wasOpen r (hmem r hr hid)

end Recovering

/-! ### The recovery loop -/

/-- The epic is stored and has not ended. -/
def epicOpen (s : Store) (id : String) : Bool := (s.row? id).any fun e => !e.status.isTerminal

/-- The runs of a list whose worker is gone, by the liveness answers `alive`. -/
def goneOf (alive : String → Bool) (runs : List Run) : List Run := runs.filter fun run => !alive run.runId

/-- The runs of a list whose epic is stored and open in `s`. -/
def openOf (s : Store) (runs : List Run) : List Run := runs.filter fun run => epicOpen s run.epicId

section Loop

variable {alive : String → Bool}
  (hstatus : ∀ id t x, (c.worker.status id t x).Ends StoreKept fun x' t' r =>
    x'.store = x.store ∧ t'.logged = t.logged ∧ ∀ st, r = .ok st → st.isAlive = alive id)
include hstatus

/-- The loop of a recovery, from the runs `done` already gone through: it closes the rest of
the runs whose worker is gone, and hands over the epics of those that are open. -/
theorem recoverRuns_ends {s₀ : Store} {n₀ : Nat} (hids : (s₀.runs.map (·.runId)).Nodup) (rest : List Run) :
    ∀ done : List Run, (done ++ rest).Sublist s₀.runs → ∀ (t : Conductor) (x : Host),
      Recovering c s₀ n₀ (goneOf alive done) (openOf s₀ (goneOf alive done)) x.store t.logged →
      (c.recoverRuns rest ((goneOf alive done).map (·.runId)) t x).Ends StoreKept fun x' t' r =>
        ∀ ids, r = .ok ids → ids = (goneOf alive (done ++ rest)).map (·.runId) ∧
          Recovering c s₀ n₀ (goneOf alive (done ++ rest)) (openOf s₀ (goneOf alive (done ++ rest)))
            x'.store t'.logged := by
  induction rest with
  | nil =>
    intro done _ t x h ids hids
    cases hids
    simpa using h
  | cons run rest ih =>
    intro done hsub t x h
    unfold recoverRuns
    rw [Job.bind_apply]
    refine (hstatus run.runId t x).bind (fun st t₁ x₁ hst => ?_) fun _ _ _ _ _ h => by cases h
    obtain ⟨hstore, hlogged, halive⟩ := hst
    rw [← hstore, ← hlogged] at h
    have halive' : st.isAlive = alive run.runId := halive st rfl
    -- the run is stored, and comes up once
    have hnodup : ((done ++ run :: rest).map (·.runId)).Nodup := hids.sublist (hsub.map _)
    have hrun : run ∈ s₀.runs := hsub.subset (by simp)
    have hnew : run.runId ∉ (goneOf alive done).map (·.runId) := by
      intro hmem
      obtain ⟨r, hr, hrid⟩ := List.mem_map.1 hmem
      rw [List.map_append, List.map_cons, List.nodup_append] at hnodup
      exact hnodup.2.2 _ (List.mem_map.2 ⟨r, List.mem_of_mem_filter hr, rfl⟩) _ (by simp) hrid
    have hsub' : (done ++ [run] ++ rest).Sublist s₀.runs := by simpa using hsub
    split
    · rename_i hlive
      -- a live worker: the run is left as it is
      have hgone : goneOf alive (done ++ [run]) = goneOf alive done := by
        simp [goneOf, ← halive', hlive]
      have hnext := ih (done ++ [run]) hsub' t₁ x₁ (by rwa [hgone])
      rw [hgone, List.append_assoc, List.singleton_append] at hnext
      exact hnext
    · rename_i hdead
      have hdead' : alive run.runId = false := by
        rw [← halive']
        simpa using hdead
      have hgone : goneOf alive (done ++ [run]) = goneOf alive done ++ [run] := by
        simp [goneOf, hdead']
      -- whatever becomes of the epic, the loop goes on with the run closed
      have hnext : ∀ (t' : Conductor) (x' : Host), Recovering c s₀ n₀ (goneOf alive done ++ [run])
          (openOf s₀ (goneOf alive done ++ [run])) x'.store t'.logged →
          (c.recoverRuns rest ((goneOf alive done).map (·.runId) ++ [run.runId]) t' x').Ends StoreKept
            fun x' t' r => ∀ ids, r = .ok ids → ids = (goneOf alive (done ++ run :: rest)).map (·.runId) ∧
              Recovering c s₀ n₀ (goneOf alive (done ++ run :: rest))
                (openOf s₀ (goneOf alive (done ++ run :: rest))) x'.store t'.logged := by
        intro t' x' h'
        have hih := ih (done ++ [run]) hsub' t' x' (by rwa [hgone])
        rw [hgone, List.map_append, List.map_singleton, List.append_assoc, List.singleton_append] at hih
        exact hih
      rw [Eng.stamp_bind, record_bind]
      cases hupd : x₁.store.updateRun (run.finish .failed (some .interrupted) x₁.stamp) with
      | error _ => exact fun _ h => by cases h
      | ok s₁ =>
        have hclose := h.close hids hrun hnew hupd
        dsimp only
        rw [Eng.store_bind]
        cases hget : EpicPolicy.get s₁ run.epicId with
        | error _ => exact fun _ h => by cases h
        | ok e =>
          rw [Eng.ofExcept_ok_bind]
          obtain ⟨row, hrow, rfl⟩ := EpicPolicy.get_eq_ok hget
          have heid : row.id = run.epicId := (Store.row?_spec hrow).2
          obtain ⟨e₀, he₀, hterm⟩ := hclose.row_open hrow
          split
          · rename_i hopen
            -- an open epic goes to an operator
            have hd := interrupts_routeRun c.registry run x₁.stamp
            have hshut : openOf s₀ (goneOf alive done ++ [run]) = openOf s₀ (goneOf alive done) ++ [run] := by
              simp [openOf, epicOpen, he₀, hterm]
              simpa using hopen
            dsimp only
            rw [heid, Eng.stamp_bind, Job.bind_apply]
            refine (apply_human_ends (hd _).2.2.1 t₁ _).bind (fun e' t₂ x₂ hap => ?_)
              fun _ _ _ _ _ h => by cases h
            obtain ⟨s₂, hadv, hesc⟩ := hap e' rfl
            rw [(hd _).1] at hadv
            exact hnext t₂ x₂ (by rw [hshut]; exact hclose.hand (hd _) hadv hesc)
          · rename_i hended
            -- an ended epic is left as it is
            have hshut : openOf s₀ (goneOf alive done ++ [run]) = openOf s₀ (goneOf alive done) := by
              simp [openOf, epicOpen, he₀, hterm]
              simpa using hended
            exact hnext t₁ { x₁ with store := s₁ } (by rw [hshut]; exact hclose)
  
/-- A recovery that returns has closed, in the order they were recorded, exactly the runs held
as running whose worker is gone, and answers their ids. Each is stored failed as
interrupted; the epic of each whose epic was open has the run's operator decision logged, is
blocked for the interruption and has its escalation delivered; every other run and epic is
as it was. -/
theorem recover_closes_interrupted (t : Conductor) (x : Host) (hids : (x.store.runs.map (·.runId)).Nodup) :
    (c.recover t x).Ends StoreKept fun x' t' r => ∀ ids, r = .ok ids →
      ids = (goneOf alive (x.store.runsWithStatus .running)).map (·.runId) ∧
      Recovering c x.store t.logged (goneOf alive (x.store.runsWithStatus .running))
        (openOf x.store (goneOf alive (x.store.runsWithStatus .running))) x'.store t'.logged := by
  unfold recover
  rw [Eng.store_bind]
  exact recoverRuns_ends hstatus hids _ [] (List.filter_sublist) t x (Recovering.start c x.store t.logged)

end Loop

/-- The scripted crew, with a worker that finds no session for any run. -/
def orphaned : Crew := { scripted with worker := { scripted.worker with status := fun _ => pure .missing } }

/-- A store with one fresh epic whose first run was left running. -/
def lostStore : Store where
  epics := [Epic.fresh "/work" "epic-1" "Ship it" ⟨"DESIGN"⟩ "now"]
  runs := [(Run.pending "epic-1" ⟨"DESIGN"⟩ "epic-1_DESIGN_1" 1 "card-1").start "run-1" "now"]

theorem orphaned_run_recovered :
    (∀ id t x, (orphaned.worker.status id t x).Ends StoreKept fun x' t' r =>
      x'.store = x.store ∧ t'.logged = t.logged ∧ ∀ st, r = .ok st → st.isAlive = false) ∧
    (lostStore.runs.map (·.runId)).Nodup ∧
    (orphaned.recover {} { store := lostStore }).Ends StoreKept fun x' t' r => ∀ ids, r = .ok ids →
      ids = (goneOf (fun _ => false) (lostStore.runsWithStatus .running)).map (·.runId) ∧
      Recovering orphaned lostStore 0 (goneOf (fun _ => false) (lostStore.runsWithStatus .running))
        (openOf lostStore (goneOf (fun _ => false) (lostStore.runsWithStatus .running))) x'.store t'.logged := by
  have hstatus : ∀ id t x, (orphaned.worker.status id t x).Ends StoreKept fun x' t' r =>
      x'.store = x.store ∧ t'.logged = t.logged ∧ ∀ st, r = .ok st → st.isAlive = false :=
    fun _ _ _ => ⟨rfl, rfl, fun _ h => by cases h; rfl⟩
  have hids : (lostStore.runs.map (·.runId)).Nodup := by decide
  exact ⟨hstatus, hids, recover_closes_interrupted hstatus {} { store := lostStore } hids⟩

end Crew

end EpicFlow
