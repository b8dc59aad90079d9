import EpicFlow.Proofs.Conduct

/-!
# The attempt quota of an epic

A stage of an epic starts only while it has fewer than `maxAttempts` runs recorded after the
epic's attempt floor (`EpicPolicy.spawnGate`). `Quota` fixes what that gate counts during one
drive of one epic: the stage table, the limit, the epic and its floor. `Quota.count` is the count
of one stage, and `Quota.left` what the limit leaves to all registered stages together, at most
the limit for each of them.

`Quota.Spends` says how a drive may change the state. Runs are only added; a stage grows only up
to the limit; and each run added is paid for out of `Quota.left`, so the runs added never
outnumber the attempts left at the start. It carries `Quota.Fits` along: the rows of the epic
keep the floor, the runs of the epic reach it, and every session kept under a session name of
the epic is a session of the epic at the named stage.

Main statements:

* `Quota.spends_insertRun`: a run of the epic at a registered stage under the limit is paid for.
* `Quota.allows`: the writes of a conductor that record no run spend nothing.
* `HandlesFit.spawn`, `HandlesFit.adopt`: a session handed out or taken over fits its name.
-/

set_option autoImplicit false

namespace EpicFlow

/-! ### Attempts left -/

/-- The attempts that the stages `ds` have left under the limit `m`, when stage `st` has run
`count st` times: `m - count st` for each of them. -/
def attemptsLeft (m : Nat) (count : StageName → Nat) : List StageDescriptor → Nat
  | [] => 0
  | d :: ds => (m - count d.name) + attemptsLeft m count ds

theorem attemptsLeft_le (m : Nat) (count : StageName → Nat) (ds : List StageDescriptor) :
    attemptsLeft m count ds ≤ ds.length * m := by
  induction ds with
  | nil => exact Nat.zero_le _
  | cons d ds ih =>
    rw [attemptsLeft, List.length_cons, Nat.succ_mul]
    omega

/-- More attempts leave no more. -/
theorem attemptsLeft_anti {m : Nat} {count count' : StageName → Nat}
    (hle : ∀ st, count st ≤ count' st) (ds : List StageDescriptor) :
    attemptsLeft m count' ds ≤ attemptsLeft m count ds := by
  induction ds with
  | nil => exact Nat.le_refl 0
  | cons d ds ih =>
    rw [attemptsLeft, attemptsLeft]
    have := hle d.name
    omega

/-- One more attempt of a listed stage that was under the limit leaves fewer. -/
theorem attemptsLeft_lt {m : Nat} {count count' : StageName → Nat}
    (hle : ∀ st, count st ≤ count' st) {d : StageDescriptor} {ds : List StageDescriptor}
    (hd : d ∈ ds) (hlim : count d.name < m) (hmore : count d.name < count' d.name) :
    attemptsLeft m count' ds < attemptsLeft m count ds := by
  induction ds with
  | nil => cases hd
  | cons d₀ ds ih =>
    rw [attemptsLeft, attemptsLeft]
    have h₀ := hle d₀.name
    rcases List.mem_cons.1 hd with rfl | hd
    · -- the stage that ran is the first: its own term drops, the others do not grow
      have hrest := attemptsLeft_anti (m := m) hle ds
      omega
    · have := ih hd
      omega

/-! ### Floors and session names -/

namespace Store

/-- Every row of the epic `id` has the attempt floor `f`. -/
def FloorAt (s : Store) (id : String) (f : Nat) : Prop :=
  ∀ row, s.row? id = some row → row.attemptFloor = f

theorem storedCount_of_lt {n : Nat} (h : n < Nat.pow 2 63) : storedCount n = n := by
  unfold storedCount
  rw [if_pos h]

variable {s s' : Store} {id : String} {f : Nat}

theorem FloorAt.of_epics_eq (h : s.FloorAt id f) (he : s'.epics = s.epics) : s'.FloorAt id f := by
  intro row hrow
  unfold row? at hrow
  rw [he] at hrow
  exact h row hrow

/-- Rewriting the rows of an epic with the floor of its row keeps every floor, when the floor
fits its column. -/
theorem FloorAt.rewrite {e : Epic} {g : Epic → Epic} (h : s.FloorAt id f) (hg : Rewrites e g)
    (hs' : s'.epics = s.epics.map g) (he : e.id = id → ∃ x, s.row? id = some x ∧ e.attemptFloor = x.attemptFloor)
    (hbig : f < Nat.pow 2 63) : s'.FloorAt id f := by
  intro row hrow
  rw [row?_of_map hg.id hs'] at hrow
  obtain ⟨y, hy, rfl⟩ := Option.map_eq_some_iff.1 hrow
  have hyid : y.id = id := (row?_spec hy).2
  by_cases hid : y.id = e.id
  · -- the row of the epic takes the written floor, which is the floor it had
    obtain ⟨x, hx, hfl⟩ := he (hid ▸ hyid)
    rw [hg.attemptFloor y hid, hfl, h x hx]
    exact storedCount_of_lt hbig
  · rw [hg.other y hid]
    exact h y hy

/-- The running run of an epic is a recorded run of that epic, and it is running. -/
theorem runningRun?_spec {run : Run} (h : s.runningRun? id = some run) :
    run ∈ s.runs ∧ run.epicId = id ∧ run.status = .running := by
  have hsat := List.find?_some h
  simp only [Bool.and_eq_true, beq_iff_eq] at hsat
  exact ⟨List.mem_of_find?_eq_some h, hsat.1, hsat.2⟩

end Store

/-- Every session kept under a session name of the epic `id`, `<id>_<stage>`, is a session of
that epic at that stage. -/
def HandlesFit (id : String) (hs : List (String × SessionHandle)) : Prop :=
  ∀ st h, SessionBook.getKey hs (id ++ "_" ++ st.val) = some h → h.epicId = id ∧ h.stage = st

namespace SessionBook

theorem getKey_setKey {β : Type} (xs : List (String × β)) (k k' : String) (v : β) :
    getKey (setKey xs k v) k' = if k' = k then some v else getKey xs k' := by
  unfold setKey getKey
  split
  · rename_i hany
    -- the rewrite keeps every key, so the entry found is the same one
    have hkeys : ((fun x : String × β => x.1 == k') ∘ fun (a, b) => if a == k then (a, v) else (a, b)) =
        fun x => x.1 == k' := by
      funext x
      obtain ⟨a, b⟩ := x
      simp only [Function.comp]
      split <;> rfl
    rw [List.find?_map, hkeys, Option.map_map]
    split
    · rename_i hk
      subst hk
      obtain ⟨y, hy⟩ := Option.isSome_iff_exists.1 (List.find?_isSome.2 (List.any_eq_true.1 hany))
      have hyk : y.1 = k' := by simpa using List.find?_some hy
      rw [hy]
      obtain ⟨a, b⟩ := y
      simp_all
    · rename_i hk
      cases hy : xs.find? (·.1 == k') with
      | none => rfl
      | some y =>
        have hyk : y.1 = k' := by simpa using List.find?_some hy
        obtain ⟨a, b⟩ := y
        simp only at hyk
        subst hyk
        simp [hk]
  · rename_i hany
    rw [List.find?_append]
    split
    · rename_i hk
      subst hk
      -- the key was not there, so the appended entry is the one found
      have hnone : xs.find? (·.1 == k') = none := by
        rw [List.find?_eq_none]
        intro x hx hxk
        exact hany (List.any_eq_true.2 ⟨x, hx, hxk⟩)
      simp [hnone]
    · rename_i hk
      have hne : (k == k') = false := by simpa using Ne.symm hk
      simp [hne]

/-- A session handed out for a request is either the last one of its name, asked to resume,
left in place and queued to resume once, or a new one of the request's epic at the stage looked
up, kept under the name. Nothing else in the book changes. -/
theorem spawn_eq_ok {b b' : SessionBook} {reg : Registry} {r : SpawnRequest} {h : SessionHandle}
    (hs : b.spawn reg r = .ok (b', h)) :
    ∃ d, reg.lookup r.stage = some d ∧
      ((getKey b.handles r.sessionName = some h ∧
          b' = { b with resuming := if b.resuming.contains h.sessionId then b.resuming
                                    else b.resuming ++ [h.sessionId] }) ∨
        (h.epicId = r.epicId ∧ h.stage = d.name ∧
          b' = { b with handles := setKey b.handles r.sessionName h })) := by
  unfold spawn at hs
  cases hd : reg.lookup r.stage with
  | none =>
    rw [hd] at hs
    cases hs
  | some d =>
    rw [hd] at hs
    refine ⟨d, rfl, ?_⟩
    -- every check that fails throws; what passes them all is the final choice
    dsimp only at hs
    split at hs
    · cases hs
    split at hs
    · cases hs
    split at hs
    · cases hs
    split at hs
    · cases hs
    split at hs
    · cases hs
      exact Or.inl ⟨by assumption, rfl⟩
    · cases hs
      exact Or.inr ⟨rfl, rfl, rfl⟩

end SessionBook

/-- Keeping a session of the epic under the name of its stage keeps the names fitting. -/
theorem HandlesFit.setKey {id : String} {hs : List (String × SessionHandle)} (hfit : HandlesFit id hs)
    {h : SessionHandle} (hid : h.epicId = id) :
    HandlesFit id (SessionBook.setKey hs (id ++ "_" ++ h.stage.val) h) := by
  intro st h' hget
  rw [SessionBook.getKey_setKey] at hget
  split at hget
  · rename_i hname
    cases hget
    have hval : st.val = h.stage.val := (String.append_right_inj _).1 hname
    refine ⟨hid, ?_⟩
    cases st
    cases hst : h.stage
    rw [hst] at hval
    cases hval
    rfl
  · exact hfit st h' hget

namespace Registry

/-- A stage found in the table is listed there, under the name asked for. -/
theorem get?_spec {r : Registry} {s : StageName} {d : StageDescriptor} (h : r.get? s = some d) :
    d ∈ r.stages ∧ d.name = s :=
  ⟨List.mem_of_find?_eq_some h, by simpa using List.find?_some h⟩

/-- A registered stage is looked up by its own name, when its name reads as itself. -/
theorem lookup_val {r : Registry} {s : StageName} {d : StageDescriptor} (h : r.get? s = some d)
    (hname : StageName.parse d.name.val = .ok d.name) : r.lookup d.name.val = some d := by
  unfold lookup
  rw [hname]
  dsimp only
  rw [(get?_spec h).2]
  exact h

end Registry

/-- A session handed out for the stage of a registered name, under the session name of the
epic at that stage, is a session of the epic at that stage, and the names keep fitting. -/
theorem HandlesFit.spawn {id : String} {b b' : SessionBook} {reg : Registry} {r : SpawnRequest}
    {h : SessionHandle} {st : StageName} {d : StageDescriptor} (hfit : HandlesFit id b.handles)
    (hd : reg.get? st = some d) (hname : StageName.parse d.name.val = .ok d.name)
    (hstage : r.stage = d.name.val) (hsession : r.sessionName = id ++ "_" ++ d.name.val)
    (hepic : r.epicId = id) (hs : b.spawn reg r = .ok (b', h)) :
    HandlesFit id b'.handles ∧ h.epicId = id ∧ h.stage = st := by
  obtain ⟨d', hd', hcases⟩ := SessionBook.spawn_eq_ok hs
  rw [hstage, Registry.lookup_val hd hname] at hd'
  cases hd'
  have hst : d.name = st := (Registry.get?_spec hd).2
  rcases hcases with ⟨hget, rfl⟩ | ⟨hid, hhst, rfl⟩
  · -- the last session of the name, asked to resume
    rw [hsession] at hget
    obtain ⟨hid, hhst⟩ := hfit d.name h hget
    rw [← hst]
    exact ⟨hfit, hid, hhst⟩
  · -- a new session, kept under the name of its stage
    rw [hepic] at hid
    rw [hsession, ← hhst, ← hst]
    exact ⟨hfit.setKey hid, hid, hhst⟩

/-- A running run taken over keeps the names fitting, when its session id splits into the
session name of its epic at its stage. -/
theorem HandlesFit.adopt {id : String} {b b' : SessionBook} {run : Run} {ws : String} {n : Nat}
    {h : SessionHandle} (hfit : HandlesFit id b.handles) (hrun : run.epicId = id)
    (hsplit : ∀ base i, Session.splitId run.sessionId = some (base, i) → base = id ++ "_" ++ run.stage.val)
    (had : b.adopt run ws n = .ok (b', h)) : HandlesFit id b'.handles := by
  obtain ⟨hid, hhst, base, i, hs, hkept⟩ := SessionBook.adopt_eq_ok had
  rw [hkept, hsplit base i hs, ← hhst]
  exact hfit.setKey (hid.trans hrun)

/-! ### The gate -/

namespace EpicPolicy

variable {p : EpicPolicy} {s : Store} {e : Epic} {now : String}

/-- A spawn the gate lets through has attempts left at the stage. -/
theorem spawnGate_eq_none (h : p.spawnGate s e now = none) : attempts s e < p.maxAttempts := by
  unfold spawnGate at h
  split at h
  · cases h
  · dsimp only at h
    split at h
    · cases h
    · omega

/-- A spawn the gate stops hands the epic to an operator. -/
theorem spawnGate_eq_some {d : Decision} (h : p.spawnGate s e now = some d) :
    d.epicId = e.id ∧ d.target = .human := by
  unfold spawnGate at h
  split at h
  · cases h
    exact ⟨rfl, rfl⟩
  · dsimp only at h
    split at h
    · cases h
      exact ⟨rfl, rfl⟩
    · cases h

end EpicPolicy

/-! ### The quota of one drive -/

/-- What the attempt gate counts in one drive of one epic: the stage table, the limit on the
runs of a stage, the epic, and its attempt floor. -/
structure Quota where
  registry : Registry
  limit : Nat
  epic : String
  floor : Nat

/-- The quota of a conductor's drive of the epic `id` from the floor `floor`. -/
def Crew.quota (c : Crew) (id : String) (floor : Nat) : Quota :=
  ⟨c.registry, c.policy.maxAttempts, id, floor⟩

namespace Quota

variable (q : Quota)

/-- The runs of the stage `st` recorded for the epic after its floor. -/
def count (s : Store) (st : StageName) : Nat :=
  (((s.runsOf q.epic).drop q.floor).filter (·.stage == st)).length

/-- The attempts the limit leaves to the registered stages. -/
def left (s : Store) : Nat := attemptsLeft q.limit (q.count s) q.registry.stages

theorem left_le (s : Store) : q.left s ≤ q.registry.stages.length * q.limit :=
  attemptsLeft_le _ _ _

/-- The state a drive keeps: every row of the epic has the floor, the runs of the epic reach it,
and the session names of the epic fit. -/
structure Fits (a : Host × Conductor) : Prop where
  floor : a.1.store.FloorAt q.epic q.floor
  within : q.floor ≤ (a.1.store.runsOf q.epic).length
  handles : HandlesFit q.epic a.2.sessions.handles

/-- How a drive of the epic may change the state. -/
structure Spends (a b : Host × Conductor) : Prop where
  /-- runs are only added -/
  runs : a.1.store.runs.length ≤ b.1.store.runs.length
  /-- a stage grows only up to the limit -/
  capped : ∀ st, q.count b.1.store st ≤ max (q.count a.1.store st) q.limit
  /-- every run added is paid for by an attempt left -/
  budget : b.1.store.runs.length + q.left b.1.store ≤ a.1.store.runs.length + q.left a.1.store
  /-- the state still fits the drive -/
  fits : q.Fits a → q.Fits b

variable {q}

/-- The gate counts the quota of the epic's floor. -/
theorem attempts_eq_count {s : Store} {e : Epic} (he : e.id = q.epic) (hf : e.attemptFloor = q.floor) :
    EpicPolicy.attempts s e = q.count s e.stage := by
  unfold EpicPolicy.attempts count
  rw [he, hf]

theorem count_of_runs_eq {s s' : Store} (h : s'.runs = s.runs) : q.count s' = q.count s := by
  funext st
  unfold count
  rw [Store.runsOf_of_runs_eq h]

/-- A change that keeps the counts, the number of runs and the fit spends nothing. -/
theorem spends_of_counts {a b : Host × Conductor} (hlen : b.1.store.runs.length = a.1.store.runs.length)
    (hcount : q.count b.1.store = q.count a.1.store) (hfits : q.Fits a → q.Fits b) : q.Spends a b := by
  have hleft : q.left b.1.store = q.left a.1.store := by
    unfold left
    rw [hcount]
  refine ⟨Nat.le_of_eq hlen.symm, fun st => ?_, by omega, hfits⟩
  rw [hcount]
  exact Nat.le_max_left _ _

theorem Spends.trans {a b c : Host × Conductor} (h₁ : q.Spends a b) (h₂ : q.Spends b c) : q.Spends a c := by
  refine ⟨Nat.le_trans h₁.runs h₂.runs, fun st => ?_, by have := h₁.budget; have := h₂.budget; omega,
    fun h => h₂.fits (h₁.fits h)⟩
  have h₁st := h₁.capped st
  have h₂st := h₂.capped st
  omega

/-- The fit reads the store and the session names only. -/
theorem Fits.of_eq {a b : Host × Conductor} (hs : b.1.store = a.1.store)
    (hh : b.2.sessions.handles = a.2.sessions.handles) (h : q.Fits a) : q.Fits b := by
  obtain ⟨hfloor, hwithin, hhandles⟩ := h
  refine ⟨?_, ?_, ?_⟩
  · rw [hs]
    exact hfloor
  · rw [hs]
    exact hwithin
  · rw [hh]
    exact hhandles

theorem blind : Blind q.Spends where
  confined h := spends_of_counts (by rw [h.1]) (count_of_runs_eq (by rw [h.1])) (Fits.of_eq h.1 h.2)
  trans := Spends.trans

/-! ### What the conductor's writes spend -/

/-- Handing a session to the conductor spends nothing, when the new session names fit. -/
theorem spends_sessions {x : Host} {t : Conductor} {b : SessionBook}
    (hfit : HandlesFit q.epic t.sessions.handles → HandlesFit q.epic b.handles) :
    q.Spends (x, t) (x, { t with sessions := b }) :=
  spends_of_counts rfl rfl fun h => ⟨h.floor, h.within, hfit h.handles⟩

/-- A write that keeps the runs and the floor of the epic spends nothing. -/
theorem spends_of_runs_eq {x : Host} {t : Conductor} {s : Store} (hruns : s.runs = x.store.runs)
    (hfloor : x.store.FloorAt q.epic q.floor → s.FloorAt q.epic q.floor) :
    q.Spends (x, t) ({ x with store := s }, t) := by
  refine spends_of_counts (by rw [hruns]) (count_of_runs_eq hruns) fun h => ⟨hfloor h.floor, ?_, h.handles⟩
  rw [Store.runsOf_of_runs_eq hruns]
  exact h.within

/-- Writing a run's state spends nothing: every run keeps its epic and its stage. -/
theorem spends_updateRun {x : Host} {t : Conductor} {s : Store} {r : Run} (h : x.store.updateRun r = .ok s) :
    q.Spends (x, t) ({ x with store := s }, t) := by
  obtain ⟨old, f, -, -, hf, hs⟩ := Store.updateRun_eq_ok h
  obtain ⟨g, hg, hof⟩ := Store.runsOf_updateRun h q.epic
  have hcount : q.count s = q.count x.store := by
    funext st
    unfold count
    rw [hof, ← List.map_drop, List.filter_map, List.length_map]
    congr 2
    funext y
    simp only [Function.comp, hg.stage]
  have hlen : s.runs.length = x.store.runs.length := by
    rw [hs, List.length_map]
  refine spends_of_counts hlen hcount fun hfit => ⟨?_, ?_, hfit.handles⟩
  · exact hfit.floor.of_epics_eq (by rw [hs])
  · rw [hof, List.length_map]
    exact hfit.within

/-- The runs of the epic after a run of it is recorded, stage by stage, when the runs reach the
floor: the stage of the new run has one more. -/
theorem count_insertRun {s s' : Store} {r : Run} (h : s.insertRun r = .ok s') (hr : r.epicId = q.epic)
    (hwithin : q.floor ≤ (s.runsOf q.epic).length) (st : StageName) :
    q.count s' st = q.count s st + if r.stage = st then 1 else 0 := by
  unfold count
  rw [Store.runsOf_insertRun h, if_pos hr, List.drop_append_of_le_length hwithin, List.filter_append,
    List.length_append]
  by_cases hst : r.stage = st <;> simp [hst, Store.storedRun]

/-- Recording a run of the epic, at a registered stage with attempts left, is paid for by one
attempt. -/
theorem spends_insertRun {x : Host} {t : Conductor} {s : Store} {r : Run} (h : x.store.insertRun r = .ok s)
    (hr : r.epicId = q.epic) {d : StageDescriptor} (hd : d ∈ q.registry.stages) (hst : r.stage = d.name)
    (hlim : q.count x.store d.name < q.limit) (hfit : q.Fits (x, t)) :
    q.Spends (x, t) ({ x with store := s }, t) := by
  obtain ⟨-, -, hs⟩ := Store.insertRun_eq_ok h
  have hcount := count_insertRun h hr hfit.within
  have hlen : s.runs.length = x.store.runs.length + 1 := by
    rw [hs, List.length_append, List.length_singleton]
  have hle : ∀ st, q.count x.store st ≤ q.count s st := fun st => by
    rw [hcount st]
    exact Nat.le_add_right _ _
  have hmore : q.count x.store d.name < q.count s d.name := by
    rw [hcount, if_pos hst]
    exact Nat.lt_succ_self _
  -- the stage that ran had an attempt left, and now has one fewer
  have hleft : q.left s < q.left x.store := attemptsLeft_lt hle hd hlim hmore
  refine ⟨by dsimp only; omega, fun st => ?_, by dsimp only; omega, fun _ => ⟨?_, ?_, hfit.handles⟩⟩
  · rw [hcount st]
    split
    · rename_i hrst
      rw [← hrst, hst]
      omega
    · exact Nat.le_trans (Nat.le_of_eq (Nat.add_zero _)) (Nat.le_max_left _ _)
  · exact hfit.floor.of_epics_eq (by rw [hs])
  · rw [Store.runsOf_insertRun h]
    exact Nat.le_trans hfit.within (by simp)

/-- Moving any epic by a decision spends nothing, when the floor fits its column. -/
theorem spends_advance {p : EpicPolicy} {x : Host} {t : Conductor} {id now : String} {d : Decision}
    {s : Store} {e : Epic} (hbig : q.floor < Nat.pow 2 63) (h : p.advance x.store id d now = .ok (s, e)) :
    q.Spends (x, t) ({ x with store := s }, t) := by
  obtain ⟨y, hy, -, -, rfl, f, hf, rfl⟩ := EpicPolicy.advance_eq_ok h
  refine spends_of_runs_eq rfl fun hfloor => hfloor.rewrite hf rfl (fun hid => ?_) hbig
  -- the moved epic carries the floor of the row it was read from
  have hyid : y.id = id := (Store.row?_spec hy).2
  rw [EpicPolicy.moved_id] at hid
  dsimp only at hid
  rw [← hid, hyid]
  exact ⟨y, hy, EpicPolicy.moved_attemptFloor⟩

/-- Clearing a resume flag spends nothing, when the floor fits its column. -/
theorem spends_clearResume {x : Host} {t : Conductor} {id now : String} {s : Store}
    (hbig : q.floor < Nat.pow 2 63) (h : EpicPolicy.clearResume x.store id now = .ok s) :
    q.Spends (x, t) ({ x with store := s }, t) := by
  obtain ⟨y, hy, rfl | hw⟩ := EpicPolicy.clearResume_eq_ok h
  · exact spends_of_runs_eq rfl fun h => h
  · obtain ⟨f, hf, hs⟩ := Store.updateEpic_eq_ok hw
    have hyid : y.id = id := (Store.row?_spec hy).2
    refine spends_of_runs_eq (by rw [hs]) fun hfloor => hfloor.rewrite hf (by rw [hs]) (fun hid => ?_) hbig
    dsimp only at hid
    rw [← hid, hyid]
    exact ⟨y, hy, rfl⟩

/-- Raising an escalation spends nothing. -/
theorem spends_escalate {p : EpicPolicy} {x : Host} {t : Conductor} {e : Epic} {d : Decision}
    {home : Option String} {now : String} {s : Store} {n : Nat}
    (h : p.escalate x.store e d home now = .ok (s, n)) : q.Spends (x, t) ({ x with store := s }, t) := by
  rcases EpicPolicy.escalate_eq_ok h with rfl | ⟨m, hm⟩
  · exact spends_of_runs_eq rfl fun h => h
  · obtain ⟨hep, hruns, -⟩ := Store.insertEscalation_eq_ok hm
    exact spends_of_runs_eq hruns fun hfloor => hfloor.of_epics_eq hep

/-- The writes of a conductor that record no run spend nothing, when the floor fits its
column. -/
theorem allows (p : EpicPolicy) (hbig : q.floor < Nat.pow 2 63) : Allows p q.Spends where
  toTidy := blind.tidy
  count _ _ _ := blind.confined ⟨rfl, rfl⟩
  updateRun _ _ _ _ h := spends_updateRun h
  advance _ _ _ _ _ _ _ h := spends_advance hbig h
  clearResume _ _ _ _ _ h := spends_clearResume hbig h
  escalate _ _ _ _ _ _ _ _ h := spends_escalate h

end Quota

end EpicFlow
