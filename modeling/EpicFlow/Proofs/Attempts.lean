import EpicFlow.Proofs.Quota

/-!
# The attempt gate bounds a drive

`Crew.runEpic` drives an epic stage by stage. Route tables may loop (a stage may route to itself,
or two stages to each other), so what ends the drive is the attempt gate: before a stage starts,
`EpicPolicy.spawnGate` counts the runs of the stage recorded after the epic's attempt floor, and
at the limit it hands the epic to an operator instead.

One stage (`Crew.step`) either hands the epic over, or records exactly one run of the stage the
gate counted, of the epic, while that stage is under the limit. Nothing between the gate and the
record adds a run, so the count the gate saw is still the count when the run is recorded. A
stage that leaves the epic active has therefore spent one of the attempts left (`Quota.left`).
The stage loop stops when the epic is no longer active or the work is cancelled, and its fuel is
one more than the attempts all stages can have, so it is never the fuel that stops it.

The drive is taken as it runs among other jobs that leave the store alone: at every wait the
clock and the cancellation may move, the store does not.

Main statements:

* `Crew.step_ends`: one stage spends at most one attempt, and leaves the epic active only after
  recording a run.
* `Crew.drive_ends`: the stage loop stops with the epic no longer active, or on cancellation.
* `Crew.runEpic_spends`: one drive records at most the attempts left to the registered stages,
  keeps each stage within the limit, and ends with the epic blocked, completed or failed, or
  active only because the work was cancelled.
-/

set_option autoImplicit false

namespace EpicFlow

namespace Quota

variable {q : Quota}

/-- A change that records no run: it spends nothing and keeps the runs as they were. -/
def Quiet (q : Quota) (a b : Host × Conductor) : Prop :=
  q.Spends a b ∧ b.1.store.runs = a.1.store.runs

theorem quiet_blind : Blind q.Quiet where
  confined h := ⟨blind.confined h, by rw [h.1]⟩
  trans h₁ h₂ := ⟨h₁.1.trans h₂.1, h₂.2.trans h₁.2⟩

/-- Recording a run: the runs added are paid for, and there are more runs than before. -/
def Records (q : Quota) (a b : Host × Conductor) : Prop :=
  q.Spends a b ∧ a.1.store.runs.length < b.1.store.runs.length

/-- Clearing a resume flag records no run. -/
theorem quiet_clearResume {x : Host} {t : Conductor} {id now : String} {s : Store}
    (hbig : q.floor < Nat.pow 2 63) (h : EpicPolicy.clearResume x.store id now = .ok s) :
    q.Quiet (x, t) ({ x with store := s }, t) := by
  refine ⟨spends_clearResume hbig h, ?_⟩
  obtain ⟨y, -, rfl | hw⟩ := EpicPolicy.clearResume_eq_ok h
  · rfl
  · obtain ⟨f, -, rfl⟩ := Store.updateEpic_eq_ok hw
    rfl

/-- What one stage ends in, from the state `a`: the runs it added are paid for, and an answer is
the epic of the drive at its floor, left active only after a run was recorded. -/
def Stepped (q : Quota) (a : Host × Conductor) (x : Host) (t : Conductor)
    (r : Except EngineError Epic) : Prop :=
  q.Spends a (x, t) ∧ ∀ e, r = .ok e →
    e.id = q.epic ∧ e.attemptFloor = q.floor ∧
      (e.status = .active → a.1.store.runs.length < x.store.runs.length)

/-- An epic read from a row of the drive's epic, in a state the drive reached, is at the floor. -/
theorem MovedFrom.floor {a : Host × Conductor} {e : Epic} (hfit : q.Fits a)
    (h : MovedFrom q.Spends a q.epic e) : e.id = q.epic ∧ e.attemptFloor = q.floor := by
  obtain ⟨hid, b, row, hab, hrow, hfl⟩ := h
  exact ⟨hid, hfl.trans ((hab.fits hfit).floor row hrow)⟩

/-- A stage that answers a blocked epic of the drive, with runs paid for, ends as a stage may. -/
theorem stepped_of_blocked {a : Host × Conductor} {x : Host} {t : Conductor}
    {r : Except EngineError Epic} (hfit : q.Fits a) (hs : q.Spends a (x, t))
    (hr : ∀ e, r = .ok e → MovedFrom q.Spends a q.epic e ∧ e.status = .blocked) :
    q.Stepped a x t r := by
  refine ⟨hs, fun e he => ?_⟩
  obtain ⟨hmoved, hblocked⟩ := hr e he
  obtain ⟨hid, hfl⟩ := MovedFrom.floor hfit hmoved
  refine ⟨hid, hfl, fun hactive => ?_⟩
  rw [hblocked] at hactive
  cases hactive

/-- A job that answers a blocked epic of the drive, started where the drive has spent from `a`,
ends as a stage from `a` may. -/
theorem ends_stepped_of_blocked {j : Eng Epic}
    (hj : Job.Answers StoreKept q.Spends (fun a e => MovedFrom q.Spends a q.epic e ∧ e.status = .blocked) j)
    {a : Host × Conductor} (hfit : q.Fits a) {x : Host} {t : Conductor} (hab : q.Spends a (x, t)) :
    (j t x).Ends StoreKept (q.Stepped a) :=
  (Job.Answers.ends_after blind.guarantee _ (fun hab hv => ⟨hv.1.back blind.tidy hab, hv.2⟩) hj hab).mono
    fun _ _ _ h => stepped_of_blocked hfit h.1 h.2

end Quota

namespace Crew

section

variable {c : Crew} {id : String} {f0 : Nat} (hbig : f0 < Nat.pow 2 63)
  (hname : ∀ d ∈ c.registry.stages, StageName.parse d.name.val = .ok d.name) (hc : c.Keeps Confined)
include hbig hname hc

theorem step_ends (e : Epic) (he : e.id = id) (hfl : e.attemptFloor = f0) (t : Conductor) (x : Host)
    (hfit : (c.quota id f0).Fits (x, t)) :
    (c.step e t x).Ends StoreKept ((c.quota id f0).Stepped (x, t)) := by
  have hR : Allows c.policy (c.quota id f0).Spends := Quota.allows c.policy hbig
  have hg := hR.guarantee
  have hcS : c.Keeps (c.quota id f0).Spends := hc.mono fun _ _ h => Quota.blind.confined h
  have hQ : Blind (c.quota id f0).Quiet := Quota.quiet_blind
  unfold step
  rw [Eng.stamp_bind, Eng.store_bind]
  cases hgate : c.policy.spawnGate x.store e x.stamp with
  | some d =>
    dsimp -zeta only
    -- out of budget or attempts: the epic is handed to an operator
    obtain ⟨hdid, hhuman⟩ := EpicPolicy.spawnGate_eq_some hgate
    refine Quota.ends_stepped_of_blocked ((apply_answers hR d).mono fun _ e' h => ?_) hfit (hg.refl _)
    rw [hdid, he] at h
    exact ⟨h.1, h.2 hhuman⟩
  | none =>
    dsimp -zeta only
    have hopen : (c.quota id f0).count x.store e.stage < c.policy.maxAttempts := by
      rw [← Quota.attempts_eq_count he hfl]
      exact EpicPolicy.spawnGate_eq_none hgate
    cases hdesc : c.registry.get? e.stage with
    | none =>
      dsimp -zeta only
      exact ⟨Quota.blind.confined ⟨rfl, rfl⟩, error_eq_ok_elim⟩
    | some desc =>
      dsimp -zeta only
      obtain ⟨hdmem, hdname⟩ := Registry.get?_spec hdesc
      have hgQ := hQ.guarantee
      have herrQ : ∀ (err : EngineError) t' x', (c.quota id f0).Quiet (x, t) (x', t') →
          (c.quota id f0).Stepped (x, t) x' t' (.error err) := fun _ _ _ h => ⟨h.1, error_eq_ok_elim⟩
      -- a stage that never starts escalates its epic
      have hreject : ∀ (r : Rationale) reason cardId t' x', (c.quota id f0).Quiet (x, t) (x', t') →
          ((CardBook.modify (·.forget cardId) >>= fun _ => c.reject e r reason) t' x').Ends StoreKept
            ((c.quota id f0).Stepped (x, t)) := by
        intro r reason cardId t' x' hq
        refine Job.Keeps.ends_bind_from hgQ (CardBook.keeps_modify hQ.tidy _) hq (fun _ t'' x'' hq' => ?_) herrQ
        refine Quota.ends_stepped_of_blocked ((reject_answers hR e r reason).mono fun _ _ h => ?_) hfit hq'.1
        rw [he] at h
        exact h
      -- until the run is recorded, nothing adds a run, so the count the gate saw still holds
      refine Job.Keeps.ends_bind_from hgQ (keeps_patternNotes hQ.tidy _ _) (hgQ.refl _)
        (fun notes t₁ x₁ hq₁ => ?_) herrQ
      refine Job.Keeps.ends_bind_from hgQ (CardBook.keeps_createCard hQ.tidy _ _ _ _ _) hq₁
        (fun cardId t₂ x₂ hq₂ => ?_) herrQ
      dsimp -zeta only
      extract_lets req
      rw [SessionBook.get_bind]
      cases hsp : t₂.sessions.spawn c.registry req with
      | error err =>
        cases err
        case spawnRejected reason => exact hreject _ reason cardId t₂ x₂ hq₂
        all_goals exact herrQ _ t₂ x₂ hq₂
      | ok bh =>
        obtain ⟨b, h⟩ := bh
        dsimp -zeta only
        -- the start after the resume flag is cleared, if it was set
        extract_lets launch
        rw [SessionBook.modify_bind]
        -- the session handed out is one of the epic, at the stage the gate counted
        have hfit₂ : (c.quota id f0).Fits (x₂, t₂) := hq₂.1.fits hfit
        obtain ⟨hfitb, hhid, hhst⟩ :=
          HandlesFit.spawn hfit₂.handles hdesc (hname desc hdmem) rfl (by rw [← he]; rfl) he hsp
        have hq₃ : (c.quota id f0).Quiet (x, t) (x₂, { t₂ with sessions := b }) :=
          hQ.trans hq₂ ⟨Quota.spends_sessions fun _ => hfitb, rfl⟩
        have hlaunch : ∀ u t₄ x₄, (c.quota id f0).Quiet (x, t) (x₄, t₄) →
            (launch u t₄ x₄).Ends StoreKept ((c.quota id f0).Stepped (x, t)) := by
          intro u t₄ x₄ hq₄
          dsimp -zeta only [launch]
          refine Job.Keeps.ends_bind_from hgQ
            (CardBook.keeps_publish hQ.tidy (hc.mailbox.mono fun _ _ h => hQ.confined h) _ _) hq₄
            (fun path t₅ x₅ hq₅ => ?_) herrQ
          -- the run is recorded in a store the worker left alone: the gate's count still holds
          have hrecord : ∀ x₆ t₆ r s, Confined (x₅, t₅) (x₆, t₆) → r.epicId = h.epicId →
              r.stage = h.stage → x₆.store.insertRun r = .ok s →
              (c.quota id f0).Records (x₅, t₅) ({ x₆ with store := s }, t₆) := by
            intro x₆ t₆ r s hpre hrid hrst hins
            have hq₆ : (c.quota id f0).Quiet (x, t) (x₆, t₆) := hQ.trans hq₅ (hQ.confined hpre)
            have hlim : (c.quota id f0).count x₆.store desc.name < c.policy.maxAttempts := by
              rw [Quota.count_of_runs_eq hq₆.2, hdname]
              exact hopen
            have hspend := Quota.spends_insertRun hins (hrid.trans hhid) hdmem
              (hrst.trans (hhst.trans hdname.symm)) hlim (hq₆.1.fits hfit)
            refine ⟨(hQ.confined hpre).1.trans hspend, ?_⟩
            obtain ⟨-, -, hs⟩ := Store.insertRun_eq_ok hins
            dsimp only
            rw [hs, List.length_append, List.length_singleton, hpre.1]
            exact Nat.lt_succ_self _
          have hstart := SessionBook.startRun_ends Confined.blind hc.worker c.registry h cardId path
            e.objective (a := (x₅, t₅)) (fun _ hb => hQ.confined hb) hrecord
          refine (Job.ends_attempt_bind _ _ _ _ _).2 (hstart.mono fun x₆ t₆ r hr => ?_)
          cases r with
          | ok run =>
            have hrec := hr.1 run rfl
            dsimp -zeta only
            have hs₆ : (c.quota id f0).Spends (x, t) (x₆, t₆) := hq₅.1.trans hrec.1
            refine ((conclude_answers hR Quota.blind hcS h run).ends t₆ x₆).mono fun x₇ t₇ r₇ h₇ =>
              ⟨hs₆.trans h₇.1, fun e' he' => ?_⟩
            have hmoved := h₇.2 e' he'
            rw [hhid] at hmoved
            obtain ⟨hid', hfl'⟩ := Quota.MovedFrom.floor (hs₆.fits hfit) hmoved
            refine ⟨hid', hfl', fun _ => ?_⟩
            -- the run recorded before the stage was concluded
            calc x.store.runs.length = x₅.store.runs.length := by rw [hq₅.2]
              _ < x₆.store.runs.length := hrec.2
              _ ≤ x₇.store.runs.length := h₇.1.runs
          | error err =>
            have hq₆ : (c.quota id f0).Quiet (x, t) (x₆, t₆) := hQ.trans hq₅ (hr.2 err rfl)
            cases err
            case spawnRejected reason => exact hreject _ reason cardId t₆ x₆ hq₆
            case worker reason => exact hreject _ reason cardId t₆ x₆ hq₆
            all_goals exact herrQ _ t₆ x₆ hq₆
        clear_value launch
        by_cases hres : e.resumeNext = true
        · rw [if_pos hres]
          exact Job.Keeps.ends_bind_from hgQ
            (Eng.keeps_updateStore hgQ fun x t s h => Quota.quiet_clearResume hbig h) hq₃ hlaunch herrQ
        · rw [if_neg hres]
          exact hlaunch _ _ _ hq₃

/-- The stage loop from a state the drive fits, with more fuel than attempts left while the epic
is active: it ends having spent from its first state, with the epic no longer active, or active
because the work was cancelled. -/
theorem drive_ends (n : Nat) : ∀ (e : Epic) (t : Conductor) (x : Host), e.id = id → e.attemptFloor = f0 →
    (c.quota id f0).Fits (x, t) → (e.status = .active → (c.quota id f0).left x.store < n) →
    (c.drive n e t x).Ends StoreKept (fun x' t' r => (c.quota id f0).Spends (x, t) (x', t') ∧
      ∀ e', r = .ok e' → e'.status = .active → x'.cancelAt.any (· ≤ x'.now) = true) := by
  intro e t x he hfl hfit hfuel
  -- the fuel outlasts the attempts left: each stage that keeps the epic active spends one
  refine drive_ends_of (I := fun n e a => e.id = id ∧ e.attemptFloor = f0 ∧ (c.quota id f0).Fits a ∧
      (e.status = .active → (c.quota id f0).left a.1.store < n))
    (Q := fun a r => ∀ e', r = .ok e' → e'.status = .active → a.1.cancelAt.any (· ≤ a.1.now) = true)
    (fun h h' => h.trans h') ?stay ?stage n e t x ⟨he, hfl, hfit, hfuel⟩
  case stay =>
    rintro n e a ⟨-, -, -, hfuel⟩ hround
    refine ⟨Quota.blind.guarantee.refl a, fun e' he' hactive => ?_⟩
    cases he'
    rcases hround with rfl | hinactive | hcan
    · exact absurd (hfuel hactive) (Nat.not_lt_zero _)
    · exact absurd hactive hinactive
    · exact hcan
  case stage =>
    rintro n e t x ⟨he, hfl, hfit, hfuel⟩ hactive -
    refine (step_ends hbig hname hc e he hfl t x hfit).mono fun x' t' r h =>
      ⟨h.1, (fun _ hr e' he' => by rw [hr] at he'; cases he'), fun e' he' => ?_⟩
    -- a stage that leaves the epic active recorded a run, so it spent one of the attempts left
    obtain ⟨hid', hfl', hran⟩ := h.2 e' he'
    refine ⟨hid', hfl', h.1.fits hfit, fun hactive' => ?_⟩
    have hbudget := h.1.budget
    have hmore := hran hactive'
    have hleft := hfuel hactive
    dsimp only at hbudget hmore hleft ⊢
    omega

/-- One drive of the epic, from a state the drive fits, in which the run left running, if any,
has a session named after its stage. -/
theorem runEpic_ends (t : Conductor) (x : Host) (hfit : (c.quota id f0).Fits (x, t))
    (hrun : ∀ run, x.store.runningRun? id = some run →
      ∀ base i, Session.splitId run.sessionId = some (base, i) → base = id ++ "_" ++ run.stage.val) :
    (c.runEpic id t x).Ends StoreKept (fun x' t' r => (c.quota id f0).Spends (x, t) (x', t') ∧
      ∀ e, r = .ok e → e.status = .active → x'.cancelAt.any (· ≤ x'.now) = true) := by
  have hR : Allows c.policy (c.quota id f0).Spends := Quota.allows c.policy hbig
  have hcS : c.Keeps (c.quota id f0).Spends := hc.mono fun _ _ h => Quota.blind.confined h
  -- the loop's fuel is one more than the attempts any state can have left
  have hfuel : ∀ x' : Host, (c.quota id f0).left x'.store < c.maxStages :=
    fun x' => Nat.lt_succ_of_le ((c.quota id f0).left_le x'.store)
  unfold runEpic
  rw [Eng.store_bind, SessionBook.modify_bind]
  -- seeding numbers new sessions on from the recorded ones; the handles stay
  have hseed : (c.quota id f0).Spends (x, t)
      (x, { t with sessions := t.sessions.seed ((x.store.runsOf id).map (·.sessionId)) }) :=
    Quota.blind.confined ⟨rfl, SessionBook.seed_handles _ _⟩
  have hfit₁ := hseed.fits hfit
  cases hget : EpicPolicy.get x.store id with
  | error err =>
    rw [Eng.ofExcept_error_bind]
    exact ⟨hseed, error_eq_ok_elim⟩
  | ok e =>
    rw [Eng.ofExcept_ok_bind]
    obtain ⟨y, hy, rfl⟩ := EpicPolicy.get_eq_ok hget
    have hyid : y.id = id := (Store.row?_spec hy).2
    have hyfl : y.attemptFloor = f0 := hfit.floor y hy
    cases hrr : x.store.runningRun? id with
    | none =>
      dsimp -zeta only
      rw [Job.pure_bind]
      have hd := drive_ends hbig hname hc c.maxStages { y with history := x.store.history id } _ x hyid hyfl
        hfit₁ fun _ => hfuel x
      exact hd.mono fun _ _ _ h => ⟨hseed.trans h.1, h.2⟩
    | some run =>
      dsimp -zeta only
      -- the run left running is the epic's, and its session keeps the names fitting
      have hrunid : run.epicId = id := (Store.runningRun?_spec hrr).2.1
      have hadopt : ∀ x' t' ws n b h, t'.sessions.adopt run ws n = .ok (b, h) →
          (c.quota id f0).Spends (x', t') (x', { t' with sessions := b }) :=
        fun _ _ _ _ _ _ had => Quota.spends_sessions fun hh => HandlesFit.adopt hh hrunid (hrun run hrr) had
      rw [Job.bind_apply]
      refine Flow.Ends.bind ((takeOver_answers hR Quota.blind hcS _ run hadopt).ends _ x) (fun e' t' x' h => ?_)
        fun _ _ _ h => ⟨hseed.trans h.1, error_eq_ok_elim⟩
      -- the answer is read from the epic's row, whichever epic the take-over names
      have heid : ({ y with history := x.store.history id } : Epic).id = id := hyid
      obtain ⟨hid', hfl'⟩ : e'.id = id ∧ e'.attemptFloor = f0 := by
        rcases h.2 e' rfl with hm | hm
        · rw [heid] at hm
          exact Quota.MovedFrom.floor hfit₁ hm
        · rw [hrunid] at hm
          exact Quota.MovedFrom.floor hfit₁ hm
      exact (drive_ends hbig hname hc c.maxStages e' t' x' hid' hfl' (h.1.fits hfit₁) fun _ => hfuel x').mono
        fun _ _ _ h' => ⟨hseed.trans (h.1.trans h'.1), h'.2⟩

end

/-- The runs one drive of an epic records, for any worker and mailbox that leave the store and
the session names alone. Write `m` for the attempt limit and `a S` for the runs of stage `S`
recorded for the epic after its attempt floor when the drive starts; the attempts left,
`(c.quota id row.attemptFloor).left h.store`, are the sum over the registered stages of `m - a S`.
The drive records at most that many runs, which is at most `m` for each registered stage; no
stage grows past `m` runs after the floor; and the epic it answers is blocked, completed or
failed, or still active only because the work was found cancelled between stages. So the stage
loop, whose fuel is one more than the registered stages times `m`, is never stopped by its fuel.
This holds whatever happens at the waits, as long as the store is left alone. Of the start it
asks that stage names read as themselves; that the epic is stored with a floor within its runs
that fits its column, as on every store the engine reaches; that the session names of the epic
hold sessions of the epic at the named stage, as a conductor keeps them; and that a run left
running has a session named after its stage. -/
theorem runEpic_spends (c : Crew) (id : String) (t : Conductor) (h : Host) (row : Epic)
    (hname : ∀ d ∈ c.registry.stages, StageName.parse d.name.val = .ok d.name)
    (hrow : h.store.row? id = some row) (hfloor : row.attemptFloor ≤ (h.store.runsOf id).length)
    (hbig : row.attemptFloor < Nat.pow 2 63) (hses : HandlesFit id t.sessions.handles)
    (hrun : ∀ run, h.store.runningRun? id = some run →
      ∀ base i, Session.splitId run.sessionId = some (base, i) → base = id ++ "_" ++ run.stage.val)
    (hc : c.Keeps Confined) :
    (c.runEpic id t h).Ends StoreKept fun h' _ r =>
      h'.store.runs.length ≤ h.store.runs.length + (c.quota id row.attemptFloor).left h.store ∧
      (c.quota id row.attemptFloor).left h.store ≤ c.registry.stages.length * c.policy.maxAttempts ∧
      (∀ st, (c.quota id row.attemptFloor).count h'.store st ≤
        max ((c.quota id row.attemptFloor).count h.store st) c.policy.maxAttempts) ∧
      ∀ e, r = .ok e → e.status = .blocked ∨ e.status = .completed ∨ e.status = .failed ∨
        (e.status = .active ∧ h'.cancelAt.any (· ≤ h'.now) = true) := by
  -- the epic has one row, so its rows carry the floor
  have hfit : (c.quota id row.attemptFloor).Fits (h, t) := by
    refine ⟨fun r hr => ?_, hfloor, hses⟩
    have hr' : h.store.row? id = some r := hr
    rw [hrow] at hr'
    cases hr'
    rfl
  refine (runEpic_ends hbig hname hc t h hfit hrun).mono fun h' t' r hr =>
    ⟨?_, (c.quota id row.attemptFloor).left_le h.store, hr.1.capped, fun e he => ?_⟩
  · have hbudget := hr.1.budget
    dsimp only at hbudget
    omega
  · -- an epic that is not active is blocked or finished
    cases hst : e.status with
    | active => exact Or.inr (Or.inr (Or.inr ⟨rfl, hr.2 e he hst⟩))
    | blocked => exact Or.inl rfl
    | completed => exact Or.inr (Or.inl rfl)
    | failed => exact Or.inr (Or.inr (Or.inl rfl))

/-- The scripted worker over the built-in stages, three attempts a stage. -/
def scripted : Crew where
  worker := Worker.scripted {} Registry.builtin
  mailbox := Mailbox.scripted
  policy := ⟨Registry.builtin, {}, "/work", ⟨"DESIGN"⟩, 3⟩
  monitor := ⟨20000000, 2000000000, 5000000, 0.5, 2, 3⟩
  grace := 50000000
  sink := .store
  patternLimit := none
  transport := .worktree
  containerPrefix := ""
  home := none

/-- A fresh epic driven by the scripted crew, from a conductor that holds no sessions yet,
records at most the attempt limit's worth of runs for each stage. -/
theorem scripted_drive_spends :
    (scripted.runEpic "epic-1" {}
        { store := { epics := [Epic.fresh "/work" "epic-1" "Ship it" ⟨"DESIGN"⟩ "now"] } }).Ends
      StoreKept fun h' _ r =>
        h'.store.runs.length ≤ scripted.registry.stages.length * scripted.policy.maxAttempts ∧
        ∀ e, r = .ok e → e.status = .blocked ∨ e.status = .completed ∨ e.status = .failed ∨
          (e.status = .active ∧ h'.cancelAt.any (· ≤ h'.now) = true) := by
  have hname : ∀ d ∈ scripted.registry.stages, StageName.parse d.name.val = .ok d.name := by decide
  have hspends := @runEpic_spends scripted "epic-1" {}
    { store := { epics := [Epic.fresh "/work" "epic-1" "Ship it" ⟨"DESIGN"⟩ "now"] } }
    (Epic.fresh "/work" "epic-1" "Ship it" ⟨"DESIGN"⟩ "now") hname rfl (by decide) (by decide)
    (fun _ _ hh => by simp [SessionBook.getKey] at hh) (fun _ hh => by simp [Store.runningRun?] at hh)
    ⟨Worker.scripted_keeps _ _, Mailbox.scripted_keeps⟩
  -- the drive is named apart: unifying the postconditions through its text would run it
  generalize scripted.runEpic "epic-1" {} _ = drive at hspends ⊢
  refine hspends.mono fun h' _ r hr => ⟨?_, hr.2.2.2⟩
  -- the store starts with no runs
  have hruns := hr.1
  have hleft := hr.2.1
  dsimp only at hruns hleft
  simp only [List.length_nil, Nat.zero_add] at hruns
  omega

end Crew

end EpicFlow
