import EpicFlow.Proofs.Moves
import EpicFlow.Proofs.Escalations
import EpicFlow.Proofs.StageTable

/-!
# The answers an operator is offered, and what each one does

An escalation offers the operator the answers that fit the decision that blocked the epic
(`Resolution.offered`): resume the stage's session after an interruption, retry the stage,
route to a stage that the blocked stage routes to, accept the work after a safety signal or a
missing signal, abandon the epic, or pause. The offer is built by a fold over the stage's
routes that skips a route already offered; `Resolution.offered_eq` reads it off as a list in
the documented order, the routes being the first occurrence of each stage in the order of the
routes, and `Resolution.offered_nodup` shows that no answer is offered twice.

An answer to an open escalation (`EpicPolicy.answer`) is taken only when it is offered or is a
pause. `Epic.answered` states, answer by answer, what an answer does to a blocked epic: resume
and retry put it back at its stage and a route sends it to the named stage, where it is active
again, with attempts counted afresh from the end of its history and the next session asked to
resume only after a resume, or where it completes when the stage is terminal; accepting the
work completes the epic, abandoning it fails it, and a pause changes nothing.

In a store that keeps the rules of its policy (`EpicsKept`) over a table built from
descriptors, every offered answer is taken: no stage that the table routes to is refused, and
the current stage of a stored epic is registered. The answer is recorded on the escalation,
and the store reads the epic back as `Epic.answered` says, its attempt floor as the column
keeps it.

Main statements:

* `Resolution.offered_eq`, `Resolution.offered_nodup`: the offer, in order and without repeats.
* `EpicPolicy.answer_refused`, `EpicPolicy.answer_pause`, `EpicPolicy.answer_offered`: what
  an answer that is not offered, a pause and an offered answer do.
* `answers_follow_offer`: the offer and its answers together.
-/

set_option autoImplicit false

namespace EpicFlow

/-! ### Lists without repeats -/

namespace List

variable {α : Type} [BEq α] [LawfulBEq α]

/-- A list without repeats loses nothing to `eraseDups`. -/
theorem eraseDups_of_nodup {l : List α} (h : l.Nodup) : l.eraseDups = l := by
  induction l with
  | nil => rfl
  | cons a t ih =>
    obtain ⟨ha, ht⟩ := List.nodup_cons.1 h
    -- no later element equals the head, so the filter of `eraseDups_cons` keeps the tail whole
    have hkeep : t.filter (fun b => !b == a) = t :=
      List.filter_eq_self.2 fun b hb => by
        have hne : b ≠ a := fun hba => ha (hba ▸ hb)
        simpa using hne
    rw [List.eraseDups_cons, hkeep, ih ht]

theorem nodup_eraseDups (l : List α) : l.eraseDups.Nodup := by
  cases l with
  | nil => simp
  | cons a t =>
    rw [List.eraseDups_cons, List.nodup_cons]
    refine ⟨by simp, nodup_eraseDups (t.filter fun b => !b == a)⟩
termination_by l.length
decreasing_by simpa using Nat.lt_succ_of_le (List.length_filter_le (fun b => !b == a) t)

/-- An element already present adds nothing to the list without repeats. -/
theorem eraseDups_append_cons_of_mem {acc ys : List α} {x : α} (hx : x ∈ acc) :
    (acc ++ x :: ys).eraseDups = (acc ++ ys).eraseDups := by
  rw [List.eraseDups_append, List.eraseDups_append]
  congr 2
  simp [List.removeAll, hx]

end List

/-! ### The offer -/

/-- The stages that routes lead to, in the order of the routes, repeats included. -/
def Route.targetStages (rules : List Route) : List StageName :=
  rules.filterMap fun rule => match rule.target with
    | .stage s => some s
    | _ => none

namespace Resolution

/-- The fold over a stage's routes offers each stage it has not offered yet: from a list
without repeats, it gives the list followed by the new routes, without repeats. The step `f` is
given by what it does with a route to a stage and with any other route. -/
theorem foldl_routes (f : List Resolution → Route → List Resolution)
    (hstage : ∀ acc rule s, rule.target = .stage s →
      f acc rule = if acc.contains (route s) then acc else acc ++ [route s])
    (hother : ∀ acc rule, (∀ s, rule.target ≠ .stage s) → f acc rule = acc) (rules : List Route) :
    ∀ acc : List Resolution, acc.Nodup →
      rules.foldl f acc = (acc ++ (Route.targetStages rules).map route).eraseDups := by
  induction rules with
  | nil =>
    intro acc hacc
    simp [Route.targetStages, List.eraseDups_of_nodup hacc]
  | cons rule rules ih =>
    intro acc hacc
    cases ht : rule.target with
    | stage s =>
      rw [List.foldl_cons, hstage acc rule s ht]
      by_cases hs : route s ∈ acc
      · -- an offered route is skipped
        rw [if_pos (List.elem_eq_true_of_mem hs), ih acc hacc]
        simp only [Route.targetStages, List.filterMap_cons, ht, List.map_cons]
        rw [List.eraseDups_append_cons_of_mem hs]
      · have hnew : (acc ++ [route s]).Nodup := List.Nodup.append hacc (List.nodup_singleton _)
          (by simpa using hs)
        rw [if_neg (by simpa using hs), ih _ hnew]
        simp [Route.targetStages, ht]
    | human => simpa [Route.targetStages, ht, hother acc rule (by simp [ht])] using ih acc hacc
    | completed => simpa [Route.targetStages, ht, hother acc rule (by simp [ht])] using ih acc hacc
    | failed => simpa [Route.targetStages, ht, hother acc rule (by simp [ht])] using ih acc hacc

/-- The rationales after which the stage's session may be resumed. -/
theorem contains_resumable (r : Rationale) :
    [Rationale.stuck, .interrupted, .aborted, .cardUnreachable, .budgetExceeded].contains r = true ↔
      r = .stuck ∨ r = .interrupted ∨ r = .aborted ∨ r = .cardUnreachable ∨ r = .budgetExceeded := by
  cases r <;> decide

/-- The rationales after which the work may be accepted as it is. -/
theorem contains_acceptable (r : Rationale) :
    [Rationale.breakingChange, .securityRisk, .scopeViolation, .signalMissing].contains r = true ↔
      r = .breakingChange ∨ r = .securityRisk ∨ r = .scopeViolation ∨ r = .signalMissing := by
  cases r <;> decide

/-- The offer for a decision from `source` for the reason `r`, in the order it is presented:
resume after an interruption, retry, a route to each stage the source routes to (the first
route to a stage counts), accept the work after a safety signal or a missing signal, abandon,
and pause. -/
theorem offered_eq (reg : Registry) (source : StageName) (r : Rationale) :
    offered reg source r =
      (if r = .stuck ∨ r = .interrupted ∨ r = .aborted ∨ r = .cardUnreachable ∨ r = .budgetExceeded
        then [resume] else []) ++ [retry] ++
      ((((reg.get? source).map fun d => Route.targetStages d.routes).getD []).map route).eraseDups ++
      (if r = .breakingChange ∨ r = .securityRisk ∨ r = .scopeViolation ∨ r = .signalMissing
        then [complete] else []) ++ [abandon, pause] := by
  -- the answers before the routes have no repeats and are no routes
  have hfirst : ((if r = .stuck ∨ r = .interrupted ∨ r = .aborted ∨ r = .cardUnreachable ∨
      r = .budgetExceeded then [resume] else []) ++ [retry]).Nodup := by
    split <;> simp
  have hnotin : ∀ xs : List StageName, (xs.map route).removeAll
      ((if r = .stuck ∨ r = .interrupted ∨ r = .aborted ∨ r = .cardUnreachable ∨
        r = .budgetExceeded then [resume] else []) ++ [retry]) = xs.map route := by
    intro xs
    unfold List.removeAll
    rw [List.filter_eq_self]
    intro x hx
    obtain ⟨st, -, rfl⟩ := List.mem_map.1 hx
    split <;> simp
  unfold offered
  simp only [contains_resumable, contains_acceptable]
  cases hd : reg.get? source with
  | none => simp
  | some d =>
    dsimp only
    rw [foldl_routes _ (fun _ _ _ h => by simp only [h]) (fun _ rule h => by split <;> simp_all) _ _ hfirst,
      List.eraseDups_append, List.eraseDups_of_nodup hfirst, hnotin]
    simp

/-- No answer is offered twice. -/
theorem offered_nodup (reg : Registry) (source : StageName) (r : Rationale) :
    (offered reg source r).Nodup := by
  rw [offered_eq]
  have hroutes := List.nodup_eraseDups
    ((((reg.get? source).map fun d => Route.targetStages d.routes).getD []).map route)
  simp only [List.nodup_append, List.mem_append, List.mem_eraseDups, List.mem_map]
  split <;> split <;> simp [hroutes, or_imp, forall_and]

/-- A route is offered only to a stage that a route of the source names. -/
theorem mem_offered_route {reg : Registry} {source st : StageName} {r : Rationale}
    (h : route st ∈ offered reg source r) :
    ∃ d, reg.get? source = some d ∧ ∃ rule ∈ d.routes, rule.target = .stage st := by
  rw [offered_eq] at h
  cases hd : reg.get? source with
  | none => simp [hd] at h
  | some d =>
    simp only [hd, List.mem_append, List.mem_eraseDups, List.mem_map] at h
    -- the answers around the routes are no routes, so `st` is among the targets
    have hst : st ∈ Route.targetStages d.routes := by
      rcases h with (((hres | hret) | ⟨st', hst', heq⟩) | hcom) | hlast
      · split at hres <;> simp at hres
      · simp at hret
      · cases heq
        simpa using hst'
      · split at hcom <;> simp at hcom
      · simp at hlast
    obtain ⟨rule, hrule, hmatch⟩ := List.mem_filterMap.1 hst
    refine ⟨d, rfl, rule, hrule, ?_⟩
    split at hmatch <;> simp_all

/-- In a table whose routes stay inside it, every offered route leads to a registered stage. -/
theorem offered_route_registered {reg : Registry} {source st : StageName} {r : Rationale}
    (hin : reg.RoutesInside) (h : route st ∈ offered reg source r) : reg.contains st = true := by
  obtain ⟨d, hd, rule, hrule, ht⟩ := mem_offered_route h
  exact hin d (Registry.get?_spec hd).1 rule hrule st ht

end Resolution

/-! ### What an answer does -/

/-- The blocked epic `x` put back to work at the stage `st`: active there, with its attempts
counted from the end of its history and its next session resuming when `resumes` is set; or
completed, when the stage is terminal, keeping its resume flag only if the stage is the same. -/
def Epic.reopened (reg : Registry) (x : Epic) (st : StageName) (resumes : Bool) (now : String) : Epic :=
  if reg.isTerminal st then
    { x with stage := st, status := .completed, blockedReason := none
             resumeNext := if st = x.stage then x.resumeNext else false, updatedAt := now }
  else
    { x with stage := st, status := .active, blockedReason := none, resumeNext := resumes
             attemptFloor := x.history.length, updatedAt := now }

/-- The blocked epic `x` after the operator's answer `o`, answer by answer: resume and retry put
it back to work at its stage, only a resume asking the next session to resume; a route puts it
to work at the named stage; accepting the work completes it; abandoning it fails it; a pause
leaves it as it is. -/
def Epic.answered (reg : Registry) (x : Epic) (o : Resolution) (now : String) : Epic :=
  match o with
  | .resume => x.reopened reg x.stage true now
  | .retry => x.reopened reg x.stage false now
  | .route st => x.reopened reg st false now
  | .complete => { x with status := .completed, blockedReason := none, updatedAt := now }
  | .abandon => { x with status := .failed, blockedReason := none, updatedAt := now }
  | .pause => x

namespace EpicPolicy

variable {p : EpicPolicy} {s : Store} {id : String}

/-- A decision of no run for a blocked epic, to a target the table accepts, is taken: it is
logged, and the row moves by the table of moves. -/
theorem advance_blocked {now : String} {row : Epic} {d : Decision} (hrow : s.row? id = some row)
    (hfloor : row.attemptFloor < Nat.pow 2 63) (hb : row.status = .blocked) (hid : d.epicId = id)
    (hrun : d.runId = none) (hacc : p.registry.accepts d.target = true) :
    ∃ s₁, p.advance s id d now =
        .ok (s₁, { row.afterMove p.registry d.target d.rationale now with history := s.history id }) ∧
      s₁.escalations = s.escalations ∧ s₁.runs = s.runs ∧
      s₁.row? id = some (row.afterMove p.registry d.target d.rationale now) := by
  rcases @advance_of_row p s id d now row hrow hfloor with
    ⟨hr, -⟩ | ⟨-, s₁, hok, -, hruns, hesc, hrow₁, -⟩
  · -- none of the refusals applies
    exfalso
    rcases hr with h | h | ⟨st, hst, hc⟩ | ⟨rid, hrid, -⟩ | hnone
    · rw [hb] at h
      cases h
    · rw [hb] at h
      cases h
    · rw [hst] at hacc
      simp [Registry.accepts, hc] at hacc
    · rw [hrun] at hrid
      cases hrid
    · exact hnone row (Store.row?_spec hrow).1 ((Store.row?_spec hrow).2.trans hid.symm)
  · exact ⟨s₁, hok, hesc, hruns, hrow₁⟩

/-- An epic that an answer leaves active starts counting attempts at the end of its history
and takes the answer's resume flag; one that the answer finishes is left as the move left it. -/
def settled (resumes : Bool) (now : String) (e : Epic) : Epic :=
  if e.status = .active then { e with resumeNext := resumes, attemptFloor := e.history.length, updatedAt := now }
  else e

@[simp] theorem except_ok_bind {α β : Type} (a : α) (f : α → Except EngineError β) :
    (Except.ok a >>= f) = f a := rfl

/-- What `resolve` does once it has the target of the answer: it advances the epic by the
operator's decision and writes the epic back if the move leaves it active. For a blocked epic
and an accepted target the whole succeeds, and the store reads the epic back as `settled`
says, its attempt floor as the column keeps it. -/
theorem advance_settled {row : Epic} {d : Decision} (hrow : s.row? id = some row)
    (hfloor : row.attemptFloor < Nat.pow 2 63) (hb : row.status = .blocked) (hid : d.epicId = id)
    (hrun : d.runId = none) (hacc : p.registry.accepts d.target = true) (resumes : Bool)
    (now : String) :
    ∃ s', (p.advance s id d now >>= fun v =>
        if (v.2.status == .active) = true then
          v.1.updateEpic { v.2 with updatedAt := now, resumeNext := resumes, attemptFloor := v.2.history.length } >>=
            fun s' => pure (s', { v.2 with updatedAt := now, resumeNext := resumes, attemptFloor := v.2.history.length })
        else pure (v.1, v.2)) =
        .ok (s', settled resumes now
          { row.afterMove p.registry d.target d.rationale now with history := s.history id }) ∧
      s'.escalations = s.escalations ∧ s'.runs = s.runs ∧
      s'.epic? id = some { settled resumes now
          { row.afterMove p.registry d.target d.rationale now with history := s.history id } with
        attemptFloor := Store.storedCount (settled resumes now
          { row.afterMove p.registry d.target d.rationale now with history := s.history id }).attemptFloor } := by
  obtain ⟨s₁, hadv, hesc₁, hruns₁, hrow₁⟩ := advance_blocked hrow hfloor hb hid hrun hacc
  have hmid : (row.afterMove p.registry d.target d.rationale now).id = id := by
    unfold Epic.afterMove
    split <;> exact (Store.row?_spec hrow).2
  have hmfloor : (row.afterMove p.registry d.target d.rationale now).attemptFloor = row.attemptFloor := by
    unfold Epic.afterMove
    split <;> rfl
  have hhist : ∀ s' : Store, s'.runs = s.runs → s'.history id = s.history id := by
    intro s' h
    simp [Store.history, h]
  rw [hadv, except_ok_bind]
  dsimp only
  by_cases hact : (row.afterMove p.registry d.target d.rationale now).status = .active
  · -- the epic is active again: it is written back with its attempts restarted
    rw [if_pos (by simp [hact])]
    obtain ⟨s', hup, -, hruns', hesc', hrow', -⟩ := Store.updateEpic_of_row (s := s₁)
      (e := { row.afterMove p.registry d.target d.rationale now with
                history := s.history id, updatedAt := now, resumeNext := resumes
                attemptFloor := (s.history id).length }) (hmid ▸ hrow₁)
    refine ⟨s', ?_, hesc'.trans hesc₁, hruns'.trans hruns₁, ?_⟩
    · rw [hup, except_ok_bind]
      simp [settled, hact, pure, Except.pure]
    · rw [Store.epic?_eq, ← hmid, hrow', hmid, hhist s' (hruns'.trans hruns₁)]
      simp [settled, hact]
  · -- the move finished the epic: nothing more is written
    rw [if_neg (by simp [hact])]
    refine ⟨s₁, ?_, hesc₁, hruns₁, ?_⟩
    · simp [settled, hact, pure, Except.pure]
    · rw [Store.epic?_eq, hrow₁, hhist s₁ hruns₁]
      simp [settled, hact, hmfloor, Store.storedCount_of_lt hfloor]

/-- Put back to work at a stage by a move, an epic is reopened there. -/
theorem settled_stage {now : String} (reg : Registry) (row : Epic) (st : StageName) (resumes : Bool) (h : List String) :
    settled resumes now { row.afterMove reg (.stage st) .resolution now with history := h } =
      ({ row with history := h } : Epic).reopened reg st resumes now := by
  unfold settled Epic.afterMove Epic.reopened
  by_cases hterm : reg.isTerminal st = true <;> simp [hterm]

/-- An answer to a blocked epic does what `Epic.answered` says: every answer but a pause is
taken when its target is in the table, and the store reads the epic back as answered, its
attempt floor as the column keeps it. -/
theorem resolve_answered {x : Epic} {o : Resolution} (now : String) (hkept : EpicsKept p s) (hx : s.epic? id = some x)
    (hb : x.status = .blocked) (hroute : ∀ st, o = .route st → p.registry.contains st = true)
    (hne : o ≠ .pause) :
    ∃ s', p.resolve s id o now = .ok (s', x.answered p.registry o now) ∧ s'.escalations = s.escalations ∧
      s'.runs = s.runs ∧
      s'.epic? id = some { x.answered p.registry o now with
        attemptFloor := Store.storedCount (x.answered p.registry o now).attemptFloor } := by
  rw [Store.epic?_eq] at hx
  obtain ⟨row, hrow, rfl⟩ := Option.map_eq_some_iff.1 hx
  have hget := get_of_row hrow
  obtain ⟨hmem, hrowid⟩ := Store.row?_spec hrow
  subst hrowid
  have hfloor := hkept.floorFits row hmem
  have hstage := hkept.registered row hmem
  have hb' : row.status = .blocked := hb
  -- each answer but a pause is an operator's decision, for the epic, to a target in the table;
  -- `advance_settled` runs it, and the epic it settles on is the answered one
  cases o with
  | pause => exact absurd rfl hne
  | resume =>
    obtain ⟨s', h, hesc, hruns, hepic⟩ := advance_settled (p := p) (d := ⟨row.id, none, row.stage,
      .stage row.stage, .normal, .resolution, ["operator chose " ++ Resolution.resume.text], now⟩)
      hrow hfloor hb' rfl rfl hstage true now
    rw [settled_stage] at h hepic
    refine ⟨s', ?_, hesc, hruns, hepic⟩
    simp only [resolve, hget, hb', bne_self_eq_false, Bool.false_eq_true, if_false, except_ok_bind,
      beq_self_eq_true]
    rw [hb'] at h
    exact h
  | retry =>
    obtain ⟨s', h, hesc, hruns, hepic⟩ := advance_settled (p := p) (d := ⟨row.id, none, row.stage,
      .stage row.stage, .normal, .resolution, ["operator chose " ++ Resolution.retry.text], now⟩)
      hrow hfloor hb' rfl rfl hstage false now
    rw [settled_stage] at h hepic
    refine ⟨s', ?_, hesc, hruns, hepic⟩
    simp only [resolve, hget, hb', bne_self_eq_false, Bool.false_eq_true, if_false, except_ok_bind]
    rw [hb'] at h
    exact h
  | route st =>
    obtain ⟨s', h, hesc, hruns, hepic⟩ := advance_settled (p := p) (d := ⟨row.id, none, row.stage,
      .stage st, .normal, .resolution, ["operator chose " ++ (Resolution.route st).text], now⟩)
      hrow hfloor hb' rfl rfl (hroute st rfl) false now
    rw [settled_stage] at h hepic
    refine ⟨s', ?_, hesc, hruns, hepic⟩
    simp only [resolve, hget, hb', bne_self_eq_false, Bool.false_eq_true, if_false, except_ok_bind]
    rw [hb'] at h
    exact h
  | complete =>
    obtain ⟨s', h, hesc, hruns, hepic⟩ := advance_settled (p := p) (d := ⟨row.id, none, row.stage,
      .completed, .normal, .resolution, ["operator chose " ++ Resolution.complete.text], now⟩)
      hrow hfloor hb' rfl rfl rfl false now
    refine ⟨s', ?_, hesc, hruns, ?_⟩
    · simp only [resolve, hget, hb', bne_self_eq_false, Bool.false_eq_true, if_false, except_ok_bind]
      exact h.trans (by simp [settled, Epic.afterMove, Epic.answered])
    · exact hepic.trans (by simp [settled, Epic.afterMove, Epic.answered])
  | abandon =>
    obtain ⟨s', h, hesc, hruns, hepic⟩ := advance_settled (p := p) (d := ⟨row.id, none, row.stage,
      .failed, .normal, .resolution, ["operator chose " ++ Resolution.abandon.text], now⟩)
      hrow hfloor hb' rfl rfl rfl false now
    refine ⟨s', ?_, hesc, hruns, ?_⟩
    · simp only [resolve, hget, hb', bne_self_eq_false, Bool.false_eq_true, if_false, except_ok_bind]
      exact h.trans (by simp [settled, Epic.afterMove, Epic.answered])
    · exact hepic.trans (by simp [settled, Epic.afterMove, Epic.answered])

/-- Answering an open escalation records the answer and the time on it, and touches neither the
epics nor the runs. -/
theorem resolveEscalation_recorded {n : Int} {r : EscalationRecord} (o : Resolution) (now : String)
    (hr : s.escalation? n = some r) (hopen : r.isOpen = true) :
    ∃ s', s.resolveEscalation n o now = .ok s' ∧
      s'.escalation? n = some { r with resolvedAt := some now, resolution := some o } ∧
      s'.epics = s.epics ∧ s'.runs = s.runs := by
  obtain ⟨hmem, hid⟩ := Store.escalation?_spec hr
  have hany : (s.escalations.any fun r => (r.id : Int) == n && r.isOpen) = true :=
    List.any_eq_true.2 ⟨r, hmem, by simp [hid, hopen]⟩
  unfold Store.resolveEscalation
  rw [if_pos hany]
  refine ⟨_, rfl, ?_, rfl, rfl⟩
  -- the answer keeps every number, so the record found under `n` is the one answered
  unfold Store.escalation?
  rw [List.find?_map]
  have hkeep : ((fun r : EscalationRecord => (r.id : Int) == n) ∘ fun r =>
      if ((r.id : Int) == n && r.isOpen) = true then { r with resolvedAt := some now, resolution := some o }
      else r) = fun r => (r.id : Int) == n := by
    funext x
    simp only [Function.comp]
    split <;> rfl
  rw [hkeep]
  unfold Store.escalation? at hr
  rw [hr]
  simp [hid, hopen]

/-- An answer that the escalation does not offer, and that is no pause, is refused as an invalid
transition that names the offered answers; it writes nothing. -/
theorem answer_refused {now : String} {n : Int} {r : EscalationRecord} {o : Resolution} (hr : s.escalation? n = some r)
    (hopen : r.isOpen = true) (hallow : r.message.allows o = false) :
    p.answer s n o now = .error (.invalidTransition ("'" ++ o.text ++
      "' is not an offered option for escalation " ++ Text.intText n ++ " (offered: " ++
      ", ".intercalate (r.message.options.map Resolution.text) ++ ")")) := by
  simp only [answer, hr, hopen, hallow, Bool.not_true, Bool.not_false, Bool.false_eq_true, if_false, if_true]
  rfl

/-- A pause leaves the store as it was, the escalation open and the blocked epic as it is. -/
theorem answer_pause {now : String} {n : Int} {r : EscalationRecord} {x : Epic} (hr : s.escalation? n = some r)
    (hopen : r.isOpen = true) (hx : s.epic? r.message.epicId = some x) (hb : x.status = .blocked) :
    p.answer s n .pause now = .ok (s, x) := by
  simp [answer, hr, hopen, EscalationMessage.allows_pause, resolve_pause p s _ now x hx hb]

/-- An offered answer other than a pause, to an open escalation of a blocked epic, is taken when
its route, if any, leads into the table: it is recorded on the escalation, and the epic is
answered as `Epic.answered` says. -/
theorem answer_offered {now : String} {n : Int} {r : EscalationRecord} {x : Epic} {o : Resolution}
    (hkept : EpicsKept p s) (hr : s.escalation? n = some r) (hopen : r.isOpen = true)
    (hx : s.epic? r.message.epicId = some x) (hb : x.status = .blocked) (ho : o ∈ r.message.options)
    (hne : o ≠ .pause) (hroute : ∀ st, o = .route st → p.registry.contains st = true) :
    ∃ s', p.answer s n o now = .ok (s', x.answered p.registry o now) ∧
      s'.escalation? n = some { r with resolvedAt := some now, resolution := some o } ∧
      s'.epic? r.message.epicId = some { x.answered p.registry o now with
        attemptFloor := Store.storedCount (x.answered p.registry o now).attemptFloor } := by
  obtain ⟨s₁, hres, hesc₁, hruns₁, hepic₁⟩ := resolve_answered now hkept hx hb hroute hne
  have hr₁ : s₁.escalation? n = some r := by
    unfold Store.escalation?
    rw [hesc₁]
    exact hr
  obtain ⟨s', hrec, hr', hepics', hruns'⟩ := resolveEscalation_recorded o now hr₁ hopen
  have hallow : r.message.allows o = true := by simp [EscalationMessage.allows, ho]
  have hnp : (o == .pause) = false := by simpa using hne
  refine ⟨s', ?_, hr', ?_⟩
  · simp only [answer, hr, hopen, hallow, Bool.not_true, Bool.false_eq_true, if_false, hres,
      except_ok_bind, hnp, hrec]
    rfl
  · -- the answer's record leaves the epics and the runs, and so the epic as read
    rw [Store.epic?_eq, ← hepic₁, Store.epic?_eq]
    simp [Store.row?, Store.history, hepics', hruns']

end EpicPolicy

/-- Over a table built from descriptors, the offer of every decision handed to an operator is
the documented list, in order and without repeats. Each answer to an open escalation that
carries such an offer, for a blocked epic of a store that keeps the rules of its policy, does
what it is documented to do. An answer that is neither offered nor a pause is refused, naming
what is offered, and nothing is written. A pause returns the epic as it is and leaves the store,
and so the escalation, untouched. Every other offered answer is taken; no offered route is
refused. The answer is recorded on the escalation, and the epic is read back as
`Epic.answered` says. -/
theorem answers_follow_offer {ds : List StageDescriptor} {p : EpicPolicy}
    (hreg : Registry.ofDescriptors ds = .ok p.registry) :
    (∀ (eid : String) (d : Decision) (turns : Nat) (cost : Float) (home : Option String)
        (raised : String),
      (EscalationMessage.ofDecision p.registry eid d turns cost home raised).options =
        (if d.rationale = .stuck ∨ d.rationale = .interrupted ∨ d.rationale = .aborted ∨
            d.rationale = .cardUnreachable ∨ d.rationale = .budgetExceeded
          then [Resolution.resume] else []) ++ [.retry] ++
        ((((p.registry.get? d.source).map fun sd => Route.targetStages sd.routes).getD []).map
          Resolution.route).eraseDups ++
        (if d.rationale = .breakingChange ∨ d.rationale = .securityRisk ∨
            d.rationale = .scopeViolation ∨ d.rationale = .signalMissing
          then [.complete] else []) ++ [.abandon, .pause] ∧
      (EscalationMessage.ofDecision p.registry eid d turns cost home raised).options.Nodup) ∧
    ∀ (s : Store) (n : Int) (r : EscalationRecord) (x : Epic) (o : Resolution) (now : String),
      EpicsKept p s → s.escalation? n = some r → r.isOpen = true →
      r.message.options = Resolution.offered p.registry r.message.stage r.message.rationale →
      s.epic? r.message.epicId = some x → x.status = .blocked →
      (o ∉ r.message.options → o ≠ .pause →
        p.answer s n o now = .error (.invalidTransition ("'" ++ o.text ++
          "' is not an offered option for escalation " ++ Text.intText n ++ " (offered: " ++
          ", ".intercalate (r.message.options.map Resolution.text) ++ ")"))) ∧
      (o = .pause → p.answer s n o now = .ok (s, x)) ∧
      (o ∈ r.message.options → o ≠ .pause →
        ∃ s', p.answer s n o now = .ok (s', x.answered p.registry o now) ∧
          s'.escalation? n = some { r with resolvedAt := some now, resolution := some o } ∧
          s'.epic? r.message.epicId = some { x.answered p.registry o now with
            attemptFloor := Store.storedCount (x.answered p.registry o now).attemptFloor }) := by
  have hin := (Registry.ofDescriptors_eq_ok hreg).1.2
  refine ⟨fun eid d turns cost home raised =>
    ⟨Resolution.offered_eq _ _ _, Resolution.offered_nodup _ _ _⟩, ?_⟩
  intro s n r x o now hkept hr hopen hoffer hx hb
  refine ⟨fun hno hnp => ?_, ?_, fun ho hnp => ?_⟩
  · -- neither offered nor a pause: the message does not allow it
    have hallow : r.message.allows o = false := by
      simpa [EscalationMessage.allows, hnp] using hno
    exact EpicPolicy.answer_refused hr hopen hallow
  · rintro rfl
    exact EpicPolicy.answer_pause hr hopen hx hb
  · -- an offered route was offered from the table, whose routes stay inside it
    have hroute : ∀ st, o = .route st → p.registry.contains st = true := by
      rintro st rfl
      rw [hoffer] at ho
      exact Resolution.offered_route_registered hin ho
    exact EpicPolicy.answer_offered hkept hr hopen hx hb ho hnp hroute

/-- The built-in stages are the table built from the default descriptors. The security risk of
`epic-1`, held at `DESIGN`, offers its answers, and a retry of it is taken. -/
theorem risk_answers_follow_offer :
    Registry.ofDescriptors StageDescriptor.defaults = .ok builtinPolicy.registry ∧
      EpicsKept builtinPolicy riskStore ∧ riskStore.escalation? 1 = some ⟨1, riskMessage, none, none⟩ ∧
      riskMessage.options = Resolution.offered builtinPolicy.registry riskMessage.stage
        riskMessage.rationale ∧
      riskStore.epic? "epic-1" = some { riskHeldEpic with history := [] } ∧
      ∃ s', builtinPolicy.answer riskStore 1 .retry "t1" =
        .ok (s', ({ riskHeldEpic with history := [] } : Epic).answered builtinPolicy.registry .retry "t1") := by
  have hreg : Registry.ofDescriptors StageDescriptor.defaults = .ok builtinPolicy.registry := rfl
  have hkept : EpicsKept builtinPolicy riskStore := by
    constructor <;> intro e he <;> rw [riskStore, List.mem_singleton] at he <;> subst he <;> decide
  refine ⟨hreg, hkept, rfl, rfl, rfl, ?_⟩
  obtain ⟨s', h, -⟩ := ((answers_follow_offer hreg).2 riskStore 1 ⟨1, riskMessage, none, none⟩
    { riskHeldEpic with history := [] } .retry "t1" hkept rfl rfl rfl rfl rfl).2.2 (by decide) (by decide)
  exact ⟨s', h⟩

end EpicFlow
