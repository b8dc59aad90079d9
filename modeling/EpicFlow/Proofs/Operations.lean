import EpicFlow.Proofs.Rows

/-!
# The operations of the policy move the store lawfully

Every operation that the policy offers on the store (`create`, `advance`, `block`,
`clearResume`, `resolve`, `overrideStage`, `escalate`) either fails, returning no store, or
moves the store lawfully (`Lawful`): the rules of the stored epics carry over, decisions are
only added, a finished epic keeps its status, and an epic turns completed only through a
logged decision that targets `COMPLETED` or a terminal stage.

Each operation is first inverted into what it read, what it checked and what it wrote
(`advance_eq_ok`, `block_eq_ok`, ...); the lawfulness lemmas are then short. The decisions
move an epic through `moved`, whose lemmas say what a move keeps.

A finished epic takes no more moves: `advance`, `block`, `resolve` and `overrideStage` all
fail on it.

Main statements:

* `Lawful.advance`, `Lawful.block`, `Lawful.clearResume`, `Lawful.resolve`,
  `Lawful.overrideStage`, `Lawful.create`, `Lawful.escalate`.
* `advance_refused`, `block_refused`, `resolve_refused`, `overrideStage_refused`.
-/

set_option autoImplicit false

namespace EpicFlow

namespace Store

variable {s s' : Store} {e : Epic}

/-- After `updateEpic e`, the row of `e` carries what was written. -/
theorem row?_updateEpic (h : s.updateEpic e = .ok s') :
    ∃ y, s'.row? e.id = some y ∧ y.stage = e.stage ∧ y.status = e.status ∧
      y.blockedReason = e.blockedReason ∧ y.attemptFloor = storedCount e.attemptFloor := by
  have hany : s.epics.any (·.id == e.id) = true := by
    unfold Store.updateEpic at h
    split at h
    · assumption
    · cases h
  obtain ⟨f, hf, rfl⟩ := updateEpic_eq_ok h
  -- the write succeeded, so the epic has a row to rewrite
  obtain ⟨x, hx⟩ : ∃ x, s.row? e.id = some x := by
    rw [List.any_eq_true] at hany
    obtain ⟨x, hmem, hid⟩ := hany
    exact Option.isSome_iff_exists.1 (List.find?_isSome.2 ⟨x, hmem, hid⟩)
  have hxid : x.id = e.id := (row?_spec hx).2
  refine ⟨f x, ?_, hf.stage x hxid, hf.status x hxid, hf.blockedReason x hxid,
    hf.attemptFloor x hxid⟩
  rw [row?_of_map hf.id rfl, hx]
  rfl

/-- A fresh epic's row is appended, so the rows of the other ids are found as before. -/
theorem row?_insertEpic (h : s.insertEpic e = .ok s') (id : String) :
    s'.row? id = (s.row? id).or (if e.id = id then some { e with history := [] } else none) := by
  obtain ⟨-, rfl⟩ := insertEpic_eq_ok h
  unfold row?
  rw [List.find?_append]
  by_cases hid : e.id = id <;> simp [hid]

end Store

namespace EpicPolicy

variable {p : EpicPolicy} {s s' : Store} {id now : String}

/-- Reading an epic finds its row and attaches the history. -/
theorem get_eq_ok {e : Epic} (h : get s id = .ok e) :
    ∃ x, s.row? id = some x ∧ e = { x with history := s.history id } := by
  unfold get at h
  split at h
  · rename_i x hx
    cases h
    rw [Store.epic?_eq] at hx
    obtain ⟨y, hy, rfl⟩ := Option.map_eq_some_iff.1 hx
    exact ⟨y, hy, rfl⟩
  · cases h

/-- An epic that passes `checkOpen` is not finished. -/
theorem checkOpen_eq_ok {e : Epic} {u : Unit} (h : checkOpen e = .ok u) :
    e.status.isTerminal = false := by
  unfold checkOpen at h
  split at h
  · cases h
  · rename_i hopen
    simpa using hopen

/-! ### Moving an epic by a decision -/

section Moved

variable {e : Epic} {d : Decision}

@[simp] theorem moved_id : (p.moved e d now).id = e.id := by
  unfold moved
  split <;> rfl

@[simp] theorem moved_history : (p.moved e d now).history = e.history := by
  unfold moved
  split <;> rfl

@[simp] theorem moved_attemptFloor : (p.moved e d now).attemptFloor = e.attemptFloor := by
  unfold moved
  split <;> rfl

/-- A moved epic has a blocked reason exactly when the move blocked it. -/
theorem moved_blocked :
    ((p.moved e d now).blockedReason.isSome ↔ (p.moved e d now).status = .blocked) := by
  unfold moved
  split
  · simp
  · simp
  · simp
  · -- a stage target clears the reason and leaves the epic active or completed
    split <;> simp

/-- A move by an accepted target keeps the epic at a registered stage. -/
theorem moved_registered (hacc : p.registry.accepts d.target = true)
    (hreg : p.registry.contains e.stage = true) : p.registry.contains (p.moved e d now).stage = true := by
  unfold moved
  split
  · exact hreg
  · exact hreg
  · exact hreg
  · rename_i st hst
    rw [hst] at hacc
    exact hacc

/-- A decision for an operator blocks the epic. -/
theorem moved_human (h : d.target = .human) : (p.moved e d now).status = .blocked := by
  unfold moved
  rw [h]

/-- A move completes the epic only when its decision completes it. -/
theorem moved_completes (h : (p.moved e d now).status = .completed) : Completes p d := by
  unfold moved at h
  split at h
  · cases h
  · rename_i ht
    exact Or.inl ht
  · cases h
  · rename_i st ht
    simp only at h
    split at h
    · rename_i hterm
      exact Or.inr ⟨st, ht, hterm⟩
    · cases h

end Moved

/-! ### Inversions -/

/-- A successful `advance` read a row that was not finished, accepted the target, logged the
decision and wrote the moved epic. -/
theorem advance_eq_ok {d : Decision} {e' : Epic} (h : p.advance s id d now = .ok (s', e')) :
    ∃ x, s.row? id = some x ∧ x.status.isTerminal = false ∧ p.registry.accepts d.target = true ∧
      e' = p.moved { x with history := s.history id } d now ∧
      ∃ f, Store.Rewrites e' f ∧ s' = { s with decisions := s.decisions ++ [d], epics := s.epics.map f } := by
  unfold advance at h
  obtain ⟨e, he, h⟩ := except_bind_eq_ok h
  obtain ⟨u, hu, h⟩ := except_bind_eq_ok h
  obtain ⟨x, hx, rfl⟩ := get_eq_ok he
  have hopen : x.status.isTerminal = false := checkOpen_eq_ok hu
  -- a target outside the table is refused before anything is written
  by_cases hacc : p.registry.accepts d.target = true
  · simp only [hacc, Bool.not_true, Bool.false_eq_true, if_false] at h
    obtain ⟨s₁, h₁, h⟩ := except_bind_eq_ok h
    obtain ⟨s₂, h₂, h⟩ := except_bind_eq_ok h
    simp only [pure, Except.pure, Except.ok.injEq, Prod.mk.injEq] at h
    obtain ⟨rfl, rfl⟩ := h
    obtain ⟨f, hf, rfl⟩ := Store.updateEpic_eq_ok h₂
    rw [Store.insertDecision_eq_ok h₁]
    exact ⟨x, hx, hopen, hacc, rfl, f, hf, rfl⟩
  · simp only [hacc, Bool.not_false, if_true] at h
    cases h

/-- A successful `block` read an open row and wrote it blocked for the reason. -/
theorem block_eq_ok {r : Rationale} {e' : Epic} (h : block s id r now = .ok (s', e')) :
    ∃ x, s.row? id = some x ∧ x.status.isTerminal = false ∧
      e' = { x with history := s.history id, status := .blocked, blockedReason := some r, updatedAt := now } ∧
      s.updateEpic e' = .ok s' := by
  unfold block at h
  obtain ⟨e, he, h⟩ := except_bind_eq_ok h
  obtain ⟨u, hu, h⟩ := except_bind_eq_ok h
  obtain ⟨x, hx, rfl⟩ := get_eq_ok he
  obtain ⟨s₁, h₁, h⟩ := except_bind_eq_ok h
  simp only [pure, Except.pure, Except.ok.injEq, Prod.mk.injEq] at h
  obtain ⟨rfl, rfl⟩ := h
  exact ⟨x, hx, checkOpen_eq_ok hu, rfl, h₁⟩

/-- A successful `clearResume` read a row and either left the store alone or wrote the row
back with the flag cleared. -/
theorem clearResume_eq_ok (h : clearResume s id now = .ok s') :
    ∃ x, s.row? id = some x ∧
      (s' = s ∨ s.updateEpic { x with history := s.history id, resumeNext := false, updatedAt := now } = .ok s') := by
  unfold clearResume at h
  obtain ⟨e, he, h⟩ := except_bind_eq_ok h
  obtain ⟨x, hx, rfl⟩ := get_eq_ok he
  refine ⟨x, hx, ?_⟩
  split at h
  · exact Or.inr h
  · simp only [pure, Except.pure, Except.ok.injEq] at h
    exact Or.inl h.symm

/-- A successful `resolve` read a blocked row. A pause leaves the store alone; any other answer
advances the epic by a decision of rationale `Resolution` and, if the epic stays active, writes
it back with the count of attempts restarted at the end of its history. -/
theorem resolve_eq_ok {o : Resolution} {e' : Epic} (h : p.resolve s id o now = .ok (s', e')) :
    ∃ x, s.row? id = some x ∧ x.status = .blocked ∧
      (s' = s ∨ ∃ d s₁ e₁, p.advance s x.id d now = .ok (s₁, e₁) ∧ d.rationale = .resolution ∧
        (s' = s₁ ∨ e₁.status = .active ∧
          s₁.updateEpic { e₁ with resumeNext := o == .resume, attemptFloor := e₁.history.length, updatedAt := now } = .ok s')) := by
  unfold resolve at h
  obtain ⟨e, he, h⟩ := except_bind_eq_ok h
  obtain ⟨x, hx, rfl⟩ := get_eq_ok he
  by_cases hb : x.status = .blocked
  · refine ⟨x, hx, hb, ?_⟩
    simp only [hb, bne_self_eq_false, Bool.false_eq_true, if_false] at h
    -- the answer fixes the target; every answer but a pause goes through `advance`
    cases o
    case pause =>
      simp only [pure, Except.pure, Except.ok.injEq, Prod.mk.injEq] at h
      exact Or.inl h.1.symm
    all_goals
      simp only at h
      obtain ⟨⟨s₁, e₁⟩, h₁, h⟩ := except_bind_eq_ok h
      refine Or.inr ⟨_, s₁, e₁, h₁, rfl, ?_⟩
      simp only at h
      split at h
      · rename_i hact
        obtain ⟨s₂, h₂, h⟩ := except_bind_eq_ok h
        simp only [pure, Except.pure, Except.ok.injEq, Prod.mk.injEq] at h
        obtain ⟨rfl, rfl⟩ := h
        exact Or.inr ⟨by simpa using hact, h₂⟩
      · simp only [pure, Except.pure, Except.ok.injEq, Prod.mk.injEq] at h
        exact Or.inl h.1.symm
  · have hne : (x.status != .blocked) = true := by simpa using hb
    simp only [hne, if_true] at h
    cases h

/-- A successful `overrideStage` read a row, advanced the epic by a decision of rationale
`Override`, and wrote it back with the count of attempts restarted at the end of its history. -/
theorem overrideStage_eq_ok {stage : String} {e' : Epic} (h : p.overrideStage s id stage now = .ok (s', e')) :
    ∃ x, s.row? id = some x ∧ ∃ d s₁ e₁, p.advance s x.id d now = .ok (s₁, e₁) ∧
      d.rationale = .override ∧ s₁.updateEpic { e₁ with attemptFloor := e₁.history.length } = .ok s' := by
  unfold overrideStage at h
  obtain ⟨e, he, h⟩ := except_bind_eq_ok h
  obtain ⟨x, hx, rfl⟩ := get_eq_ok he
  refine ⟨x, hx, ?_⟩
  split at h
  · -- an unknown stage is refused, and so is an epic with a running stage
    split at h
    · cases h
    · obtain ⟨⟨s₁, e₁⟩, h₁, h⟩ := except_bind_eq_ok h
      simp only at h
      obtain ⟨s₂, h₂, h⟩ := except_bind_eq_ok h
      simp only [pure, Except.pure, Except.ok.injEq, Prod.mk.injEq] at h
      obtain ⟨rfl, -⟩ := h
      exact ⟨_, s₁, e₁, h₁, rfl, h₂⟩
  · cases h

/-- A successful `create` appended a fresh epic. -/
theorem create_eq_ok {objective : String} {e : Epic} (h : p.create s id objective now = .ok (s', e)) :
    e = Epic.fresh p.workspaceRoot id objective p.initialStage now ∧ s.insertEpic e = .ok s' := by
  unfold create at h
  obtain ⟨s₁, h₁, h⟩ := except_bind_eq_ok h
  simp only [pure, Except.pure, Except.ok.injEq, Prod.mk.injEq] at h
  obtain ⟨rfl, rfl⟩ := h
  exact ⟨rfl, h₁⟩

/-- A successful `escalate` either reused an open escalation or recorded a new one. -/
theorem escalate_eq_ok {e : Epic} {d : Decision} {home : Option String} {n : Nat}
    (h : p.escalate s e d home now = .ok (s', n)) :
    s' = s ∨ ∃ m, s.insertEscalation m = .ok (s', n) := by
  unfold escalate at h
  simp only at h
  split at h
  · split at h
    · simp only [Except.ok.injEq, Prod.mk.injEq] at h
      exact Or.inl h.1.symm
    · exact Or.inr ⟨_, h⟩
  · exact Or.inr ⟨_, h⟩

/-! ### A finished epic takes no more moves -/

variable {x : Epic}

theorem advance_refused (hx : s.row? id = some x) (ht : x.status.isTerminal = true) (d : Decision)
    (res : Store × Epic) : p.advance s id d now ≠ .ok res := by
  intro h
  obtain ⟨x', hx', hopen, -⟩ := advance_eq_ok h
  rw [hx] at hx'
  cases hx'
  rw [ht] at hopen
  cases hopen

theorem block_refused (hx : s.row? id = some x) (ht : x.status.isTerminal = true) (r : Rationale)
    (res : Store × Epic) : block s id r now ≠ .ok res := by
  intro h
  obtain ⟨x', hx', hopen, -⟩ := block_eq_ok h
  rw [hx] at hx'
  cases hx'
  rw [ht] at hopen
  cases hopen

theorem resolve_refused (hx : s.row? id = some x) (ht : x.status.isTerminal = true) (o : Resolution)
    (res : Store × Epic) : p.resolve s id o now ≠ .ok res := by
  intro h
  obtain ⟨x', hx', hb, -⟩ := resolve_eq_ok h
  rw [hx] at hx'
  cases hx'
  rw [hb] at ht
  cases ht

theorem overrideStage_refused (hx : s.row? id = some x) (ht : x.status.isTerminal = true)
    (stage : String) (res : Store × Epic) : p.overrideStage s id stage now ≠ .ok res := by
  intro h
  obtain ⟨x', hx', d, s₁, e₁, h₁, -⟩ := overrideStage_eq_ok h
  rw [hx] at hx'
  cases hx'
  -- the override advances the epic it read, which is the finished one
  obtain ⟨x'', hx'', hopen, -⟩ := advance_eq_ok h₁
  rw [(Store.row?_spec hx).2, hx] at hx''
  cases hx''
  rw [ht] at hopen
  cases hopen

/-- The epic `advance` answers is its stored row, moved: it has the id it was asked for and
the attempt floor of the row, and an operator's decision leaves it blocked. -/
theorem advance_answer {d : Decision} {e' : Epic} (h : p.advance s id d now = .ok (s', e')) :
    e'.id = id ∧ (∃ row, s.row? id = some row ∧ e'.attemptFloor = row.attemptFloor) ∧
      (d.target = .human → e'.status = .blocked) := by
  obtain ⟨x, hx, -, -, rfl, -⟩ := advance_eq_ok h
  refine ⟨?_, ⟨x, hx, moved_attemptFloor⟩, moved_human⟩
  rw [moved_id]
  exact (Store.row?_spec hx).2

/-- After `advance`, the row of the epic shows the moved epic, the runs are as they were, and
the moved epic carries the history it was read with. -/
theorem advance_row {d : Decision} {e' : Epic} (h : p.advance s id d now = .ok (s', e')) :
    (∃ y, s'.row? e'.id = some y ∧ y.status = e'.status ∧ y.stage = e'.stage ∧
      y.blockedReason = e'.blockedReason) ∧ s'.runs = s.runs ∧ e'.history = s.history id ∧ e'.id = id := by
  obtain ⟨x, hx, -, -, rfl, f, hf, rfl⟩ := advance_eq_ok h
  have hxid : x.id = id := (Store.row?_spec hx).2
  have hid : (p.moved { x with history := s.history id } d now).id = x.id := moved_id
  refine ⟨⟨f x, ?_, hf.status x hid.symm, hf.stage x hid.symm, hf.blockedReason x hid.symm⟩,
    rfl, moved_history, hid.trans hxid⟩
  rw [Store.row?_of_map hf.id rfl, hid, hxid, hx]
  rfl

end EpicPolicy

/-! ### Lawfulness -/

namespace Lawful

variable {p : EpicPolicy} {s s' : Store} {id now : String}

/-- Rewriting the rows of one epic is lawful when the written epic keeps the rules, and the
epic's first row either was open or keeps its status, and turns completed only through a
decision logged by the same write. -/
theorem rewrite {e x : Epic} {f : Epic → Epic} (hf : Store.Rewrites e f)
    (hs' : s'.epics = s.epics.map f) (hruns : s'.runs = s.runs) (hdec : s.decisions <+: s'.decisions)
    (hx : s.row? e.id = some x) (hb : EpicsKept p s → (e.blockedReason.isSome ↔ e.status = .blocked))
    (hreg : EpicsKept p s → p.registry.contains e.stage = true)
    (hfloor : EpicsKept p s → e.attemptFloor ≤ (s.runsOf e.id).length)
    (hfin : x.status.isTerminal = true → e.status = x.status)
    (hcomp : e.status = .completed → x.status ≠ .completed →
      ∃ d ∈ s'.decisions.drop s.decisions.length, Completes p d) : Lawful p s s' := by
  refine ⟨fun hk => hk.rewrite hf hs' hruns (hb hk) (hreg hk) (hfloor hk),
    Evolves.rewrite hf hs' hdec ?_ ?_⟩
  · intro x' hx' hterm
    rw [hx] at hx'
    cases hx'
    exact hfin hterm
  · intro hc hnot
    exact hcomp hc (hnot x hx)

/-- Writing an epic back with the status, stage and blocked reason of its row, and a floor
within its runs, is lawful. -/
theorem updateEpic_same {e x : Epic} (h : s.updateEpic e = .ok s') (hx : s.row? e.id = some x)
    (hstatus : e.status = x.status) (hstage : e.stage = x.stage)
    (hreason : e.blockedReason = x.blockedReason)
    (hfloor : EpicsKept p s → e.attemptFloor ≤ (s.runsOf e.id).length) : Lawful p s s' := by
  obtain ⟨f, hf, rfl⟩ := Store.updateEpic_eq_ok h
  have hxmem : x ∈ s.epics := (Store.row?_spec hx).1
  refine rewrite hf rfl rfl (List.prefix_refl _) hx ?_ ?_ hfloor (fun _ => hstatus) ?_
  · intro hk
    rw [hreason, hstatus]
    exact hk.blocked x hxmem
  · intro hk
    rw [hstage]
    exact hk.registered x hxmem
  · intro hc hne
    exact absurd (hstatus ▸ hc) hne

theorem advance {d : Decision} {e' : Epic} (h : p.advance s id d now = .ok (s', e')) :
    Lawful p s s' := by
  obtain ⟨x, hx, hopen, hacc, rfl, f, hf, rfl⟩ := EpicPolicy.advance_eq_ok h
  obtain ⟨hxmem, hxid⟩ := Store.row?_spec hx
  have hid : (p.moved { x with history := s.history id } d now).id = x.id := EpicPolicy.moved_id
  refine rewrite hf rfl rfl (List.prefix_append _ _) (by rw [hid, hxid]; exact hx)
    (fun _ => EpicPolicy.moved_blocked) (fun hk => EpicPolicy.moved_registered hacc (hk.registered x hxmem))
    ?_ ?_ ?_
  · intro hk
    rw [EpicPolicy.moved_attemptFloor, hid]
    exact hk.floor x hxmem
  · -- the row was open, so there is no finished status to keep
    intro hterm
    rw [hopen] at hterm
    cases hterm
  · -- the decision just logged is the one that completes the epic
    intro hc _
    refine ⟨d, ?_, EpicPolicy.moved_completes hc⟩
    simp

theorem block {r : Rationale} {e' : Epic} (h : EpicPolicy.block s id r now = .ok (s', e')) :
    Lawful p s s' := by
  obtain ⟨x, hx, hopen, rfl, hw⟩ := EpicPolicy.block_eq_ok h
  obtain ⟨f, hf, rfl⟩ := Store.updateEpic_eq_ok hw
  obtain ⟨hxmem, hxid⟩ := Store.row?_spec hx
  refine rewrite hf rfl rfl (List.prefix_refl _) (?_ : s.row? x.id = some x) (fun _ => by simp)
    (fun hk => hk.registered x hxmem) (fun hk => hk.floor x hxmem) ?_ ?_
  · rw [hxid]
    exact hx
  · intro hterm
    rw [hopen] at hterm
    cases hterm
  · intro hc
    cases hc

theorem clearResume (h : EpicPolicy.clearResume s id now = .ok s') : Lawful p s s' := by
  obtain ⟨x, hx, rfl | hw⟩ := EpicPolicy.clearResume_eq_ok h
  · exact refl _
  · obtain ⟨hxmem, hxid⟩ := Store.row?_spec hx
    refine updateEpic_same hw (?_ : s.row? x.id = some x) rfl rfl rfl (fun hk => hk.floor x hxmem)
    rw [hxid]
    exact hx

/-- After an `advance`, writing the moved epic back with its attempts counted from the end of
its history is lawful. -/
theorem restart_after_advance {d : Decision} {s₁ : Store} {e₁ e₂ : Epic}
    (h₁ : p.advance s id d now = .ok (s₁, e₁)) (hw : s₁.updateEpic e₂ = .ok s')
    (hid : e₂.id = e₁.id) (hstatus : e₂.status = e₁.status) (hstage : e₂.stage = e₁.stage)
    (hreason : e₂.blockedReason = e₁.blockedReason) (hfloor : e₂.attemptFloor = e₁.history.length) :
    Lawful p s s' := by
  obtain ⟨⟨y, hy, hys, hyst, hyr⟩, hruns, hhist, hid₁⟩ := EpicPolicy.advance_row h₁
  -- the history is the list of the epic's runs, which the advance left alone
  have hcount : e₂.attemptFloor = (s₁.runsOf e₂.id).length := by
    rw [hfloor, hhist, Store.length_history, hid, hid₁, Store.runsOf_of_runs_eq hruns]
  exact (advance h₁).trans (updateEpic_same hw (hid ▸ hy) (hstatus.trans hys.symm)
    (hstage.trans hyst.symm) (hreason.trans hyr.symm) fun _ => Nat.le_of_eq hcount)

theorem resolve {o : Resolution} {e' : Epic} (h : p.resolve s id o now = .ok (s', e')) :
    Lawful p s s' := by
  obtain ⟨x, -, -, rfl | ⟨d, s₁, e₁, h₁, -, rfl | ⟨-, hw⟩⟩⟩ := EpicPolicy.resolve_eq_ok h
  · exact refl _
  · exact advance h₁
  · exact restart_after_advance h₁ hw rfl rfl rfl rfl rfl

theorem overrideStage {stage : String} {e' : Epic}
    (h : p.overrideStage s id stage now = .ok (s', e')) : Lawful p s s' := by
  obtain ⟨x, -, d, s₁, e₁, h₁, -, hw⟩ := EpicPolicy.overrideStage_eq_ok h
  exact restart_after_advance h₁ hw rfl rfl rfl rfl rfl

/-- Creating an epic is lawful when the first stage is registered. -/
theorem create {objective : String} {e : Epic} (hinit : p.registry.contains p.initialStage = true)
    (h : p.create s id objective now = .ok (s', e)) : Lawful p s s' := by
  obtain ⟨rfl, hw⟩ := EpicPolicy.create_eq_ok h
  have hrow := Store.row?_insertEpic hw
  obtain ⟨-, rfl⟩ := Store.insertEpic_eq_ok hw
  refine ⟨fun hk => ⟨?_, ?_, ?_, ?_⟩, List.prefix_refl _, ?_, ?_⟩
  all_goals try rw [List.forall_mem_append, List.forall_mem_singleton]
  · exact ⟨hk.blocked, by simp [Epic.fresh]⟩
  · exact ⟨hk.registered, hinit⟩
  · -- the runs are as they were, and the new epic counts from zero
    exact ⟨hk.floor, Nat.zero_le _⟩
  · exact ⟨hk.floorFits, Nat.pow_pos (by decide)⟩
  · -- the rows of the other epics are found as before
    intro i x hx _
    refine ⟨x, ?_, rfl⟩
    rw [hrow, hx]
    rfl
  · intro i y hy hc hnot
    rw [hrow] at hy
    cases hx : s.row? i with
    | some x =>
      rw [hx] at hy
      cases hy
      exact absurd hc (hnot y hx)
    | none =>
      -- the only new row is the fresh epic, which is active
      rw [hx] at hy
      simp only [Option.none_or, Option.ite_none_right_eq_some, Option.some.injEq] at hy
      rw [← hy.2] at hc
      cases hc

theorem escalate {e : Epic} {d : Decision} {home : Option String} {n : Nat}
    (h : p.escalate s e d home now = .ok (s', n)) : Lawful p s s' := by
  obtain rfl | ⟨m, hm⟩ := EpicPolicy.escalate_eq_ok h
  · exact refl _
  · exact insertEscalation hm

end Lawful

end EpicFlow
