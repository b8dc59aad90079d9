import Mathlib.Logic.Relation
import EpicFlow.Proofs.Operations

/-!
# Open escalations and the epics they describe

An operator learns of a blocked epic through an escalation (`EpicPolicy.escalate`): a message
with the epic's stage, the rationale of the decision that blocked it, and the answers offered
for that situation (`Resolution.offered`). The answer (`EpicPolicy.answer`) resolves the epic
and closes the escalation. `EscalationsFit` says that the open escalations of a store describe
their epics as they stand: each epic with an open escalation is blocked, at the escalation's
stage, for its rationale, and has no other open escalation.

The store keeps that fit along the steps of `EscalationStep`. These are the steps in which an
epic with an open escalation moves only through the answer to it. An epic handed to an operator
(a decision for an operator, from the stage it stands at, then escalated) had none open. Every
other move (`advance`, `block`, `resolve`, `overrideStage`) is of an epic with none open.
Recording runs, clearing the resume flag and creating epics touch no standing. Each step keeps
the fit (`EscalationsFit.create`, ..., `EscalationsFit.answer`). So every store reached from
the empty one by such steps fits (`fit_of_steps`). In a store that fits, an answer is one the
escalation offers for the situation its epic is actually blocked in.

The operator's moves do not close escalations. An override of an epic with an open escalation
leaves the escalation open while the epic is no longer blocked (`overrideStage_unblocks`,
`override_strands_escalation`); a direct `resolve` or `advance`, and a `block` for another
reason, leave it open in the same way.

Main statements:

* `open_escalations_fit`: the protocol keeps the fit, and an answer in a store that fits is
  offered for the epic's situation.
* `override_strands_escalation`: an override leaves an open escalation of an unblocked epic.
-/

set_option autoImplicit false

namespace EpicFlow

namespace Store

variable {s s' s₁ : Store} {id : String}

/-- A change of the store that moves the epic `id` at most: the escalations stay as they were,
and the row of every other epic reads as before. -/
def MovesOnly (s s' : Store) (id : String) : Prop :=
  s'.escalations = s.escalations ∧ ∀ j, j ≠ id → s'.row? j = s.row? j

theorem MovesOnly.refl (s : Store) (id : String) : MovesOnly s s id := ⟨rfl, fun _ _ => rfl⟩

theorem MovesOnly.trans (h₁ : MovesOnly s s₁ id) (h₂ : MovesOnly s₁ s' id) : MovesOnly s s' id :=
  ⟨h₂.1.trans h₁.1, fun j hj => (h₂.2 j hj).trans (h₁.2 j hj)⟩

/-- Rewriting the rows of one epic moves that epic only. -/
theorem movesOnly_of_rewrites {e : Epic} {f : Epic → Epic} (hf : Rewrites e f)
    (hs' : s'.epics = s.epics.map f) (hesc : s'.escalations = s.escalations) :
    MovesOnly s s' e.id := by
  refine ⟨hesc, fun j hj => ?_⟩
  rw [row?_of_map hf.id hs']
  cases hx : s.row? j with
  | none => rfl
  | some x =>
    have hxid : x.id ≠ e.id := by
      rw [(row?_spec hx).2]
      exact hj
    simp [hf.other x hxid]

theorem updateEpic_movesOnly {e : Epic} (h : s.updateEpic e = .ok s') : MovesOnly s s' e.id := by
  obtain ⟨f, hf, rfl⟩ := updateEpic_eq_ok h
  exact movesOnly_of_rewrites hf rfl rfl

/-- No escalation of the epic is open. -/
theorem openEscalation?_eq_none :
    s.openEscalation? id = none ↔ ∀ r ∈ s.escalations, r.message.epicId = id → r.isOpen = false := by
  simp [openEscalation?, List.find?_eq_none]

/-- Answering escalation `id` closes every open record of that number, and nothing else. -/
theorem resolveEscalation_eq_ok {n : Int} {o : Resolution} {now : String}
    (h : s.resolveEscalation n o now = .ok s') :
    s' = { s with escalations := s.escalations.map fun r =>
      if (r.id : Int) == n && r.isOpen then { r with resolvedAt := some now, resolution := some o }
      else r } := by
  unfold resolveEscalation at h
  split at h
  · cases h
    rfl
  · cases h

theorem escalation?_spec {n : Int} {r : EscalationRecord} (h : s.escalation? n = some r) :
    r ∈ s.escalations ∧ (r.id : Int) = n := by
  refine ⟨List.mem_of_find?_eq_some h, ?_⟩
  simpa using List.find?_some h

end Store

namespace EpicPolicy

variable {p : EpicPolicy} {s s' : Store} {id now : String}

theorem moved_of_human {e : Epic} {d : Decision} (h : d.target = .human) :
    p.moved e d now = { e with status := .blocked, blockedReason := some d.rationale, updatedAt := now } := by
  unfold moved
  rw [h]

theorem advance_movesOnly {d : Decision} {e : Epic} (h : p.advance s id d now = .ok (s', e)) :
    Store.MovesOnly s s' id := by
  obtain ⟨x, hx, -, -, rfl, f, hf, rfl⟩ := advance_eq_ok h
  have hid : Store.MovesOnly s { s with decisions := s.decisions ++ [d], epics := s.epics.map f } _ :=
    Store.movesOnly_of_rewrites hf rfl rfl
  rwa [moved_id, (Store.row?_spec hx).2] at hid

theorem block_movesOnly {r : Rationale} {e : Epic} (h : block s id r now = .ok (s', e)) :
    Store.MovesOnly s s' id := by
  obtain ⟨x, hx, -, rfl, hup⟩ := block_eq_ok h
  have hid := Store.updateEpic_movesOnly hup
  rwa [(Store.row?_spec hx).2] at hid

theorem resolve_movesOnly {o : Resolution} {e : Epic} (h : p.resolve s id o now = .ok (s', e)) :
    Store.MovesOnly s s' id := by
  obtain ⟨x, hx, -, hs⟩ := resolve_eq_ok h
  have hxid : x.id = id := (Store.row?_spec hx).2
  rcases hs with rfl | ⟨d, s₁, e₁, hadv, -, hs⟩
  · exact Store.MovesOnly.refl _ id
  · have h₁ := advance_movesOnly hadv
    rw [hxid] at h₁
    rcases hs with rfl | ⟨-, hup⟩
    · exact h₁
    · -- the epic written back is the one advance answered, under the same id
      have h₂ := Store.updateEpic_movesOnly hup
      rw [show e₁.id = id from (advance_answer hadv).1.trans hxid] at h₂
      exact h₁.trans h₂

theorem overrideStage_movesOnly {stage : String} {e : Epic}
    (h : p.overrideStage s id stage now = .ok (s', e)) : Store.MovesOnly s s' id := by
  obtain ⟨x, hx, d, s₁, e₁, hadv, -, hup⟩ := overrideStage_eq_ok h
  have hxid : x.id = id := (Store.row?_spec hx).2
  have h₁ := advance_movesOnly hadv
  have h₂ := Store.updateEpic_movesOnly hup
  rw [hxid] at h₁
  rw [show e₁.id = id from (advance_answer hadv).1.trans hxid] at h₂
  exact h₁.trans h₂

/-- An escalation raised for an epic with none open records a new message: it names the epic,
the decision's stage and rationale, and the answers offered for them. -/
theorem escalate_of_none_open {e : Epic} {d : Decision} {home : Option String} {n : Nat}
    (hnone : s.openEscalation? e.id = none) (h : p.escalate s e d home now = .ok (s', n)) :
    ∃ m, s' = { s with escalations := s.escalations ++ [⟨n, m, none, none⟩] } ∧ m.epicId = e.id ∧
      m.stage = d.source ∧ m.rationale = d.rationale ∧
      m.options = Resolution.offered p.registry d.source d.rationale := by
  unfold escalate at h
  dsimp only [EscalationMessage.ofDecision] at h
  simp only [hnone] at h
  unfold Store.insertEscalation at h
  split at h
  · simp only [Except.ok.injEq, Prod.mk.injEq] at h
    obtain ⟨rfl, rfl⟩ := h
    exact ⟨_, rfl, rfl, rfl, rfl, rfl⟩
  · cases h

/-- A successful answer found its escalation open and offering the answer, resolved the epic,
and, unless it was a pause, closed the escalation. -/
theorem answer_eq_ok {n : Int} {o : Resolution} {e : Epic} (h : p.answer s n o now = .ok (s', e)) :
    ∃ r, s.escalation? n = some r ∧ r.isOpen = true ∧ r.message.allows o = true ∧
      ∃ s₁, p.resolve s r.message.epicId o now = .ok (s₁, e) ∧
        (o = .pause ∧ s' = s₁ ∨ o ≠ .pause ∧ s₁.resolveEscalation n o now = .ok s') := by
  unfold answer at h
  cases hr : s.escalation? n with
  | none =>
    rw [hr] at h
    cases h
  | some r =>
    rw [hr] at h
    refine ⟨r, rfl, ?_⟩
    -- the escalation must be open, and must offer the answer
    cases hopen : r.isOpen with
    | false =>
      simp only [hopen, Bool.not_false, if_true] at h
      cases h
    | true =>
      cases hallow : r.message.allows o with
      | false =>
        simp only [hopen, hallow, Bool.not_true, Bool.not_false, Bool.false_eq_true, if_true,
          if_false] at h
        cases h
      | true =>
        simp only [hopen, hallow, Bool.not_true, Bool.false_eq_true, if_false] at h
        obtain ⟨⟨s₁, e₁⟩, h₁, h⟩ := except_bind_eq_ok h
        refine ⟨rfl, rfl, s₁, ?_⟩
        by_cases hp : o = .pause
        · simp only [hp, beq_self_eq_true, if_true, pure, Except.pure, Except.ok.injEq,
            Prod.mk.injEq] at h
          obtain ⟨rfl, rfl⟩ := h
          exact ⟨hp ▸ h₁, .inl ⟨hp, rfl⟩⟩
        · have hne : (o == .pause) = false := by simpa using hp
          simp only [hne, Bool.false_eq_true, if_false] at h
          obtain ⟨s₂, h₂, h⟩ := except_bind_eq_ok h
          simp only [pure, Except.pure, Except.ok.injEq, Prod.mk.injEq] at h
          obtain ⟨rfl, rfl⟩ := h
          exact ⟨h₁, .inr ⟨hp, h₂⟩⟩

end EpicPolicy

/-- An override moves the epic to a stage: its row ends active or completed, never blocked. -/
theorem EpicPolicy.overrideStage_unblocks {p : EpicPolicy} {s s' : Store} {id stage now : String}
    {e : Epic} (h : p.overrideStage s id stage now = .ok (s', e)) :
    ∃ y, s'.row? id = some y ∧ y.status ≠ .blocked := by
  unfold EpicPolicy.overrideStage at h
  obtain ⟨e₀, he₀, h⟩ := except_bind_eq_ok h
  obtain ⟨x, hx, rfl⟩ := EpicPolicy.get_eq_ok he₀
  split at h
  · split at h
    · cases h
    obtain ⟨⟨s₁, e₁⟩, h₁, h⟩ := except_bind_eq_ok h
    simp only at h
    obtain ⟨s₂, h₂, h⟩ := except_bind_eq_ok h
    simp only [pure, Except.pure, Except.ok.injEq, Prod.mk.injEq] at h
    obtain ⟨rfl, -⟩ := h
    obtain ⟨x₁, -, -, -, he₁, -⟩ := EpicPolicy.advance_eq_ok h₁
    obtain ⟨y, hy, -, hys, -, -⟩ := Store.row?_updateEpic h₂
    have hid : ({ e₁ with attemptFloor := e₁.history.length } : Epic).id = id :=
      (EpicPolicy.advance_answer h₁).1.trans (Store.row?_spec hx).2
    refine ⟨y, hid ▸ hy, ?_⟩
    -- the override decision targets a stage, which leaves the epic active or completed
    rw [hys, he₁]
    unfold EpicPolicy.moved
    dsimp only
    split <;> simp
  · cases h

/-- An escalation message describes the epic as it stands in the store: the epic is blocked, at
the message's stage, for its rationale, and the message offers the answers of that situation. -/
def Describes (p : EpicPolicy) (s : Store) (m : EscalationMessage) : Prop :=
  ∃ x, s.row? m.epicId = some x ∧ x.status = .blocked ∧ x.stage = m.stage ∧
    x.blockedReason = some m.rationale ∧
    m.options = Resolution.offered p.registry m.stage m.rationale

/-- The open escalations of a store as an operator sees them: each describes its epic as it
stands, and an epic has at most one open. -/
structure EscalationsFit (p : EpicPolicy) (s : Store) : Prop where
  describes : ∀ r ∈ s.escalations, r.isOpen = true → Describes p s r.message
  single : ∀ r ∈ s.escalations, ∀ r' ∈ s.escalations, r.isOpen = true → r'.isOpen = true →
    r.message.epicId = r'.message.epicId → r = r'

namespace EscalationsFit

variable {p : EpicPolicy} {s s' : Store} {id : String}

theorem empty (p : EpicPolicy) : EscalationsFit p {} where
  describes _ h := by cases h
  single _ h := by cases h

/-- A change that keeps the escalations and the standing of every row keeps the fit. -/
theorem of_standing (h : EscalationsFit p s) (hesc : s'.escalations = s.escalations)
    (hrow : ∀ j x, s.row? j = some x → ∃ y, s'.row? j = some y ∧ y.status = x.status ∧
      y.stage = x.stage ∧ y.blockedReason = x.blockedReason) :
    EscalationsFit p s' := by
  refine ⟨fun r hr hopen => ?_, ?_⟩
  · rw [hesc] at hr
    obtain ⟨x, hx, hst, hstage, hreason, hopts⟩ := h.describes r hr hopen
    obtain ⟨y, hy, hys, hystage, hyreason⟩ := hrow _ x hx
    exact ⟨y, hy, hys.trans hst, hystage.trans hstage, hyreason.trans hreason, hopts⟩
  · rw [hesc]
    exact h.single

/-- A change of the epics alone that keeps every stored row keeps the fit. -/
theorem of_rows_eq (h : EscalationsFit p s) (hesc : s'.escalations = s.escalations)
    (hrow : ∀ j x, s.row? j = some x → s'.row? j = some x) : EscalationsFit p s' :=
  h.of_standing hesc fun j x hx => ⟨x, hrow j x hx, rfl, rfl, rfl⟩

/-- Moving an epic with no open escalation keeps the fit. -/
theorem movesOnly (h : EscalationsFit p s) (hnone : s.openEscalation? id = none)
    (hm : Store.MovesOnly s s' id) : EscalationsFit p s' := by
  refine ⟨fun r hr hopen => ?_, ?_⟩
  · rw [hm.1] at hr
    -- the escalation is of another epic, whose row has not moved
    have hother : r.message.epicId ≠ id := fun hid => by
      have hclosed := Store.openEscalation?_eq_none.1 hnone r hr hid
      rw [hopen] at hclosed
      cases hclosed
    obtain ⟨x, hx, hrest⟩ := h.describes r hr hopen
    exact ⟨x, (hm.2 _ hother).trans hx, hrest⟩
  · rw [hm.1]
    exact h.single

/-! ### One step at a time -/

theorem create (h : EscalationsFit p s) {objective now : String} {e : Epic}
    (hc : p.create s id objective now = .ok (s', e)) : EscalationsFit p s' := by
  obtain ⟨-, hins⟩ := EpicPolicy.create_eq_ok hc
  obtain ⟨-, hs'⟩ := Store.insertEpic_eq_ok hins
  refine h.of_rows_eq (by rw [hs']) fun j x hx => ?_
  rw [Store.row?_insertEpic hins, hx]
  rfl

theorem insertRun (h : EscalationsFit p s) {r : Run} (hr : s.insertRun r = .ok s') :
    EscalationsFit p s' := by
  obtain ⟨-, -, rfl⟩ := Store.insertRun_eq_ok hr
  exact h.of_rows_eq rfl fun _ _ hx => hx

theorem updateRun (h : EscalationsFit p s) {r : Run} (hr : s.updateRun r = .ok s') :
    EscalationsFit p s' := by
  obtain ⟨-, -, -, -, -, rfl⟩ := Store.updateRun_eq_ok hr
  exact h.of_rows_eq rfl fun _ _ hx => hx

theorem clearResume (h : EscalationsFit p s) {now : String}
    (hc : EpicPolicy.clearResume s id now = .ok s') : EscalationsFit p s' := by
  obtain ⟨x, hx, rfl | hup⟩ := EpicPolicy.clearResume_eq_ok hc
  · exact h
  -- only the resume flag and the time of the row change
  have hm := Store.updateEpic_movesOnly hup
  obtain ⟨y, hy, hystage, hystatus, hyreason, -⟩ := Store.row?_updateEpic hup
  refine h.of_standing hm.1 fun j x' hx' => ?_
  by_cases hj : j = x.id
  · have hxx : x' = x := by
      rw [hj, (Store.row?_spec hx).2, hx] at hx'
      exact (Option.some.inj hx').symm
    subst hxx
    rw [hj]
    exact ⟨y, hy, hystatus, hystage, hyreason⟩
  · exact ⟨x', (hm.2 j hj).trans hx', rfl, rfl, rfl⟩

theorem handOver (h : EscalationsFit p s) {d : Decision} {now now' : String} {home : Option String}
    {s₁ : Store} {e : Epic} {n : Nat} (hnone : s.openEscalation? id = none)
    (hd : d.target = .human) (hsrc : (s.row? id).map (·.stage) = some d.source)
    (hadv : p.advance s id d now = .ok (s₁, e)) (hesc : p.escalate s₁ e d home now' = .ok (s', n)) :
    EscalationsFit p s' := by
  have hm := EpicPolicy.advance_movesOnly hadv
  have h₁ : EscalationsFit p s₁ := h.movesOnly hnone hm
  have heid : e.id = id := (EpicPolicy.advance_answer hadv).1
  have hnone₁ : s₁.openEscalation? e.id = none := by
    rw [heid, Store.openEscalation?, hm.1]
    exact hnone
  obtain ⟨m, rfl, hmid, hmstage, hmrat, hmopts⟩ := EpicPolicy.escalate_of_none_open hnone₁ hesc
  -- the moved row: blocked, at the stage it stood at, for the decision's rationale
  obtain ⟨⟨y, hy, hys, hystage, hyreason⟩, -, -, -⟩ := EpicPolicy.advance_row hadv
  obtain ⟨x, hx, -, -, he, -⟩ := EpicPolicy.advance_eq_ok hadv
  rw [EpicPolicy.moved_of_human hd] at he
  have hxs : x.stage = d.source := by
    rw [hx] at hsrc
    simpa using hsrc
  have hold : ∀ r ∈ s₁.escalations, r.isOpen = true → r.message.epicId ≠ id := by
    intro r hr hopen hid
    rw [hm.1] at hr
    have hclosed := Store.openEscalation?_eq_none.1 hnone r hr hid
    rw [hopen] at hclosed
    cases hclosed
  refine ⟨fun r hr hopen => ?_, fun r hr r' hr' ho ho' hsame => ?_⟩
  · rcases List.mem_append.1 hr with hr | hr
    · exact h₁.describes r hr hopen
    · rw [List.mem_singleton] at hr
      subst hr
      refine ⟨y, hmid ▸ hy, ?_, ?_, ?_, ?_⟩
      · rw [hys, he]
      · rw [hystage, he, hmstage]
        exact hxs
      · rw [hyreason, he, hmrat]
      · rw [hmopts, hmstage, hmrat]
  · -- the new escalation is the only open one of its epic
    rcases List.mem_append.1 hr with hr | hr <;> rcases List.mem_append.1 hr' with hr' | hr'
    · exact h₁.single r hr r' hr' ho ho' hsame
    · rw [List.mem_singleton] at hr'
      subst hr'
      exact absurd (hsame.trans (hmid.trans heid)) (hold r hr ho)
    · rw [List.mem_singleton] at hr
      subst hr
      exact absurd (hsame.symm.trans (hmid.trans heid)) (hold r' hr' ho')
    · rw [List.mem_singleton] at hr hr'
      rw [hr, hr']

/-- An escalation still open after an answer to escalation `n` was open before, and has another
number. -/
theorem open_of_mem_closed {l : List EscalationRecord} {n : Int} {o : Resolution} {now : String}
    {a : EscalationRecord}
    (ha : a ∈ l.map fun r =>
      if (r.id : Int) == n && r.isOpen then { r with resolvedAt := some now, resolution := some o }
      else r)
    (hopen : a.isOpen = true) : a ∈ l ∧ (a.id : Int) ≠ n := by
  obtain ⟨b, hb, rfl⟩ := List.mem_map.1 ha
  by_cases hc : ((b.id : Int) == n && b.isOpen) = true
  · rw [if_pos hc] at hopen
    cases hopen
  · rw [if_neg hc] at hopen ⊢
    exact ⟨hb, fun hid => hc (by simp [hid, hopen])⟩

theorem answer (h : EscalationsFit p s) {n : Int} {o : Resolution} {now : String} {e : Epic}
    (ha : p.answer s n o now = .ok (s', e)) : EscalationsFit p s' := by
  obtain ⟨r, hr, hopen, -, s₁, hres, hs'⟩ := EpicPolicy.answer_eq_ok ha
  obtain ⟨hrmem, hrid⟩ := Store.escalation?_spec hr
  rcases hs' with ⟨rfl, rfl⟩ | ⟨-, hclose⟩
  · -- a pause leaves the store as it was
    obtain ⟨x, hx, hxb, -⟩ := EpicPolicy.resolve_eq_ok hres
    have hpause := EpicPolicy.resolve_pause p s r.message.epicId now { x with history := s.history r.message.epicId }
      (by rw [Store.epic?_eq, hx]; rfl) hxb
    rw [hpause] at hres
    cases hres
    exact h
  have hm := EpicPolicy.resolve_movesOnly hres
  rw [Store.resolveEscalation_eq_ok hclose]
  refine ⟨fun a ha hoa => ?_, fun a ha b hb hoa hob hab => ?_⟩
  · obtain ⟨ha, hid⟩ := open_of_mem_closed ha hoa
    rw [hm.1] at ha
    -- the answered escalation was the only open one of its epic, so this one is of another
    have hother : a.message.epicId ≠ r.message.epicId := fun hsame =>
      hid (by rw [h.single a ha r hrmem hoa hopen hsame, hrid])
    obtain ⟨x, hx, hrest⟩ := h.describes a ha hoa
    exact ⟨x, (hm.2 _ hother).trans hx, hrest⟩
  · obtain ⟨ha, -⟩ := open_of_mem_closed ha hoa
    obtain ⟨hb, -⟩ := open_of_mem_closed hb hob
    rw [hm.1] at ha hb
    exact h.single a ha b hb hoa hob hab

end EscalationsFit

/-- A change of the store that keeps to the escalation protocol: an epic with an open
escalation moves only through the answer to it, and an epic handed to an operator is escalated
from the stage it stands at. -/
inductive EscalationStep (p : EpicPolicy) : Store → Store → Prop
  | create {s s' : Store} {id objective now : String} {e : Epic} :
      p.create s id objective now = .ok (s', e) → EscalationStep p s s'
  | startRun {s s' : Store} {r : Run} : s.insertRun r = .ok s' → EscalationStep p s s'
  | recordRun {s s' : Store} {r : Run} : s.updateRun r = .ok s' → EscalationStep p s s'
  | clearResume {s s' : Store} {id now : String} :
      EpicPolicy.clearResume s id now = .ok s' → EscalationStep p s s'
  | advance {s s' : Store} {id now : String} {d : Decision} {e : Epic} :
      s.openEscalation? id = none → p.advance s id d now = .ok (s', e) → EscalationStep p s s'
  | block {s s' : Store} {id now : String} {r : Rationale} {e : Epic} :
      s.openEscalation? id = none → EpicPolicy.block s id r now = .ok (s', e) →
        EscalationStep p s s'
  | resolve {s s' : Store} {id now : String} {o : Resolution} {e : Epic} :
      s.openEscalation? id = none → p.resolve s id o now = .ok (s', e) → EscalationStep p s s'
  | overrideStage {s s' : Store} {id stage now : String} {e : Epic} :
      s.openEscalation? id = none → p.overrideStage s id stage now = .ok (s', e) →
        EscalationStep p s s'
  | handOver {s s₁ s' : Store} {id now now' : String} {home : Option String} {d : Decision}
      {e : Epic} {n : Nat} :
      s.openEscalation? id = none → d.target = .human → (s.row? id).map (·.stage) = some d.source →
      p.advance s id d now = .ok (s₁, e) → p.escalate s₁ e d home now' = .ok (s', n) →
        EscalationStep p s s'
  | answer {s s' : Store} {n : Int} {o : Resolution} {now : String} {e : Epic} :
      p.answer s n o now = .ok (s', e) → EscalationStep p s s'

/-- Every step of the protocol keeps the fit. -/
theorem EscalationStep.fit {p : EpicPolicy} {s s' : Store} (h : EscalationStep p s s')
    (hf : EscalationsFit p s) : EscalationsFit p s' := by
  cases h with
  | create hc => exact hf.create hc
  | startRun hr => exact hf.insertRun hr
  | recordRun hr => exact hf.updateRun hr
  | clearResume hc => exact hf.clearResume hc
  | advance hnone hadv => exact hf.movesOnly hnone (EpicPolicy.advance_movesOnly hadv)
  | block hnone hb => exact hf.movesOnly hnone (EpicPolicy.block_movesOnly hb)
  | resolve hnone hres => exact hf.movesOnly hnone (EpicPolicy.resolve_movesOnly hres)
  | overrideStage hnone ho => exact hf.movesOnly hnone (EpicPolicy.overrideStage_movesOnly ho)
  | handOver hnone hd hsrc hadv hesc => exact hf.handOver hnone hd hsrc hadv hesc
  | answer ha => exact hf.answer ha

/-- Any sequence of steps of the protocol keeps the fit. -/
theorem fit_of_steps {p : EpicPolicy} {s s' : Store}
    (h : Relation.ReflTransGen (EscalationStep p) s s') (hf : EscalationsFit p s) :
    EscalationsFit p s' := by
  induction h with
  | refl => exact hf
  | tail _ hstep ih => exact hstep.fit ih

/-- The escalations an operator sees. On every store reached from the empty one by steps in
which an epic with an open escalation moves only through the answer to it, every open
escalation describes its epic as it stands (blocked, at the escalation's stage, for its
rationale, with the answers of that situation), and an epic has at most one open escalation.
In such a store, an answer is applied only to an open escalation that describes its blocked
epic, and it is a pause or an answer offered for the stage and the reason the epic is blocked
at. -/
theorem open_escalations_fit (p : EpicPolicy) :
    (∀ s, Relation.ReflTransGen (EscalationStep p) {} s → EscalationsFit p s) ∧
    (∀ s n o now s' e, EscalationsFit p s → p.answer s n o now = .ok (s', e) →
      ∃ r ∈ s.escalations, (r.id : Int) = n ∧ r.isOpen = true ∧
        ∃ x, s.row? r.message.epicId = some x ∧ x.status = .blocked ∧ x.stage = r.message.stage ∧
          x.blockedReason = some r.message.rationale ∧
          (o = .pause ∨ o ∈ Resolution.offered p.registry x.stage r.message.rationale)) := by
  refine ⟨fun s hs => fit_of_steps hs (EscalationsFit.empty p), ?_⟩
  intro s n o now s' e hf ha
  obtain ⟨r, hr, hopen, hallow, -⟩ := EpicPolicy.answer_eq_ok ha
  obtain ⟨hrmem, hrid⟩ := Store.escalation?_spec hr
  obtain ⟨x, hx, hxs, hxstage, hxreason, hopts⟩ := hf.describes r hrmem hopen
  refine ⟨r, hrmem, hrid, hopen, x, hx, hxs, hxstage, hxreason, ?_⟩
  -- the escalation offers the answers of the epic's situation
  rw [hxstage, ← hopts]
  simpa [EscalationMessage.allows] using hallow

/-- An override leaves every open escalation of its epic open, describing an epic that is no
longer blocked. -/
theorem EscalationsFit.not_of_overrideStage {p : EpicPolicy} {s s' : Store} {id stage now : String}
    {e : Epic} {r : EscalationRecord} (hr : r ∈ s.escalations) (hopen : r.isOpen = true)
    (hid : r.message.epicId = id) (ho : p.overrideStage s id stage now = .ok (s', e)) :
    ¬ EscalationsFit p s' := by
  intro hf
  have hr' : r ∈ s'.escalations := by
    rw [(EpicPolicy.overrideStage_movesOnly ho).1]
    exact hr
  obtain ⟨x, hx, hxs, -⟩ := hf.describes r hr' hopen
  obtain ⟨y, hy, hys⟩ := EpicPolicy.overrideStage_unblocks ho
  rw [hid, hy] at hx
  cases hx
  exact hys hxs

/-- The built-in stages, with no budget ceilings and three attempts per stage. -/
def builtinPolicy : EpicPolicy := ⟨Registry.builtin, {}, "/work", ⟨"DESIGN"⟩, 3⟩

/-- `epic-1`, blocked at `DESIGN` for a security risk. -/
def riskHeldEpic : Epic :=
  { Epic.fresh "/work" "epic-1" "Ship it" ⟨"DESIGN"⟩ "t0" with
    status := .blocked, blockedReason := some .securityRisk }

/-- The escalation of the security risk of `epic-1` at `DESIGN`. -/
def riskMessage : EscalationMessage where
  epicId := "epic-1"
  stage := ⟨"DESIGN"⟩
  rationale := .securityRisk
  options := Resolution.offered Registry.builtin ⟨"DESIGN"⟩ .securityRisk
  costSoFar := 0.0
  turnsSoFar := 0
  issues := ["DESIGN declared SECURITY_RISK"]
  raisedAt := "t0"

/-- A store where `epic-1` waits for an operator on its security risk. -/
def riskStore : Store := { epics := [riskHeldEpic], escalations := [⟨1, riskMessage, none, none⟩] }

theorem riskStore_fits : EscalationsFit builtinPolicy riskStore := by
  refine ⟨fun r hr _ => ?_, fun r hr r' hr' _ _ _ => ?_⟩
  · rw [riskStore, List.mem_singleton] at hr
    subst hr
    exact ⟨riskHeldEpic, rfl, rfl, rfl, rfl, rfl⟩
  · rw [riskStore, List.mem_singleton] at hr hr'
    rw [hr, hr']

/-- A store with one new epic fits; and answering the security risk of `epic-1` with a retry
is applied to its open escalation, which offers a retry for the stage and the reason the epic is
blocked at. -/
theorem retry_answers_risk :
    EscalationsFit builtinPolicy
      { epics := [{ Epic.fresh "/work" "epic-1" "Ship it" ⟨"DESIGN"⟩ "t0" with history := [] }] } ∧
    ∃ s' e, builtinPolicy.answer riskStore 1 .retry "t1" = .ok (s', e) ∧
      ∃ r ∈ riskStore.escalations, (r.id : Int) = 1 ∧ r.isOpen = true ∧
        ∃ x, riskStore.row? r.message.epicId = some x ∧ x.status = .blocked ∧
          x.stage = r.message.stage ∧ x.blockedReason = some r.message.rationale ∧
          (Resolution.retry = .pause ∨
            Resolution.retry ∈ Resolution.offered builtinPolicy.registry x.stage r.message.rationale) := by
  have hstep : EscalationStep builtinPolicy {}
      { epics := [{ Epic.fresh "/work" "epic-1" "Ship it" ⟨"DESIGN"⟩ "t0" with history := [] }] } :=
    @EscalationStep.create builtinPolicy {} _ "epic-1" "Ship it" "t0" _ rfl
  obtain ⟨s', e, ha⟩ : ∃ s' e, builtinPolicy.answer riskStore 1 .retry "t1" = .ok (s', e) :=
    ⟨_, _, rfl⟩
  exact ⟨(open_escalations_fit builtinPolicy).1 _ (.single hstep), s', e, ha,
    (open_escalations_fit builtinPolicy).2 riskStore 1 .retry "t1" s' e riskStore_fits ha⟩

/-- An override strands an escalation: `epic-1` waits for an operator on its security risk, in a
store that fits, and moving it to `BUILD` leaves the escalation open while the epic is active. -/
theorem override_strands_escalation :
    EscalationsFit builtinPolicy riskStore ∧
      ∃ s' e, builtinPolicy.overrideStage riskStore "epic-1" "BUILD" "t1" = .ok (s', e) ∧
        e.status = .active ∧ ¬ EscalationsFit builtinPolicy s' := by
  refine ⟨riskStore_fits, _, _, rfl, rfl, ?_⟩
  exact @EscalationsFit.not_of_overrideStage builtinPolicy riskStore _ "epic-1" "BUILD" "t1" _
    ⟨1, riskMessage, none, none⟩ (List.mem_singleton_self _) rfl rfl rfl

end EpicFlow
