import EpicFlow.Proofs.Runs
import EpicFlow.Epic.Lifecycle

/-!
# Stored epics

The store keeps one row per epic. `Store.row?` is the row of an epic id, the first one with
that id, as `Store.epic?` reads it (with the history of runs attached).

Three writes touch the epic rows. `insertEpic` appends a row. `updateEpic` rewrites the rows
of one id, as `Rewrites` says: the stage, status, blocked reason, resume flag and attempt
floor are written (the floor as the signed 64-bit column keeps it), and the id stays.
`insertDecision` appends a decision, and the run and escalation writes leave the rows alone.
This module inverts each of them (`Store.updateEpic_eq_ok`, ...), so the later proofs never
unfold a write again.

On top of them it states the rules that every stored epic keeps for a policy `p`
(`EpicsKept`): the blocked reason is set exactly when the epic is blocked, the current
stage is registered, and the attempt floor is at most the number of runs of the epic and
fits its column. `Evolves p s s'` says how the store may change between two moments of the
engine: decisions are only added, a finished epic keeps its status, and an epic becomes
completed only through a decision logged in between whose target is `COMPLETED` or a
terminal stage (`Completes`). `Lawful p s s'` joins them: the rules carry from `s` to `s'`,
and `s'` evolves from `s`. It is reflexive and transitive.

Main statements:

* `Store.updateEpic_eq_ok`, `Store.insertEpic_eq_ok`, `Store.insertDecision_eq_ok`: the
  writes of the epic table, inverted.
* `Lawful.refl`, `Lawful.trans`: lawful change is a preorder.
* `Lawful.updateEpic_same_status`: a write that keeps an epic's status, stage and blocked
  reason, with a floor below its runs, is lawful.
-/

set_option autoImplicit false

namespace EpicFlow

/-- A successful bind of results went through a successful first step. -/
theorem except_bind_eq_ok {ε α β : Type} {x : Except ε α} {f : α → Except ε β} {b : β}
    (h : (x >>= f) = .ok b) : ∃ a, x = .ok a ∧ f a = .ok b := by
  cases x with
  | error e => cases h
  | ok a => exact ⟨a, rfl, h⟩

namespace Store

/-- The stored row of an epic id: the first row with that id. -/
def row? (s : Store) (id : String) : Option Epic := s.epics.find? (·.id == id)

/-- An epic is read as its row, with its history attached. -/
theorem epic?_eq (s : Store) (id : String) :
    s.epic? id = (s.row? id).map fun e => { e with history := s.history id } := rfl

/-- The row of an id is stored, under that id. -/
theorem row?_spec {s : Store} {id : String} {e : Epic} (h : s.row? id = some e) :
    e ∈ s.epics ∧ e.id = id := by
  refine ⟨List.mem_of_find?_eq_some h, ?_⟩
  simpa using List.find?_some h

/-- The status of an epic as read is the status of its row. -/
theorem epic?_eq_some {s : Store} {id : String} {e : Epic} (h : s.epic? id = some e) :
    ∃ x, s.row? id = some x ∧ e.status = x.status ∧ e.stage = x.stage ∧
      e.attemptFloor = x.attemptFloor ∧ e.id = x.id ∧ e.blockedReason = x.blockedReason ∧
      e.history = s.history id := by
  rw [epic?_eq] at h
  obtain ⟨x, hx, rfl⟩ := Option.map_eq_some_iff.1 h
  exact ⟨x, hx, rfl, rfl, rfl, rfl, rfl, rfl⟩

/-- Rows rewritten by a map that keeps ids are found where they were. -/
theorem row?_of_map {s s' : Store} {f : Epic → Epic} (hf : ∀ x, (f x).id = x.id)
    (hs' : s'.epics = s.epics.map f) (id : String) : s'.row? id = (s.row? id).map f := by
  unfold row?
  rw [hs', List.find?_map]
  congr 2
  funext x
  simp [hf]

/-- The runs of an epic depend on the run table only. -/
theorem runsOf_of_runs_eq {s s' : Store} (h : s'.runs = s.runs) (id : String) :
    s'.runsOf id = s.runsOf id := by
  simp only [runsOf, h]

/-- The history of an epic lists the ids of its runs. -/
theorem length_history (s : Store) (id : String) : (s.history id).length = (s.runsOf id).length := by
  simp [history, runsOf]

/-- A count goes into its column no larger than it was. -/
theorem storedCount_le (n : Nat) : storedCount n ≤ n := by
  unfold storedCount
  split <;> omega

/-- A count comes out of its column within the signed 64-bit range. -/
theorem storedCount_lt (n : Nat) : storedCount n < Nat.pow 2 63 := by
  unfold storedCount
  split
  · assumption
  · exact Nat.pow_pos (by decide)

/-- What `updateEpic e` does to each row. The rows of the epic take the written stage,
status and blocked reason, and its floor as the column keeps it. Every row keeps its id,
and the other rows stay as they were. -/
structure Rewrites (e : Epic) (f : Epic → Epic) : Prop where
  other : ∀ x, x.id ≠ e.id → f x = x
  id : ∀ x, (f x).id = x.id
  stage : ∀ x, x.id = e.id → (f x).stage = e.stage
  status : ∀ x, x.id = e.id → (f x).status = e.status
  blockedReason : ∀ x, x.id = e.id → (f x).blockedReason = e.blockedReason
  attemptFloor : ∀ x, x.id = e.id → (f x).attemptFloor = storedCount e.attemptFloor
  resumeNext : ∀ x, x.id = e.id → (f x).resumeNext = e.resumeNext

/-- A property holds of every rewritten row when it holds of the rows left alone and of the
images of the epic's rows. -/
theorem Rewrites.forall_mem {e : Epic} {f : Epic → Epic} (hf : Rewrites e f) {P : Epic → Prop}
    {es : List Epic} (hold : ∀ x ∈ es, x.id ≠ e.id → P x) (hnew : ∀ x ∈ es, x.id = e.id → P (f x)) :
    ∀ y ∈ es.map f, P y := by
  intro y hy
  obtain ⟨x, hx, rfl⟩ := List.mem_map.1 hy
  by_cases hid : x.id = e.id
  · exact hnew x hx hid
  · rw [hf.other x hid]
    exact hold x hx hid

/-- A successful `updateEpic` rewrites the rows as `Rewrites` says, and nothing else. -/
theorem updateEpic_eq_ok {s s' : Store} {e : Epic} (h : s.updateEpic e = .ok s') :
    ∃ f, Rewrites e f ∧ s' = { s with epics := s.epics.map f } := by
  unfold Store.updateEpic at h
  split at h
  · cases h
    refine ⟨_, ⟨?_, ?_, ?_, ?_, ?_, ?_, ?_⟩, rfl⟩
    · intro x hx
      simp [hx]
    all_goals intro x
    · by_cases hx : x.id = e.id <;> simp [hx]
    all_goals intro hx
    all_goals simp [hx]
  · cases h

/-- A successful `insertEpic` appends a row of a new id, with an empty history. -/
theorem insertEpic_eq_ok {s s' : Store} {e : Epic} (h : s.insertEpic e = .ok s') :
    (∀ x ∈ s.epics, x.id ≠ e.id) ∧ s' = { s with epics := s.epics ++ [{ e with history := [] }] } := by
  unfold Store.insertEpic at h
  split at h
  · cases h
  · rename_i hfresh
    cases h
    refine ⟨fun x hx hid => hfresh (List.any_eq_true.2 ⟨x, hx, by simp [hid]⟩), rfl⟩

/-- A successful `insertDecision` appends the decision, and nothing else. -/
theorem insertDecision_eq_ok {s s' : Store} {d : Decision} (h : s.insertDecision d = .ok s') :
    s' = { s with decisions := s.decisions ++ [d] } := by
  unfold Store.insertDecision at h
  -- the refusal looks at the run's earlier decision first, then at the epic
  split at h <;> simp only at h <;> split at h <;> cases h <;> rfl

/-- A successful `insertEscalation` touches neither the epics, nor the runs, nor the
decisions. -/
theorem insertEscalation_eq_ok {s s' : Store} {m : EscalationMessage} {n : Nat}
    (h : s.insertEscalation m = .ok (s', n)) :
    s'.epics = s.epics ∧ s'.runs = s.runs ∧ s'.decisions = s.decisions := by
  unfold Store.insertEscalation at h
  split at h
  · cases h
    exact ⟨rfl, rfl, rfl⟩
  · cases h

/-- The runs of an epic after a run is recorded: the new run joins its own epic's runs. -/
theorem runsOf_insertRun {s s' : Store} {r : Run} (h : s.insertRun r = .ok s') (id : String) :
    s'.runsOf id = s.runsOf id ++ (if r.epicId = id then [storedRun r] else []) := by
  obtain ⟨-, -, rfl⟩ := insertRun_eq_ok h
  by_cases hr : r.epicId = id <;> simp [Store.runsOf, List.filter_append, storedRun, hr]

/-- Writing a run's state keeps the runs of every epic in place, one for one. -/
theorem runsOf_updateRun {s s' : Store} {r : Run} (h : s.updateRun r = .ok s') (id : String) :
    ∃ f, Renews r f ∧ s'.runsOf id = (s.runsOf id).map f := by
  obtain ⟨old, f, -, -, hf, rfl⟩ := updateRun_eq_ok h
  refine ⟨f, hf, ?_⟩
  simp only [Store.runsOf, List.filter_map]
  congr 1
  apply List.filter_congr
  intro x _
  simp [hf.epicId]

end Store

/-- A decision that completes the epic it moves: its target is `COMPLETED`, or a stage that
the registry marks terminal. -/
def Completes (p : EpicPolicy) (d : Decision) : Prop :=
  d.target = .completed ∨ ∃ st, d.target = .stage st ∧ p.registry.isTerminal st = true

/-- The rules every stored epic keeps under the policy `p`. -/
structure EpicsKept (p : EpicPolicy) (s : Store) : Prop where
  /-- the blocked reason is set exactly when the epic is blocked -/
  blocked : ∀ e ∈ s.epics, (e.blockedReason.isSome ↔ e.status = .blocked)
  /-- the current stage is registered -/
  registered : ∀ e ∈ s.epics, p.registry.contains e.stage = true
  /-- the attempt floor is at most the number of runs of the epic -/
  floor : ∀ e ∈ s.epics, e.attemptFloor ≤ (s.runsOf e.id).length
  /-- the attempt floor fits its signed 64-bit column -/
  floorFits : ∀ e ∈ s.epics, e.attemptFloor < Nat.pow 2 63

/-- How the store may change between two moments of the engine. -/
structure Evolves (p : EpicPolicy) (s s' : Store) : Prop where
  /-- decisions are only added -/
  decisions : s.decisions <+: s'.decisions
  /-- a finished epic keeps its status -/
  finished : ∀ id e, s.row? id = some e → e.status.isTerminal = true →
    ∃ e', s'.row? id = some e' ∧ e'.status = e.status
  /-- an epic becomes completed only through a decision logged in between whose target is
  `COMPLETED` or a terminal stage -/
  completes : ∀ id e', s'.row? id = some e' → e'.status = .completed →
    (∀ e, s.row? id = some e → e.status ≠ .completed) →
    ∃ d ∈ s'.decisions.drop s.decisions.length, Completes p d

/-- The store moves lawfully from `s` to `s'`: the rules carry over, and `s'` evolves
from `s`. -/
def Lawful (p : EpicPolicy) (s s' : Store) : Prop := (EpicsKept p s → EpicsKept p s') ∧ Evolves p s s'

namespace Evolves

variable {p : EpicPolicy}

theorem refl (s : Store) : Evolves p s s := by
  refine ⟨List.prefix_refl _, fun id e he _ => ⟨e, he, rfl⟩, ?_⟩
  intro id e' he' hc hnot
  exact absurd hc (hnot e' he')

theorem trans {s s₁ s₂ : Store} (h₁ : Evolves p s s₁) (h₂ : Evolves p s₁ s₂) : Evolves p s s₂ := by
  refine ⟨h₁.decisions.trans h₂.decisions, ?_, ?_⟩
  · intro id e he hterm
    obtain ⟨e₁, he₁, hst₁⟩ := h₁.finished id e he hterm
    obtain ⟨e₂, he₂, hst₂⟩ := h₂.finished id e₁ he₁ (hst₁ ▸ hterm)
    exact ⟨e₂, he₂, hst₂.trans hst₁⟩
  · intro id e₂ he₂ hc hnot
    -- either the epic was already completed at `s₁`, or it became so after
    by_cases hmid : ∃ e₁, s₁.row? id = some e₁ ∧ e₁.status = .completed
    · obtain ⟨e₁, he₁, hc₁⟩ := hmid
      obtain ⟨d, hd, hcd⟩ := h₁.completes id e₁ he₁ hc₁ hnot
      obtain ⟨rest, hrest⟩ := h₂.decisions
      refine ⟨d, ?_, hcd⟩
      rw [← hrest, List.drop_append_of_le_length h₁.decisions.length_le]
      exact List.mem_append_left _ hd
    · have hnot₁ : ∀ e₁, s₁.row? id = some e₁ → e₁.status ≠ .completed :=
        fun e₁ he₁ hc₁ => hmid ⟨e₁, he₁, hc₁⟩
      obtain ⟨d, hd, hcd⟩ := h₂.completes id e₂ he₂ hc hnot₁
      exact ⟨d, List.drop_subset_drop_left _ h₁.decisions.length_le hd, hcd⟩

end Evolves

namespace Lawful

variable {p : EpicPolicy}

theorem refl (s : Store) : Lawful p s s := ⟨id, Evolves.refl s⟩

theorem trans {s s₁ s₂ : Store} (h₁ : Lawful p s s₁) (h₂ : Lawful p s₁ s₂) : Lawful p s s₂ :=
  ⟨fun h => h₂.1 (h₁.1 h), h₁.2.trans h₂.2⟩

end Lawful

/-! ### Rewriting the rows of one epic -/

section Rewrite

variable {p : EpicPolicy} {s s' : Store} {e : Epic} {f : Epic → Epic}

/-- Rewriting the rows of `e` evolves the store when a finished row keeps its status and a
row that turns completed does so through a decision logged by the same write. -/
theorem Evolves.rewrite (hf : Store.Rewrites e f) (hs' : s'.epics = s.epics.map f)
    (hdec : s.decisions <+: s'.decisions)
    (hfin : ∀ x, s.row? e.id = some x → x.status.isTerminal = true → e.status = x.status)
    (hcomp : e.status = .completed → (∀ x, s.row? e.id = some x → x.status ≠ .completed) →
      ∃ d ∈ s'.decisions.drop s.decisions.length, Completes p d) :
    Evolves p s s' := by
  have hrow : ∀ id, s'.row? id = (s.row? id).map f := Store.row?_of_map hf.id hs'
  refine ⟨hdec, ?_, ?_⟩
  · intro id x hx hterm
    refine ⟨f x, by rw [hrow, hx]; rfl, ?_⟩
    by_cases hid : x.id = e.id
    · -- the row of `e` itself: its old status was already final
      have heid : e.id = id := hid.symm.trans (Store.row?_spec hx).2
      rw [hf.status x hid]
      exact hfin x (heid ▸ hx) hterm
    · rw [hf.other x hid]
  · intro id y hy hc hnot
    rw [hrow] at hy
    obtain ⟨x, hx, rfl⟩ := Option.map_eq_some_iff.1 hy
    by_cases hid : x.id = e.id
    · have heid : e.id = id := hid.symm.trans (Store.row?_spec hx).2
      rw [hf.status x hid] at hc
      exact hcomp hc fun x' hx' => hnot x' (heid ▸ hx')
    · -- another epic's row is untouched, so it was completed before
      rw [hf.other x hid] at hc
      exact absurd hc (hnot x hx)

/-- Rewriting the rows of `e` keeps the rules when the written fields keep them. -/
theorem EpicsKept.rewrite (hk : EpicsKept p s) (hf : Store.Rewrites e f)
    (hs' : s'.epics = s.epics.map f) (hruns : s'.runs = s.runs)
    (hb : e.blockedReason.isSome ↔ e.status = .blocked) (hreg : p.registry.contains e.stage = true)
    (hfloor : e.attemptFloor ≤ (s.runsOf e.id).length) : EpicsKept p s' := by
  have hrunsOf := Store.runsOf_of_runs_eq hruns
  refine ⟨?_, ?_, ?_, ?_⟩ <;> rw [hs'] <;> refine hf.forall_mem ?_ ?_
  · exact fun x hx _ => hk.blocked x hx
  · intro x _ hid
    rw [hf.blockedReason x hid, hf.status x hid]
    exact hb
  · exact fun x hx _ => hk.registered x hx
  · intro x _ hid
    rw [hf.stage x hid]
    exact hreg
  · intro x hx _
    rw [hrunsOf]
    exact hk.floor x hx
  · intro x _ hid
    rw [hf.attemptFloor x hid, hrunsOf, hf.id, hid]
    exact Nat.le_trans (Store.storedCount_le _) hfloor
  · exact fun x hx _ => hk.floorFits x hx
  · intro x _ hid
    rw [hf.attemptFloor x hid]
    exact Store.storedCount_lt _

end Rewrite

/-! ### Writes that leave the epic rows alone -/

namespace Lawful

variable {p : EpicPolicy} {s s' : Store}

/-- A write that leaves the epic rows alone, only adds decisions, and takes no run from any
epic is lawful. -/
theorem of_epics_eq (hep : s'.epics = s.epics) (hdec : s.decisions <+: s'.decisions)
    (hruns : ∀ id, (s.runsOf id).length ≤ (s'.runsOf id).length) : Lawful p s s' := by
  have hrow : ∀ id, s'.row? id = s.row? id := fun id => by simp only [Store.row?, hep]
  refine ⟨fun hk => ⟨?_, ?_, ?_, ?_⟩, hdec, ?_, ?_⟩
  · rw [hep]
    exact hk.blocked
  · rw [hep]
    exact hk.registered
  · intro e he
    rw [hep] at he
    exact Nat.le_trans (hk.floor e he) (hruns e.id)
  · rw [hep]
    exact hk.floorFits
  · intro id e he _
    exact ⟨e, (hrow id).trans he, rfl⟩
  · intro id e' he' hc hnot
    rw [hrow] at he'
    exact absurd hc (hnot e' he')

theorem insertRun {r : Run} (h : s.insertRun r = .ok s') : Lawful p s s' := by
  obtain ⟨-, -, rfl⟩ := Store.insertRun_eq_ok h
  refine of_epics_eq rfl (List.prefix_refl _) fun id => ?_
  rw [Store.runsOf_insertRun h id, List.length_append]
  exact Nat.le_add_right _ _

theorem updateRun {r : Run} (h : s.updateRun r = .ok s') : Lawful p s s' := by
  obtain ⟨old, f, -, -, -, rfl⟩ := Store.updateRun_eq_ok h
  refine of_epics_eq rfl (List.prefix_refl _) fun id => ?_
  obtain ⟨g, -, hg⟩ := Store.runsOf_updateRun h id
  exact Nat.le_of_eq (by rw [hg, List.length_map])

theorem insertDecision {d : Decision} (h : s.insertDecision d = .ok s') : Lawful p s s' := by
  rw [Store.insertDecision_eq_ok h]
  exact of_epics_eq rfl (List.prefix_append _ _) fun _ => Nat.le_refl _

theorem insertEscalation {m : EscalationMessage} {n : Nat} (h : s.insertEscalation m = .ok (s', n)) :
    Lawful p s s' := by
  obtain ⟨hep, hruns, hdec⟩ := Store.insertEscalation_eq_ok h
  exact of_epics_eq hep (hdec ▸ List.prefix_refl _) fun id =>
    Nat.le_of_eq (by rw [Store.runsOf_of_runs_eq hruns])

end Lawful

end EpicFlow
