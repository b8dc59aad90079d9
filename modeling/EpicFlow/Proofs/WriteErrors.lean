import EpicFlow.Proofs.Moves

/-!
# How the store reports a refused write

The store refuses a write that breaks one of its rules and answers an error in place of a store,
so a refused write changes nothing. This module says, for the writes of runs and decisions, on
exactly which stores a write is refused and with which error.

Recording a run (`Store.insertRun`) reports a reused run id as the worker's fault. Every other
rule it breaks is reported as a spawn refusal that names a second running run of the epic: a cost
that is not a number, an epic without a row, or a second running run (`insertRun_error_iff`).
Writing a run's state (`Store.updateRun`) reports a run off the record as not found, and a cost
that is not a number or a second running run as the same spawn refusal (`updateRun_error_iff`).
Logging a decision (`Store.insertDecision`) reports an epic without a row, like a run already
decided, as an invalid transition that names an earlier decision (`insertDecision_error_iff`).
None of the three ever reports a database error (`refused_writes_reported`).

Main statements:

* `Store.insertRun_error_iff`, `Store.updateRun_error_iff`, `Store.insertDecision_error_iff`:
  when each write is refused, and how.
* `Store.refused_writes_reported`: the three together.
-/

set_option autoImplicit false

namespace EpicFlow

namespace Store

/-- No recorded run has the id. -/
def FreshRunId (s : Store) (id : String) : Prop := ∀ x ∈ s.runs, x.runId ≠ id

/-- No epic row has the id. -/
def MissingEpic (s : Store) (id : String) : Prop := ∀ y ∈ s.epics, y.id ≠ id

theorem any_runId_iff (s : Store) (id : String) :
    s.runs.any (·.runId == id) = true ↔ ¬ s.FreshRunId id := by
  simp [FreshRunId]

theorem any_epicId_iff (s : Store) (id : String) :
    s.epics.any (·.id == id) = true ↔ ¬ s.MissingEpic id := by
  simp [MissingEpic]

/-- Recording a run is refused exactly when its id is taken, as the worker's fault, or else when
its cost is not a number, its epic has no row or it would be a second running run of its epic,
all three as a running-run conflict. -/
theorem insertRun_error_iff (s : Store) (r : Run) (e : EngineError) :
    s.insertRun r = .error e ↔
      (¬ s.FreshRunId r.runId ∧ e = .worker ("worker reused run id " ++ r.runId ++ " (already recorded)")) ∨
      (s.FreshRunId r.runId ∧
        (r.cost.isNaN = true ∨ s.MissingEpic r.epicId ∨ secondRunning s.runs r.epicId r.status = true) ∧
        e = runConflict r.epicId) := by
  unfold insertRun
  by_cases hid : s.FreshRunId r.runId
  · have hany : s.runs.any (·.runId == r.runId) = false :=
      Bool.eq_false_iff.2 fun h => (any_runId_iff s r.runId).1 h hid
    -- a fresh id: the three other rules are checked together
    have hrule : (r.cost.isNaN || !s.epics.any (·.id == r.epicId) ||
        secondRunning s.runs r.epicId r.status) = true ↔
        r.cost.isNaN = true ∨ s.MissingEpic r.epicId ∨ secondRunning s.runs r.epicId r.status = true := by
      simp only [Bool.or_eq_true, Bool.not_eq_true', ← Bool.not_eq_true, any_epicId_iff, not_not, or_assoc]
    by_cases hc : (r.cost.isNaN || !s.epics.any (·.id == r.epicId) ||
        secondRunning s.runs r.epicId r.status) = true
    · simp only [hany, hc, Bool.false_eq_true, if_false, if_true, Except.error.injEq, hid, not_true,
        false_and, true_and, false_or, hrule.1 hc]
      exact eq_comm
    · simp only [hany, hc, Bool.false_eq_true, if_false, reduceCtorEq, hid, not_true, false_and,
        true_and, false_or, false_iff, not_and]
      exact fun h => absurd (hrule.2 h) hc
  · have hany : s.runs.any (·.runId == r.runId) = true := (any_runId_iff s r.runId).2 hid
    simp only [hany, if_true, Except.error.injEq, hid, not_false_eq_true, true_and, false_and, or_false]
    exact eq_comm

/-- Writing a run's state is refused exactly when the run is off the record, as not found, or
else when its cost is not a number or it would be a second running run of its epic, as a
running-run conflict. -/
theorem updateRun_error_iff (s : Store) (r : Run) (e : EngineError) :
    s.updateRun r = .error e ↔
      (s.run? r.runId = none ∧ e = .notFound ("run " ++ r.runId)) ∨
      (∃ old, s.run? r.runId = some old ∧
        (r.cost.isNaN = true ∨
          secondRunning (s.runs.filter (·.runId != r.runId)) old.epicId r.status = true) ∧
        e = runConflict r.epicId) := by
  unfold updateRun
  cases hrun : s.run? r.runId with
  | none =>
    simp only [Except.error.injEq, true_and, reduceCtorEq, false_and, exists_false, or_false]
    exact eq_comm
  | some old =>
    dsimp only
    split
    · rename_i hc
      have hc' : r.cost.isNaN = true ∨
          secondRunning (s.runs.filter (·.runId != r.runId)) old.epicId r.status = true := by
        simpa only [Bool.or_eq_true] using hc
      simp only [Except.error.injEq, reduceCtorEq, false_and, Option.some.injEq, exists_eq_left',
        hc', true_and, false_or]
      exact eq_comm
    · rename_i hc
      have hc' : ¬ (r.cost.isNaN = true ∨
          secondRunning (s.runs.filter (·.runId != r.runId)) old.epicId r.status = true) := by
        simpa only [Bool.or_eq_true] using hc
      simp only [reduceCtorEq, false_and, Option.some.injEq, exists_eq_left', hc', false_or]

/-- Logging a decision is refused exactly when the store refuses it, its run decided before or
its epic without a row, and always as an invalid transition that names an earlier decision. -/
theorem insertDecision_error_iff (s : Store) (d : Decision) (e : EngineError) :
    s.insertDecision d = .error e ↔
      s.RefusesDecision d ∧
        e = .invalidTransition ("run " ++ d.runId.getD "-" ++ " already has a routing decision") := by
  rcases insertDecision_cases s d with ⟨hr, -⟩ | ⟨hr, hins⟩
  · -- the refusal has one message, whichever rule was broken
    have hins : s.insertDecision d =
        .error (.invalidTransition ("run " ++ d.runId.getD "-" ++ " already has a routing decision")) := by
      unfold insertDecision
      rw [if_pos]
      unfold RefusesDecision at hr
      rcases hr with ⟨rid, hrid, d', hd', hd'rid⟩ | hmissing
      · simp only [hrid, Bool.or_eq_true]
        exact Or.inl (List.any_eq_true.2 ⟨d', hd', by simp [hd'rid]⟩)
      · simp only [Bool.or_eq_true, Bool.not_eq_true']
        exact Or.inr (Bool.eq_false_iff.2 fun h => (any_epicId_iff s d.epicId).1 h hmissing)
    rw [hins]
    simp [hr, eq_comm]
  · rw [hins]
    simp [hr]

/-- How the store reports the writes of runs and decisions that it refuses: a spawn refusal for
every rule of a run but a fresh id, an invalid transition for every rule of a decision, and never
a database error. A refused write answers no store, so it changes nothing. -/
theorem refused_writes_reported (s : Store) :
    (∀ r e, s.insertRun r = .error e ↔
      (¬ s.FreshRunId r.runId ∧ e = .worker ("worker reused run id " ++ r.runId ++ " (already recorded)")) ∨
      (s.FreshRunId r.runId ∧
        (r.cost.isNaN = true ∨ s.MissingEpic r.epicId ∨ secondRunning s.runs r.epicId r.status = true) ∧
        e = runConflict r.epicId)) ∧
    (∀ r e, s.updateRun r = .error e ↔
      (s.run? r.runId = none ∧ e = .notFound ("run " ++ r.runId)) ∨
      (∃ old, s.run? r.runId = some old ∧
        (r.cost.isNaN = true ∨
          secondRunning (s.runs.filter (·.runId != r.runId)) old.epicId r.status = true) ∧
        e = runConflict r.epicId)) ∧
    (∀ d e, s.insertDecision d = .error e ↔
      s.RefusesDecision d ∧
        e = .invalidTransition ("run " ++ d.runId.getD "-" ++ " already has a routing decision")) :=
  ⟨insertRun_error_iff s, updateRun_error_iff s, insertDecision_error_iff s⟩

/-- A run and a decision of an epic that has no row: the run is refused as a second running run
and the decision as a second decision, though the epic has no run and no decision. -/
theorem missing_epic_reported_as_conflict :
    ({} : Store).insertRun { (default : Run) with runId := "run-1", epicId := "epic-x" } =
        .error (.spawnRejected "epic epic-x already has a RUNNING run") ∧
      ({} : Store).insertDecision { (default : Decision) with epicId := "epic-x", runId := some "run-1" } =
        .error (.invalidTransition "run run-1 already has a routing decision") :=
  ⟨rfl, rfl⟩

end Store

end EpicFlow
