import EpicFlow.Epic.Lifecycle
import EpicFlow.Conductor.State
import EpicFlow.Tool.Worktree

/-!
# Founding an epic on the machine

A new epic needs a workspace of its own before it is stored: a worktree of
the source repository on the epic's branch when there is a source
repository, a plain directory under the workspace root otherwise. The
objective is checked first, so an empty objective makes nothing; a
workspace that cannot be made stores nothing.

Main statement:

* `found_emptyObjective`: an empty objective founds no epic.
-/

set_option autoImplicit false

namespace EpicFlow

namespace EpicPolicy

/-- Make an epic's workspace: a worktree of the source repository, or a
directory. -/
def makeWorkspace (sourceRepo : Option String) (id path : String) : Eng Unit := do
  match sourceRepo with
  | some repo =>
    match ← Eng.shell (Worktree.create repo (Epic.branchOf id) path).run with
    | .ok () => pure ()
    | .error e => Eng.fail (.worker e)
  | none =>
    let h ← Eng.host
    match h.machine.files.createDirAll path with
    | .ok files => Eng.modifyHost fun h => { h with machine := { h.machine with files } }
    | .error e => Eng.fail (.io e.message)

/-- Found an epic: check its objective, draw its id, make its workspace and
store it. -/
def found (p : EpicPolicy) (sourceRepo : Option String) (objective : String) : Eng Epic := do
  let objective ← Eng.ofExcept (objectiveOf objective)
  let id ← Eng.freshEpicId
  makeWorkspace sourceRepo id (Path.join p.workspaceRoot id)
  let now ← Eng.stamp
  Eng.onStore fun s => p.create s id objective now

theorem found_emptyObjective (p : EpicPolicy) (sourceRepo : Option String) (objective : String)
    (h : Text.trim objective = "") :
    p.found sourceRepo objective = Eng.fail (.config "Epic objective cannot be empty") := by
  have ho : objectiveOf objective = .error (.config "Epic objective cannot be empty") := by
    simp [objectiveOf, h]
  simp only [found, ho, Eng.ofExcept, Eng.fail]
  exact Job.throw_bind _ _

end EpicPolicy

end EpicFlow
