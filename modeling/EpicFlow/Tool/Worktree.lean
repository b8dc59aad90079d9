import EpicFlow.Machine.Tools
import EpicFlow.Text.Blank

/-!
# Epic worktrees

Each epic may work in a worktree of a source repository, on a branch of its
own. A worktree is added at a path that must not exist yet (its parent
directories are made first): on the branch if the branch exists, or on a new
branch started from the repository's head otherwise.

Main statement:

* `branchExists_missing`: without the version control program no branch
  exists.
-/

set_option autoImplicit false

namespace EpicFlow

namespace Worktree

/-- Run the version control program in a repository. -/
def git (repo : String) (args : List String) : Shell (Except OsError Output) := Shell.exec "git" (["-C", repo] ++ args)

/-- The branch exists in the repository. -/
def branchExists (repo branch : String) : Shell Bool := do
  match ← git repo ["rev-parse", "--verify", "--quiet", "refs/heads/" ++ branch] with
  | .ok o => pure o.success
  | .error _ => pure false

theorem branchExists_missing (m : Machine) (repo branch : String) (h : m.canRun "git" = false) :
    ((branchExists repo branch).run m).1 = false := by
  simp only [branchExists, git, Shell.exec, StateT.run_bind, StateT.run_modifyGet, Machine.run_missing m "git" _ h,
    pure_bind, StateT.run_pure]
  rfl

/-- Add a worktree of a repository at a path, on a branch. -/
def create (repo branch path : String) : ExceptT String Shell Unit := do
  let m ← get
  if m.files.present path then throw ("Worktree path already exists: " ++ path)
  if let some parent := Path.parent path then
    match m.files.createDirAll parent with
    | .ok files => set { m with files }
    | .error e => throw ("Failed to create worktree parent: " ++ e.message)
  let args := if ← ExceptT.lift (branchExists repo branch) then ["worktree", "add", path, branch]
    else ["worktree", "add", "-b", branch, path]
  match ← git repo args with
  | .error e => throw ("Failed to run git: " ++ e.message)
  | .ok o => if !o.success then throw ("git worktree add failed: " ++ Text.trim o.stderr)

end Worktree

end EpicFlow
