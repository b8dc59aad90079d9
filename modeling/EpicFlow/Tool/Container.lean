import EpicFlow.Machine.Tools
import EpicFlow.Text.Redact
import EpicFlow.Text.Blank

/-!
# Sandbox containers

A sandboxed stage runs its agent in a container that mounts the epic's
workspace. The conductor asks whether the container engine's daemon
answers, removes a container (one that does not exist is already removed),
and copies a file out of a container. Error texts from the engine are
redacted before they are shown: they may carry credentials or the home
directory.

Main statement:

* `available_missing`: without the container engine no daemon answers.
-/

set_option autoImplicit false

namespace EpicFlow

namespace Container

/-- The container engine's daemon answers. -/
def available : Shell Bool := do
  match ← Shell.exec "docker" ["info"] with
  | .ok o => pure o.success
  | .error _ => pure false

theorem available_missing (m : Machine) (h : m.canRun "docker" = false) : (available.run m).1 = false := by
  simp only [available, Shell.exec, StateT.run_bind, StateT.run_modifyGet, Machine.run_missing m "docker" ["info"] h,
    pure_bind, StateT.run_pure]
  rfl

/-- Copy a file out of a container to a path on the machine. -/
def copyOut (home : Option String) (container source dest : String) : ExceptT String Shell Unit := do
  match ← Shell.exec "docker" ["cp", container ++ ":" ++ source, dest] with
  | .error e => throw ("Failed to run docker cp: " ++ e.message)
  | .ok o =>
    if !o.success then
      throw ("docker cp from " ++ container ++ " failed: " ++ Redact.sanitize home (Text.trim o.stderr))

/-- Stop and remove a container; one that does not exist is no error. -/
def remove (home : Option String) (container : String) : ExceptT String Shell Unit := do
  match ← Shell.exec "docker" ["rm", "-f", container] with
  | .error e => throw ("Failed to run docker rm: " ++ e.message)
  | .ok o =>
    if !o.success && !Text.contains o.stderr "No such container" then
      throw ("Failed to remove container " ++ container ++ ": " ++ Redact.sanitize home o.stderr)

end Container

end EpicFlow
