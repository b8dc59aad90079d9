import EpicFlow.Machine.Tmux

/-!
# The programs of a model machine

Besides the multiplexer a machine runs a container engine, a version control
program, a locator of programs, and agent programs; `Machine.run` starts any
of them.

* The container engine reports whether its daemon answers, removes a
  container (printing its name), and copies a file out of a container's
  workspace mount. Anything else it accepts silently.
* The version control program works in a directory that must exist. It
  answers whether a branch exists, and adds a worktree: on a new branch
  (refused when the branch or the path exists) or on an existing branch
  (refused when there is no such branch). Anything else it accepts silently.
* The locator prints the installed path of an installed program and fails
  otherwise.
* Every program prints its version when asked; agent programs do nothing
  else.

Main statements:

* `run_missing`: a program that is not installed cannot be started and
  leaves no trace.
* `run_started`: an installed program always starts and answers.
-/

set_option autoImplicit false

namespace EpicFlow

namespace Machine

/-- The failure for a container that does not exist. -/
def noContainer (name : String) : Output :=
  .failure 1 ("Error response from daemon: No such container: " ++ name ++ "\n")

/-- The path of a container's file on the machine. -/
def mountedPath (mount src : String) : String :=
  let rel := if Text.startsWith src "/workspace" then String.ofList (src.toList.drop 10) else src
  if Text.startsWith rel "/" then mount ++ rel else Path.join mount rel

/-- Run the container engine. -/
def docker (m : Machine) (args : List String) : Output × Machine :=
  match args with
  | "info" :: _ =>
    if m.dockerDaemon then ({}, m)
    else (.failure 1 ("Cannot connect to the Docker daemon at unix:///var/run/docker.sock. " ++
      "Is the docker daemon running?\n"), m)
  | "rm" :: more =>
    let names := more.filter (· != "-f")
    match names.find? fun n => (Assoc.get? m.containers n).isNone with
    | some n => (noContainer n, m)
    | none =>
      (.printing (String.join (names.map (· ++ "\n"))),
        { m with containers := m.containers.filter fun c => !names.contains c.1 })
  | ["cp", src, dst] =>
    match Text.splitOnce src ':' with
    | some (name, path) =>
      match Assoc.get? m.containers name with
      | none => (noContainer name, m)
      | some mount =>
        match m.files.read (mountedPath mount path) with
        | .error _ =>
          (.failure 1 ("Error response from daemon: Could not find the file " ++ path ++ " in container " ++
            name ++ "\n"), m)
        | .ok text =>
          match m.files.write dst text with
          | .ok files => ({}, { m with files })
          | .error e => (.failure 1 ("Error response from daemon: " ++ e.message ++ "\n"), m)
    | none => (.failure 1 "\"docker cp\" requires a container path\n", m)
  | _ => ({}, m)

/-- A made-up commit id for a branch. -/
def commitId : String := "0123456789abcdef0123456789abcdef01234567"

/-- Run the version control program in a directory. -/
def gitIn (m : Machine) (dir : String) (args : List String) : Output × Machine :=
  let at_ := fun (p : String) => if Path.isAbsolute p then p else Path.join dir p
  match args with
  | ["rev-parse", "--verify", "--quiet", ref] =>
    if Text.startsWith ref "refs/heads/" && m.branches.contains (String.ofList (ref.toList.drop 11)) then
      (.printing (commitId ++ "\n"), m)
    else (.failure 1 "", m)
  | ["worktree", "add", "-b", b, p] =>
    if m.branches.contains b then (.failure 128 ("fatal: a branch named '" ++ b ++ "' already exists\n"), m)
    else if m.files.present (at_ p) then (.failure 128 ("fatal: '" ++ p ++ "' already exists\n"), m)
    else
      match m.files.createDirAll (at_ p) with
      | .ok files =>
        ({ stderr := "Preparing worktree (new branch '" ++ b ++ "')\n" },
          { m with files, branches := m.branches ++ [b] })
      | .error e => (.failure 128 ("fatal: could not create directory of '" ++ p ++ "': " ++ e.message ++ "\n"), m)
  | ["worktree", "add", p, b] =>
    if !m.branches.contains b then (.failure 128 ("fatal: invalid reference: " ++ b ++ "\n"), m)
    else
      match m.files.createDirAll (at_ p) with
      | .ok files => ({ stderr := "Preparing worktree (checking out '" ++ b ++ "')\n" }, { m with files })
      | .error e => (.failure 128 ("fatal: could not create directory of '" ++ p ++ "': " ++ e.message ++ "\n"), m)
  | _ => ({}, m)

/-- Run the version control program. -/
def git (m : Machine) (args : List String) : Output × Machine :=
  match args with
  | "-C" :: dir :: more =>
    if m.files.isDir dir && m.files.present dir then m.gitIn dir more
    else (.failure 128 ("fatal: cannot change to '" ++ dir ++ "': No such file or directory\n"), m)
  | _ => m.gitIn "" args

/-- Run the program locator. -/
def which (m : Machine) (args : List String) : Output :=
  match args with
  | [name] => if m.canRun name then .printing (Path.join m.binDir name ++ "\n") else .failure 1 ""
  | _ => .failure 1 ""

/-- A program's own behaviour. -/
def behave (m : Machine) (tool : String) (args : List String) : Output × Machine :=
  if asksVersion args && tool != "which" then (m.versionOutput tool, m)
  else match tool with
    | "tmux" => m.tmux args
    | "docker" => m.docker args
    | "git" => m.git args
    | "which" => (m.which args, m)
    | _ => ({}, m)

/-- Start a program: a program that is not installed cannot be started;
otherwise the run is logged, the clock advances, and a canned answer or the
program itself answers. -/
def run (m : Machine) (tool : String) (args : List String) : Except OsError Output × Machine :=
  if !m.canRun tool then (.error .notFound, m)
  else
    let m := { m with clock := m.clock + 1, calls := m.calls ++ [tool :: args] }
    match m.takeRule tool args with
    | some (o, m) => (.ok o, m)
    | none =>
      let (o, m) := m.behave tool args
      (.ok o, m)

theorem run_missing (m : Machine) (tool : String) (args : List String) (h : m.canRun tool = false) :
    m.run tool args = (.error .notFound, m) := by
  simp [run, h]

theorem run_started (m : Machine) (tool : String) (args : List String) (h : m.canRun tool = true) :
    ∃ o, (m.run tool args).1 = .ok o := by
  simp only [run, h, Bool.not_true, Bool.false_eq_true, ↓reduceIte]
  split <;> exact ⟨_, rfl⟩

end Machine

/-- Work that runs programs on a machine. -/
abbrev Shell := StateM Machine

/-- Start a program on the machine. -/
def Shell.exec (tool : String) (args : List String) : Shell (Except OsError Output) :=
  modifyGet fun m => m.run tool args

end EpicFlow
