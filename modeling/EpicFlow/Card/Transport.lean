import EpicFlow.Card.Reading
import EpicFlow.Tool.Container

/-!
# Carrying cards on the machine

Two mailboxes carry cards between the conductor's inbox and a workspace on
the machine. Both deliver a card by writing it into the workspace (making
its directory first): a sandbox container mounts the workspace, so the host
copy is the container's copy.

* The worktree mailbox pulls a card by copying the workspace file into the
  inbox; a card that is not there is unreachable. The modification time is
  the workspace file's.
* The docker mailbox pulls a card out of its container with the container
  engine; a failed copy makes the card unreachable, and a card location
  without a container is a configuration error. The modification time is
  the inbox copy's.

Other file errors are I/O errors.

Main statement:

* `dockerPull_noContainer`: the docker mailbox needs a container.
-/

set_option autoImplicit false

namespace EpicFlow

namespace CardTransfer

/-- The machine's files. -/
def files : Eng FileTree := do return (← Eng.host).machine.files

/-- Change the machine's files, or fail with an I/O error. -/
def onFiles {α : Type} (f : FileTree → Except OsError (FileTree × α)) : Eng α := do
  match f (← files) with
  | .ok (t, a) =>
    Eng.modifyHost fun h => { h with machine := { h.machine with files := t } }
    pure a
  | .error e => Eng.fail (.io e.message)

/-- Make the directory holding a path. -/
def makeParent (path : String) : Eng Unit :=
  onFiles fun t => match Path.parent path with
    | some d => (t.createDirAll d).map (·, ())
    | none => .ok (t, ())

/-- Write a card, making its directory first. -/
def writeCard (path content : String) : Eng Unit := do
  makeParent path
  onFiles fun t => (t.write path content).map (·, ())

/-- Read a file, or fail with an I/O error. -/
def readFile (path : String) : Eng String := onFiles fun t => (t.read path).map (t, ·)

/-- Pull a card from a workspace on this machine. -/
def worktreePull (loc : CardLocation) (inbox : String) : Eng PulledCard := do
  let source := loc.hostPath
  match (← files).modified source with
  | .error e => Eng.fail (.cardUnreachable (source ++ ": " ++ e.message))
  | .ok modified =>
    makeParent inbox
    onFiles fun t => (t.copy source inbox).map (·, ())
    pure ⟨← readFile inbox, modified⟩

/-- Pull a card out of its sandbox container. -/
def dockerPull (home : Option String) (loc : CardLocation) (inbox : String) : Eng PulledCard := do
  let some container := loc.container
    | Eng.fail (.config "Docker card transport needs a container name")
  makeParent inbox
  match ← Eng.shell (Container.copyOut home container loc.workerPath inbox).run with
  | .error e => Eng.fail (.cardUnreachable e)
  | .ok () =>
    let modified ← onFiles fun t => (t.modified inbox).map (t, ·)
    pure ⟨← readFile inbox, modified⟩

theorem dockerPull_noContainer (home : Option String) (loc : CardLocation) (inbox : String)
    (h : loc.container = none) :
    dockerPull home loc inbox = Eng.fail (.config "Docker card transport needs a container name") := by
  simp [dockerPull, h]

end CardTransfer

namespace Mailbox

/-- The mailbox of workspaces on this machine. -/
def worktree : Mailbox Eng where
  deliver loc content := CardTransfer.writeCard loc.hostPath content
  pull := CardTransfer.worktreePull

/-- The mailbox of sandbox containers; `home` is hidden in error texts. -/
def docker (home : Option String) : Mailbox Eng where
  deliver loc content := CardTransfer.writeCard loc.hostPath content
  pull := CardTransfer.dockerPull home

end Mailbox

end EpicFlow
