import EpicFlow.Text.Path

/-!
# Where a card lives

A card of a workspace lives at `.handy/cards/<id>.md` inside it. A worker in a
sandbox container sees the workspace mounted at `/workspace`, so its path to
the card is under that mount; otherwise it uses the host path.

Main statement:

* `workerPath_host`: without a container the worker uses the host path.
-/

set_option autoImplicit false

namespace EpicFlow

/-- The directory of cards inside a workspace. -/
def cardDir : String := ".handy/cards"

/-- Where the workspace is mounted inside a sandbox container. -/
def containerWorkspace : String := "/workspace"

/-- Where a card lives on the worker's side. -/
structure CardLocation where
  workspace : String
  /-- the card's path inside the workspace -/
  relativePath : String
  container : Option String
deriving DecidableEq, Repr

namespace CardLocation

/-- A card in a workspace on this host. -/
def inWorkspace (workspace cardId : String) : CardLocation :=
  ⟨workspace, Path.join cardDir (cardId ++ ".md"), none⟩

/-- A card in a workspace mounted into a container. -/
def inContainer (workspace cardId container : String) : CardLocation :=
  { inWorkspace workspace cardId with container := some container }

/-- The card's path on the host. -/
def hostPath (l : CardLocation) : String := Path.join l.workspace l.relativePath

/-- The card's path as the worker sees it. -/
def workerPath (l : CardLocation) : String :=
  match l.container with
  | some _ => Path.join containerWorkspace l.relativePath
  | none => l.hostPath

theorem workerPath_host (l : CardLocation) (h : l.container = none) :
    l.workerPath = l.hostPath := by
  simp [workerPath, h]

end CardLocation

end EpicFlow
