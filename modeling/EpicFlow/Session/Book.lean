import EpicFlow.Session.Name
import EpicFlow.Stage.Registry
import EpicFlow.Run.Record

/-!
# Sessions a conductor hands out

A stage runs in a session keyed `<base>_<iteration>`. The conductor keeps,
per base name, the last handle it gave out; per base name, the highest
iteration recorded by runs of an earlier process; per epic, the session that
holds the epic's workspace (its lease); and the sessions handed back for a
resume and not yet started.

A new session of a base name takes the next iteration; asking to resume
hands back the last session of that name, and a session known only from an
earlier process keeps its key when resumed.

Main statements:

* `nextIteration_gt`: a fresh session's iteration is above every earlier one.
-/

set_option autoImplicit false

namespace EpicFlow

/-- A session the conductor has handed out. -/
structure SessionHandle where
  sessionId : String
  baseName : String
  iteration : Nat
  epicId : String
  stage : StageName
  workspace : String
  cardRef : String
  turnBudget : Nat
  /-- the worker should continue the previous conversation -/
  resume : Bool
deriving DecidableEq, Repr

/-- The JSON form of a handle. -/
def SessionHandle.toJson (h : SessionHandle) : Json :=
  .obj [("session_id", .str h.sessionId), ("base_name", .str h.baseName), ("iteration", .int h.iteration),
    ("epic_id", .str h.epicId), ("stage_type", .str h.stage.val), ("workspace", .str h.workspace),
    ("card_ref", .str h.cardRef), ("turn_budget", .int h.turnBudget), ("resume", .bool h.resume)]

/-- What is asked of a new session. -/
structure SpawnRequest where
  stage : String
  epicId : String
  cardRef : String
  sessionName : String
  turnBudget : Nat
  resume : Bool
  workspace : String

/-- The sessions of a conductor. -/
structure SessionBook where
  /-- the last handle given out, per base name -/
  handles : List (String × SessionHandle) := []
  /-- the highest iteration of runs of an earlier process, per base name -/
  seeded : List (String × Nat) := []
  /-- the session holding each epic's workspace -/
  leases : List (String × String) := []
  /-- sessions handed back for a resume, not yet started -/
  resuming : List String := []

namespace SessionBook

open Session

/-- Replace or add the value of a key. -/
def setKey {β : Type} (xs : List (String × β)) (k : String) (v : β) : List (String × β) :=
  if xs.any (·.1 == k) then xs.map fun (a, b) => if a == k then (a, v) else (a, b) else xs ++ [(k, v)]

/-- The value of a key. -/
def getKey {β : Type} (xs : List (String × β)) (k : String) : Option β := (xs.find? (·.1 == k)).map (·.2)

/-- Remove a key. -/
def dropKey {β : Type} (xs : List (String × β)) (k : String) : List (String × β) := xs.filter (·.1 != k)

/-- Continue numbering from the sessions of recorded runs. -/
def seed (b : SessionBook) (sessionIds : List String) : SessionBook :=
  sessionIds.foldl (fun b sid =>
    match splitId sid with
    | some (base, i) => { b with seeded := setKey b.seeded base (max ((getKey b.seeded base).getD 0) i) }
    | none => b) b

/-- The iteration and resume flag of a new session, from the previous
iteration of its base name. -/
def nextIteration (previous : Option Nat) (resume : Bool) : Nat × Bool :=
  match previous, resume with
  | some i, true => (i, true)
  | some i, false => (i + 1, false)
  | none, _ => (1, false)

theorem nextIteration_gt (i : Nat) : i < (nextIteration (some i) false).1 := by
  simp [nextIteration]

/-- Hand out a session for a request; invalid requests are refused and
change nothing. -/
def spawn (b : SessionBook) (reg : Registry) (r : SpawnRequest) : Except EngineError (SessionBook × SessionHandle) := do
  let some d := reg.lookup r.stage
    | throw (.spawnRejected ("'" ++ r.stage ++ "' is not a registered stage"))
  match validateName r.sessionName with
  | .error m => throw (.spawnRejected m)
  | .ok () => pure ()
  if (Text.trim r.epicId).isEmpty then throw (.spawnRejected "epic id is empty")
  if (Text.trim r.cardRef).isEmpty then throw (.spawnRejected "card reference is empty")
  if r.turnBudget == 0 then throw (.spawnRejected "turn budget must be positive")
  let base := r.sessionName
  let existing := getKey b.handles base
  let previous := match existing with
    | some h => some h.iteration
    | none => getKey b.seeded base
  match existing, r.resume with
  | some h, true =>
    pure ({ b with resuming := if b.resuming.contains h.sessionId then b.resuming else b.resuming ++ [h.sessionId] }, h)
  | _, _ =>
    let (iteration, resume) := nextIteration previous r.resume
    let h : SessionHandle := { sessionId := sessionId base iteration, baseName := base, iteration
                               epicId := r.epicId, stage := d.name, workspace := r.workspace
                               cardRef := r.cardRef, turnBudget := r.turnBudget, resume }
    pure ({ b with handles := setKey b.handles base h }, h)

/-- The session holding an epic's workspace. -/
def holder (b : SessionBook) (epicId : String) : Option String := getKey b.leases epicId

/-- Take the epic's workspace for a session; a different holder refuses. -/
def acquire (b : SessionBook) (h : SessionHandle) : Except EngineError SessionBook :=
  match holder b h.epicId with
  | some other =>
    if other != h.sessionId then
      .error (.spawnRejected ("workspace of epic " ++ h.epicId ++ " is held by session " ++ other))
    else .ok { b with leases := setKey b.leases h.epicId h.sessionId }
  | none => .ok { b with leases := setKey b.leases h.epicId h.sessionId }

/-- Give up an epic's lease. -/
def unlease (b : SessionBook) (epicId : String) : SessionBook := { b with leases := dropKey b.leases epicId }

/-- Give up an epic's lease if the session holds it. -/
def unleaseIfHeld (b : SessionBook) (h : SessionHandle) : SessionBook :=
  if holder b h.epicId == some h.sessionId then b.unlease h.epicId else b

/-- Take the resume request of a session, if any. -/
def takeResume (b : SessionBook) (sessionId : String) : SessionBook × Bool :=
  if b.resuming.contains sessionId then ({ b with resuming := b.resuming.filter (· != sessionId) }, true)
  else (b, false)

/-- Take over a running run of an earlier process: its session and its lease. -/
def adopt (b : SessionBook) (run : Run) (workspace : String) (turnBudget : Nat) :
    Except EngineError (SessionBook × SessionHandle) := do
  let some (base, iteration) := splitId run.sessionId
    | throw (.invalidTransition ("run " ++ run.runId ++ " has malformed session id " ++ run.sessionId))
  let h : SessionHandle := { sessionId := run.sessionId, baseName := base, iteration, epicId := run.epicId
                             stage := run.stage, workspace, cardRef := run.cardId, turnBudget, resume := false }
  let b ← b.acquire h
  pure ({ b with handles := setKey b.handles base h }, h)

end SessionBook

end EpicFlow
