import EpicFlow.Rationale

/-!
# Engine errors

What can go wrong above the tool layer, by cause. Each cause has one
message; the causes that an escalation can name map to a rationale.

Main statement:

* `rationale_worker`: a worker failure escalates as `WorkerFailed`.
-/

set_option autoImplicit false

namespace EpicFlow

/-- An engine error, by cause. -/
inductive EngineError where
  /-- bad stage or session input; nothing was created -/
  | spawnRejected (msg : String)
  /-- the task card could not be pulled or parsed after all retries -/
  | cardUnreachable (msg : String)
  /-- a task card field moved backwards, or the card changed identity -/
  | cardCorruption (msg : String)
  /-- a target outside the stage table, or a move out of a terminal state -/
  | invalidTransition (msg : String)
  /-- the worker backend failed -/
  | worker (msg : String)
  /-- unknown epic, run, card or escalation -/
  | notFound (msg : String)
  /-- settings that failed to load or validate -/
  | config (msg : String)
  /-- the database refused a statement -/
  | database (msg : String)
  /-- the schema could not be brought up to date -/
  | migration (msg : String)
  /-- a file operation failed -/
  | io (msg : String)
  /-- a value could not be written or read as JSON -/
  | serialization (msg : String)
deriving Inhabited, Repr

namespace EngineError

/-- The text shown for an error. -/
def message : EngineError → String
  | spawnRejected m => "Spawn rejected: " ++ m
  | cardUnreachable m => "Task card unreachable: " ++ m
  | cardCorruption m => "Task card corruption: " ++ m
  | invalidTransition m => "Invalid transition: " ++ m
  | worker m => "Worker error: " ++ m
  | notFound m => "Not found: " ++ m
  | config m => "Configuration error: " ++ m
  | database m => "SQLite error: " ++ m
  | migration m => "Migration error: " ++ m
  | io m => "I/O error: " ++ m
  | serialization m => "Serialization error: " ++ m

/-- The rationale an escalation carries for this error, if any. -/
def rationale? : EngineError → Option Rationale
  | cardUnreachable _ => some .cardUnreachable
  | cardCorruption _ => some .cardCorruption
  | invalidTransition _ => some .invalidTransition
  | spawnRejected _ => some .spawnRejected
  | worker _ => some .workerFailed
  | _ => none

theorem rationale_worker (m : String) : (worker m).rationale? = some .workerFailed := rfl

end EngineError

end EpicFlow
