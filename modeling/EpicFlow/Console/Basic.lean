import EpicFlow.Json.Read
import EpicFlow.Route
import EpicFlow.Escalation
import EpicFlow.Pattern
import EpicFlow.Epic.Lifecycle
import EpicFlow.Conductor.State

/-!
# The operator console: requests and answers

The console takes requests as JSON objects and answers in JSON. This module
holds what every part of it shares: reading the fields of a request (a field
of the wrong type counts as missing), the form of a failure
(`\x7b"error": kind, "message": text\x7d`), and the forms in which runs,
decisions and settings are read and shown.

A run is shown with its time stamps as flags (set or not), and a decision
without its time stamp, since both depend on the clock of the moment.
-/

set_option autoImplicit false

namespace EpicFlow.Console

/-! Field access: a field of the wrong type counts as missing. -/

def fStr (j : Json) (k d : String) : String := ((j.get k).str?).getD d
def fStr? (j : Json) (k : String) : Option String := (j.get k).str?
def fNat (j : Json) (k : String) (d : Nat) : Nat := ((j.get k).nat?).getD d
def fNat? (j : Json) (k : String) : Option Nat := (j.get k).nat?
def fBool (j : Json) (k : String) (d : Bool) : Bool := ((j.get k).bool?).getD d
def fFloat (j : Json) (k : String) (d : Float) : Float := ((j.get k).float?).getD d
def fArr (j : Json) (k : String) : List Json := ((j.get k).arr?).getD []
def fStrs (j : Json) (k : String) : List String := (fArr j k).filterMap Json.str?

def errJ (kind msg : String) : Json := .obj [("error", .str kind), ("message", .str msg)]
def bad (msg : String) : Json := errJ "BadInput" msg
def invalid (msg : String) : Json := errJ "Invalid" msg

def kindOf : EngineError → String
  | .spawnRejected _ => "SpawnRejected" | .cardUnreachable _ => "CardUnreachable"
  | .cardCorruption _ => "CardCorruption" | .invalidTransition _ => "InvalidTransition"
  | .worker _ => "Worker" | .notFound _ => "NotFound" | .config _ => "Config"
  | .database _ => "Sqlite" | .migration _ => "Migration" | .io _ => "Io"
  | .serialization _ => "Serialization"

def engErr (e : EngineError) : Json := errJ (kindOf e) e.message

/-- Answers built with `Except Json`: the error side is the answer. -/
abbrev A := Except Json

def liftInvalid {α : Type} : Except String α → A α
  | .ok a => .ok a
  | .error m => .error (invalid m)

def liftEng {α : Type} : Except EngineError α → A α
  | .ok a => .ok a
  | .error e => .error (engErr e)

def liftSerde {α : Type} : Except String α → A α
  | .ok a => .ok a
  | .error m => .error (errJ "Serde" m)

def answer (r : A Json) : Json := match r with
  | .ok j => j
  | .error e => e

def rationale (name : String) : A Rationale :=
  match Rationale.parse name with
  | some r => .ok r
  | none => .error (bad ("unknown rationale '" ++ name ++ "'"))

def optRationale (j : Json) (k : String) : A (Option Rationale) :=
  match fStr? j k with
  | some n => (rationale n).map some
  | none => .ok none

/-- The registry of an input: its `stages`, or the built-in table. -/
def registry (j : Json) : A Registry :=
  match j.get "stages" with
  | .null => .ok Registry.builtin
  | s => do
    let ds ← liftSerde (Json.decode (.seq StageDescriptor.shape) s)
    liftEng (Registry.ofDescriptors ((ds.arr?.getD []).map StageDescriptor.ofJson))

def signals (xs : List String) : A (List Signal) := liftInvalid (xs.mapM Signal.parse)

/-- A run described by an input object. -/
def runInput (j : Json) : A Run := do
  let stage ← liftInvalid (StageName.parse (fStr j "stage" "BUILD"))
  let status ← liftInvalid (RunStatus.parse (fStr j "status" "COMPLETED"))
  let sigs ← signals (fStrs j "signals")
  let reason ← optRationale j "stop_reason"
  pure { runId := fStr j "run_id" "run-1", epicId := fStr j "epic_id" "epic-1", stage
         sessionId := fStr j "session_id" "s_1", iteration := fNat j "iteration" 1
         cardId := fStr j "card_id" "card-1", status, signals := Run.addSignals [] sigs
         turns := fNat j "turns" 0, cost := fFloat j "cost" 0.0, stopReason := reason
         lastCardStatus := fStr? j "last_card_status" }

/-- A run as answers show it: timestamps as whether they are set. -/
def runOut (r : Run) : Json :=
  (r.toJson.set "started_at" (.bool r.startedAt.isSome)).set "completed_at" (.bool r.completedAt.isSome)

def decisionOut (d : Decision) : Json := d.toJson.erase "decided_at"

/-- The wall-clock stamp of every change the console makes. -/
def stamp : String := ({} : Host).stamp

/-- A decision described by an input object. -/
def decisionInput (j : Json) (epicId : String) : A Decision := do
  let target ← liftInvalid (Target.parse (fStr j "target" "HUMAN"))
  let source ← liftInvalid (StageName.parse (fStr j "source_stage" "DESIGN"))
  let r ← rationale (fStr j "rationale" "Routed")
  let priority ← liftInvalid (Priority.parse (fStr j "priority" "NORMAL"))
  pure { epicId := fStr j "epic_id" epicId, runId := fStr? j "run_id", source, target, priority
         rationale := r, issues := fStrs j "blocking_issues", decidedAt := stamp }


/-- Where the console's epics keep their workspaces. -/
def epicRoot : String := "<root>/ws"

/-- The id of the `n`-th epic created. -/
def epicIdOf (n : Nat) : String :=
  let d := Text.natText n
  "epic-" ++ String.ofList (List.replicate (8 - d.length) '0') ++ d

def scratchRoot : String := "/tmp/scratch/workspaces"

def scratchInbox : String := "/tmp/scratch/inbox"

/-- Settings from an input object. -/
def settingsInput (j : Json) : A EngineSettings := do
  let v ← liftSerde (Json.decode (EngineSettings.shape scratchRoot scratchInbox) j)
  pure (EngineSettings.ofJson v)

def patternInput (j : Json) : A PatternRecord := do
  let v ← liftSerde (Json.decode PatternRecord.shape j)
  pure (PatternRecord.ofJson v)

/-- Run a job of a conductor alone, carrying the host and the conductor. -/
def runEng {α : Type} (st : Host × Conductor) (j : Eng α) : (Host × Conductor) × Except EngineError α :=
  let (h, c, r) := (j st.2 st.1).solo
  ((h, c), r)

end EpicFlow.Console
