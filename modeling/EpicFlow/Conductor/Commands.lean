import EpicFlow.Cli.Commands
import EpicFlow.Conductor.Drive
import EpicFlow.Conductor.Report
import EpicFlow.Settings.File
import EpicFlow.Worker.Scripted
import EpicFlow.Worker.Tmux
import EpicFlow.Card.Transport
import EpicFlow.Epic.Founding

/-!
# Carrying out the conductor's commands

A command runs against the settings it was given: it opens the database
(making its directory first), builds what it needs (the stage table, the
rules for epics, a crew of worker and mailbox), does its work and prints
either JSON or lines for a reader. A command that fails prints what it
printed so far and a `Failure`: the error and, one by one, the errors that
caused it.

`run` drives every epic with a conductor of its own, all at once on one
clock, and prints them as they finish. `dry-run` rehearses one epic against
the scripted worker in a database of its own and in a scratch directory that
it removes afterwards.

Main statements:

* `report_message`: a plain message is reported on one line.
-/

set_option autoImplicit false

namespace EpicFlow

/-- Why a command failed. -/
inductive Failure where
  /-- an error of the engine; a file or JSON error carries the error it came from -/
  | engine (e : EngineError)
  /-- a plain message -/
  | message (text : String)
  /-- an error met while doing what the text says -/
  | context (text : String) (cause : Failure)

namespace Failure

/-- The error and the errors under it, outermost first. -/
def chain : Failure → List String
  | engine e => e.message :: match e with
    | .io m | .serialization m => [m]
    | _ => []
  | message t => [t]
  | context t c => t :: c.chain

/-- A cause under the error: indented by four, or numbered when there are several. -/
def causeText (numbered : Bool) (n : Nat) (t : String) : String :=
  let lead := if numbered then Text.padLeft (Text.natText n) 5 ++ ": " else "    "
  let rest := if numbered then "       " else "    "
  lead ++ Text.replaceAll t "\n" ("\n" ++ rest)

/-- What the program prints for a failure: `Error: ` and the error, then the
causes under `Caused by:`. -/
def report (f : Failure) : String :=
  match f.chain with
  | [] => "Error: \n"
  | top :: causes =>
    let numbered := causes.length > 1
    let under := if causes.isEmpty then ""
      else "\n\nCaused by:" ++ String.join (causes.zipIdx.map fun (c, i) => "\n" ++ causeText numbered i c)
    "Error: " ++ top ++ under ++ "\n"

theorem report_message (t : String) : (message t).report = "Error: " ++ t ++ "\n" := by
  simp [report, chain]

end Failure

/-- What a command printed, and why it failed if it did. -/
structure Outcome where
  out : String := ""
  failure : Option Failure := none

namespace Outcome

/-- A command that failed before printing. -/
def failed (f : Failure) : Outcome := { failure := some f }

/-- Output printed before the rest. -/
def after (printed : String) (o : Outcome) : Outcome := { o with out := printed ++ o.out }

end Outcome

/-- What a command runs with. -/
structure Setup where
  settings : EngineSettings
  /-- where `config --write` saves -/
  configPath : String
  json : Bool
  /-- the home directory that escalation texts hide -/
  home : Option String
  /-- the program's data directory -/
  dataDir : String
  /-- where scratch directories go -/
  tempDir : String

namespace Setup

/-- Print a value: JSON, or the lines for a reader. -/
def emit (c : Setup) (j : Json) (lines : List String) : String :=
  if c.json then j.pretty ++ "\n" else String.join (lines.map (· ++ "\n"))

/-- The database file. -/
def databaseFile (c : Setup) : String := c.settings.databaseFile c.dataDir

/-- Open the database: its directory is made first, and a failure names the file. -/
def openStore (c : Setup) : Eng (Option Failure) := do
  let path := c.databaseFile
  match Path.parent path with
  | none => return none
  | some d =>
    if d.isEmpty then return none
    let h ← Eng.host
    match h.machine.files.createDirAll d with
    | .ok files =>
      Eng.modifyHost fun h => { h with machine := { h.machine with files } }
      return none
    | .error e => return some (.context ("Failed to open database " ++ path) (.engine (.io e.message)))

/-- The conductor of one drive: its inbox and how it retries reading cards. -/
def conductor (st : EngineSettings) : Conductor :=
  { cards := { inbox := st.inboxDir, retries := st.cards.parseRetries
               backoff := st.cards.retryBackoffMs * 1000000 } }

/-- The crew the settings call for: agents in terminal sessions, or the
scripted worker with its default script. -/
def crew (c : Setup) (st : EngineSettings) (policy : EpicPolicy) : Crew :=
  let inSessions := st.worker == .tmux
  { worker := if inSessions then Worker.tmux
        { transport := st.cards.transport, containerPrefix := st.cards.containerPrefix, home := c.home }
      else Worker.scripted {} policy.registry
    mailbox := if !inSessions then Mailbox.scripted
      else if st.cards.transport == .docker then Mailbox.docker c.home else Mailbox.worktree
    policy, monitor := MonitorConfig.ofSettings st.monitor
    grace := st.monitor.teardownGraceSecs * MonitorConfig.nanosPerSec
    sink := .store, patternLimit := some st.patternLimit
    transport := st.cards.transport, containerPrefix := st.cards.containerPrefix, home := c.home }

/-- The rules for epics of some settings. -/
def policyOf (st : EngineSettings) : Eng EpicPolicy := do
  let reg ← Eng.ofExcept st.registry
  Eng.ofExcept (EpicPolicy.ofSettings reg st)

end Setup

/-- Go on with a step's result; an engine error ends the command. -/
def Outcome.step {α : Type} (j : Eng α) (k : α → Eng Outcome) : Eng Outcome := do
  match ← Job.attempt j with
  | .ok a => k a
  | .error e => pure (.failed (.engine e))

/-- Go on once the database is open. -/
def Setup.withStore (c : Setup) (k : Eng Outcome) : Eng Outcome := do
  match ← c.openStore with
  | some f => pure (.failed f)
  | none => k

/-- Run a command's work on one conductor. -/
def Outcome.solo (h : Host) (c0 : Conductor) (j : Eng Outcome) : Host × Outcome :=
  let (h', _, r) := (j c0 h).solo
  (h', match r with
    | .ok o => o
    | .error e => .failed (.engine e))

namespace Setup

open Outcome (step)

/-- Create an epic, and drive it when asked. -/
def createEpic (c : Setup) (objective : String) (run : Bool) : Eng Outcome :=
  c.withStore <| step (policyOf c.settings) fun policy =>
  step (policy.found c.settings.sourceRepo objective) fun founded =>
  step (do Eng.ofExcept (EpicPolicy.get (← Eng.store) founded.id)) fun e =>
    let printed := c.emit e.toJson [e.line]
    if !run then pure { out := printed } else
    Outcome.after printed <$> step ((c.crew c.settings policy).runEpic e.id) fun e' =>
      pure { out := c.emit e'.toJson [e'.line] }

/-- Drive one epic with a conductor of its own. -/
def driveOne (c : Setup) (id : String) : Eng Epic := do
  if let some _ ← c.openStore then Eng.fail (.io "database")
  let policy ← policyOf c.settings
  (c.crew c.settings policy).runEpic id

/-- Steps enough for any drive on the shared clock. -/
def driveFuel : Nat := 100000000

/-- Drive epics all at once, each with a conductor of its own, and print
them as they finish; a failed drive is counted. -/
def runEpics (c : Setup) (ids : List String) (h : Host) : Host × Outcome :=
  if ids.isEmpty then (h, {}) else
  let c0 := conductor c.settings
  let queue := ids.zipIdx.map fun (id, i) =>
    ({ index := i, wake := h.now, next := fun s => c.driveOne id c0 s } : Flow.Queued Host Conductor EngineError Epic)
  let (h', results) := Flow.together driveFuel h queue []
  let finished := results.filterMap fun (_, _, r) => r.toOption
  let failures := results.length - finished.length
  (h', { out := c.emit (.arr (finished.map (·.toJson))) (finished.map (·.line))
         failure := if failures > 0 then some (.message (Text.natText failures ++ " epic(s) failed")) else none })

/-- The `run` command: the given epic, or every active one. -/
def run (c : Setup) (epicId : Option String) (h : Host) : Host × Outcome :=
  match epicId with
  | some id => c.runEpics [id] h
  | none =>
    let (h1, _, r) := ((do return (← c.openStore, (← Eng.store).epicList (some .active))) (conductor c.settings) h).solo
    match r with
    | .ok (none, epics) => c.runEpics (epics.map (·.id)) h1
    | .ok (some f, _) => (h1, .failed f)
    | .error e => (h1, .failed (.engine e))

/-- Move an epic to a stage. -/
def overrideStage (c : Setup) (id stage : String) : Eng Outcome :=
  c.withStore <| step (policyOf c.settings) fun policy =>
  step (do let now ← Eng.stamp; Eng.onStore fun s => policy.overrideStage s id stage now) fun e =>
    pure { out := c.emit e.toJson [e.line] }

/-- The status of the epics, or of one epic with its runs and decisions. -/
def status (c : Setup) (epicId : Option String) : Eng Outcome :=
  c.withStore <| step (policyOf c.settings) fun _ =>
  step Eng.store fun s =>
  match epicId with
  | none =>
    let epics := s.epicList none
    pure { out := c.emit (.arr (epics.map (·.toJson))) (epics.map fun e => e.tableRow (EpicPolicy.usage s e.id)) }
  | some id =>
    step (Eng.ofExcept (EpicPolicy.get s id)) fun e =>
    let runs := s.runsOf id
    let decisions := s.decisionsOf id
    let u := EpicPolicy.usage s id
    let j := Json.sortKeys (.obj [("epic", e.toJson), ("usage", u.toJson), ("runs", .arr (runs.map (·.toJson))),
      ("decisions", .arr (decisions.map (·.toJson)))])
    pure { out := c.emit j (e.detail u runs decisions) }

/-- The escalations waiting for an operator, or all of them. -/
def escalations (c : Setup) (all : Bool) : Eng Outcome :=
  c.withStore <| step Eng.store fun s =>
    let records := s.escalationList (!all)
    let lines := (if records.isEmpty then ["No open escalations"] else []) ++ records.flatMap (·.lines)
    pure { out := c.emit (.arr (records.map (·.toJson))) lines }

/-- Answer an escalation. -/
def resolve (c : Setup) (id : Int) (option : String) : Eng Outcome :=
  match Resolution.parse option with
  | .error m => pure (.failed (.message m))
  | .ok o =>
    c.withStore <| step (policyOf c.settings) fun policy =>
    step (do let now ← Eng.stamp; Eng.onStore fun s => policy.answer s id o now) fun e =>
      pure { out := c.emit e.toJson [e.line] }

/-- Fail the runs whose worker is gone. -/
def recover (c : Setup) : Eng Outcome :=
  c.withStore <| step (policyOf c.settings) fun policy =>
  step (c.crew c.settings policy).recover fun ids =>
    let lines := if ids.isEmpty then ["No interrupted runs"]
      else ids.map fun id => "Marked " ++ id ++ " FAILED (Interrupted)"
    pure { out := c.emit (Json.strs ids) lines }

/-- Check the tools the settings need. -/
def doctor (c : Setup) : Eng Outcome :=
  step (Eng.shell (Doctor.check c.home c.settings)) fun r =>
    pure { out := c.emit r.toJson r.lines
           failure := if r.allSatisfied then none else some (.message "Required dependencies are missing") }

/-- Search the pattern memory. -/
def searchPatterns (c : Setup) (query scope : String) : Eng Outcome :=
  c.withStore <| step Eng.store fun s =>
    let found := s.patterns.search c.settings.patternLimit query scope
    pure { out := c.emit (.arr (found.map (·.toJson))) (found.map (·.line)) }

/-- Add a pattern, or replace the one of its name and scope. -/
def addPattern (c : Setup) (r : PatternRecord) : Eng Outcome :=
  c.withStore <| step (Eng.onStore fun s => (s.patterns.store r).map fun (b, created) =>
      ({ s with patterns := b }, created)) fun created =>
    let verb := if created then "Added" else "Updated"
    pure { out := c.emit r.toJson [verb ++ " pattern " ++ r.name ++ " in " ++ r.scope] }

/-- Print the settings, after writing them when asked. -/
def config (c : Setup) (write : Bool) : Eng Outcome := do
  if write then
    let h ← Eng.host
    match EngineSettings.save h.machine.files c.configPath c.settings with
    | .ok files => Eng.modifyHost fun h => { h with machine := { h.machine with files } }
    | .error e => return .failed (.engine e)
  return { out := c.settings.toJson.pretty ++ "\n" }

/-- The settings of a rehearsal: everything under the scratch directory, the
scripted worker, no source repository, quick retries. -/
def rehearsalSettings (st : EngineSettings) (scratch : String) : EngineSettings :=
  { st with workspaceRoot := Path.join scratch "workspaces", inboxDir := Path.join scratch "inbox"
            sourceRepo := none, worker := .simulated
            cards := { st.cards with transport := .worktree, retryBackoffMs := 10 } }

/-- The crew of a rehearsal: the scripted worker, polling every 20 ms for at
most two seconds, a teardown grace of 50 ms. -/
def rehearsalCrew (c : Setup) (st : EngineSettings) (policy : EpicPolicy) (sc : Script) : Crew :=
  let base := MonitorConfig.ofSettings st.monitor
  { c.crew st policy with
    worker := Worker.scripted sc policy.registry
    monitor := { base with baseInterval := 20000000, maxWait := 2000000000, minInterval := 5000000 }
    grace := 50000000 }

/-- What a rehearsal shows: the epic, its runs and decisions, and every escalation. -/
def rehearsalReport (c : Setup) (s : Store) (e : Epic) : String :=
  let runs := s.runsOf e.id
  let records := s.escalationList false
  let j := Json.obj [("epic", e.toJson), ("runs", .arr (runs.map (·.toJson))),
    ("decisions", .arr ((s.decisionsOf e.id).map (·.toJson))), ("escalations", .arr (records.map (·.toJson)))]
  c.emit j (runs.map (·.rehearsalLine) ++ records.map (·.rehearsalLine) ++ [e.line])

/-- Rehearse an epic against the scripted worker, in a database and a
scratch directory of its own; the directory is removed afterwards and the
database kept apart. -/
def dryRun (c : Setup) (objective script : String) (h : Host) : Host × Outcome :=
  match Script.parse script with
  | .error m => (h, .failed (.message m))
  | .ok sc =>
    let scratch := Path.join c.tempDir ("handy-conductor-dry-run-" ++ Eng.scatter (h.epicSeq + h.cardSeq + 1) 374761393)
    let st := rehearsalSettings c.settings scratch
    let kept := h.store
    let work : Eng Outcome :=
      step (policyOf st) fun policy =>
      step (policy.found st.sourceRepo objective) fun founded => do
        let r ← Job.attempt ((c.rehearsalCrew st policy sc).runEpic founded.id)
        Eng.modifyHost fun h => { h with machine := { h.machine with files := h.machine.files.removeTree scratch } }
        match r with
        | .error e => pure (.failed (.engine e))
        | .ok e => pure { out := c.rehearsalReport (← Eng.store) e }
    let (h', o) := Outcome.solo { h with store := {} } (conductor st) work
    ({ h' with store := kept }, o)

/-- Carry out a command. -/
def execute (c : Setup) (cmd : Cli.Command) (h : Host) : Host × Outcome :=
  let solo := fun (j : Eng Outcome) => Outcome.solo h (conductor c.settings) j
  match cmd with
  | .createEpic objective run => solo (c.createEpic objective run)
  | .run epicId => c.run epicId h
  | .overrideStage id stage => solo (c.overrideStage id stage)
  | .dryRun objective script => c.dryRun objective script h
  | .status epicId => solo (c.status epicId)
  | .escalations all => solo (c.escalations all)
  | .resolve id option => solo (c.resolve id option)
  | .recover => solo c.recover
  | .doctor => solo c.doctor
  | .searchPatterns query scope => solo (c.searchPatterns query scope)
  | .addPattern name body scope confidence => solo (c.addPattern { name, body, scope, confidence })
  | .config write => solo (c.config write)

end Setup

end EpicFlow
