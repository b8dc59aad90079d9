import EpicFlow.Console.Host
import EpicFlow.Conductor.Commands

/-!
# Console: the command line

A request lists command lines of the conductor and runs them one after the
other, as separate runs of the program against one machine and one
database: each line is read, its settings loaded and its command carried
out, and the answer has the exit code and what the program printed on each
stream. Between the lines a request may replace the settings file, or leave
a run behind in the database as if a process had died during it.

The settings file is named on the command line, named by the environment,
or sits in its default place under the home directory. The directory that a
rehearsal works in is shown as `handy-conductor-dry-run-<id>`.
-/

set_option autoImplicit false

namespace EpicFlow.Console

/-- How the program finds its settings file. -/
inductive SettingsPlace where
  /-- named on the command line -/
  | flag
  /-- named by the environment -/
  | env
  /-- in its default place under the home directory -/
  | home
deriving BEq

/-- The settings file of a request: the given settings with the database,
the workspaces and the inbox in the scratch directory, and the scripted
worker unless another is given; compact, keys sorted. -/
def settingsFileText (given : Json) : String :=
  let kvs := (given.obj?).getD []
  let kvs := [("database_path", underScratch "db/conductor.db"), ("workspace_root", underScratch "ws"),
    ("inbox_dir", underScratch "inbox")].foldl (fun acc (k, v) => Assoc.put acc k (Json.str v)) kvs
  let kvs := if (Assoc.get? kvs "worker").isSome then kvs else Assoc.put kvs "worker" (.str "simulated")
  (Json.sortKeys (.obj kvs)).compact

/-- The name a rehearsal's scratch directory starts with. -/
def rehearsalDirPrefix : String := "handy-conductor-dry-run-"

/-- A text with the scratch directories of rehearsals shown as `<id>`. -/
def showRehearsalDirs (s : String) : String :=
  let found := idsIn rehearsalDirPrefix.toList s.toList
  Text.replaceEach s (found.map fun d => (d, rehearsalDirPrefix ++ "<id>"))

/-- What carries over from one command line to the next. -/
structure LineRig where
  host : Host
  /-- the databases, by file -/
  stores : List (String × Store) := []
  aliases : Aliases := {}
  place : SettingsPlace
  home : Option String
  /-- the environment the program runs in -/
  env : List (String × String)
  /-- the settings file the request writes -/
  settingsFile : String
  /-- the request describes the machine, and answers list the programs run -/
  onMachine : Bool

namespace LineRig

/-- Where the program keeps its files. -/
def places (r : LineRig) : Places := { home := r.home, env := r.env }

/-- The program's data directory. -/
def dataDir (r : LineRig) : String := r.places.dataDir

/-- The database file of the current settings. -/
def databaseFile (r : LineRig) : String :=
  match EngineSettings.load r.host.machine.files r.settingsFile r.dataDir with
  | .ok st => st.databaseFile r.dataDir
  | .error _ => underScratch "db/conductor.db"

/-- Write the settings file. -/
def writeSettings (r : LineRig) (text : String) : LineRig :=
  let m := r.host.machine
  { r with host := { r.host with machine := { m with files := (m.files.writeAll r.settingsFile text).toOption.getD m.files } } }

/-- The words the program is started with. -/
def words (r : LineRig) (args : List String) : List String :=
  (if r.place == .flag then ["--config", r.settingsFile] else []) ++ ["--log", "off"] ++ args.map r.aliases.real

/-- Run the program once: read the line, load the settings, carry out the
command on the database the settings name. -/
def runOnce (r : LineRig) (args : List String) : LineRig × Nat × String × String :=
  match Cli.Invocation.ofLine (r.words args) with
  | .error stop => (r, stop.exitCode, if stop.toStdout then stop.text else "", if stop.toStdout then "" else stop.text)
  | .ok inv =>
    let path := inv.config.getD r.places.configFile
    match EngineSettings.load r.host.machine.files path r.dataDir with
    | .error e => (r, 1, "", (Failure.engine e).report)
    | .ok st =>
      let setup : Setup := { settings := st, configPath := path, json := inv.json, home := r.home
                             dataDir := r.dataDir, tempDir := scratch }
      let db := setup.databaseFile
      let h := { r.host with store := (Assoc.get? r.stores db).getD {}, now := 0, cancelAt := none }
      let (h', o) := setup.execute inv.command h
      ({ r with host := h', stores := Assoc.put r.stores db h'.store },
        if o.failure.isSome then 1 else 0, o.out, (o.failure.map (·.report)).getD "")

/-- Run a command line: its exit code, what it printed, and the programs it
ran when the request describes the machine. -/
def runLine (r : LineRig) (args : List String) : LineRig × Json :=
  let before := r.host.machine.calls.length
  let (r', code, out, err) := r.runOnce args
  let calls := if r.onMachine then [("calls", callsSince r'.host.machine before)] else []
  (r', .obj (calls ++ [("code", .int code), ("stderr", .str err), ("stdout", .str out)]))

/-- Leave a run behind in the database, as if the process driving it had died. -/
def leaveOrphan (r : LineRig) (o : Json) : LineRig × Json :=
  let db := r.databaseFile
  let store := (Assoc.get? r.stores db).getD {}
  let eid := r.aliases.real (fStr o "epic" "epic-00000001")
  let stageText := fStr o "stage" "DESIGN"
  let session := fStr o "session_id" (eid ++ "_" ++ stageText ++ "_1")
  let inserted : Except String Store := do
    let stage ← StageName.parse stageText
    let run := (Run.pending eid stage session 1 "card-gone").start (fStr o "run_id" "run-gone") stamp
    (store.insertRun run).mapError (·.message)
  match inserted with
  | .ok s => ({ r with stores := Assoc.put r.stores db s }, .obj [("db", .str db), ("orphan", .str "ok")])
  | .error m => (r, .obj [("db", .str db), ("orphan", .str m)])

/-- Carry out one entry of a request. -/
def step (r : LineRig) (entry : Json) : LineRig × Json :=
  match entry with
  | .arr xs => r.runLine (xs.filterMap Json.str?)
  | .obj _ =>
    match entry.get "settings", entry.get "orphan" with
    | .null, .null => (r, bad "unknown command entry")
    | .null, o => r.leaveOrphan o
    | given, _ => (r.writeSettings (settingsFileText given), .obj [("settings", .str "ok")])
  | _ => (r, bad "unknown command entry")

/-- Carry out an entry and show its answer: ids under their aliases, the
scratch directory as `<root>`. -/
def shownStep (r : LineRig) (entry : Json) : LineRig × Json :=
  let (r', ans) := r.step entry
  let pfxs := if r.onMachine then aliasPrefixes else aliasPrefixes.filter (· != "run-")
  let aliases := r'.aliases.scanFor pfxs ans
  ({ r' with aliases }, toRoot ((aliases.display ans).mapStrings showRehearsalDirs))

end LineRig

/-- Run a request's command lines one after the other. -/
def opCli (home : Option String) (j : Json) : A Json := do
  let j := fromRoot j
  let place ← match fStr j "config" "flag" with
    | "flag" => pure SettingsPlace.flag
    | "env" => pure .env
    | "none" => pure .home
    | m => throw (bad ("unknown config '" ++ m ++ "'"))
  let onMachine := !(j.get "host").isNull
  let (machine, home) := machineOf (if onMachine then j.get "host" else .obj [("installed", .arr [])]) home
  let home := if place == .home then some (underScratch "home") else home
  let settingsFile := if place == .home then Path.join (underScratch "home") ".config/handy-conductor/settings.json"
    else underScratch "settings.json"
  let env := machine.env ++ (if place == .env then [("HANDY_CONDUCTOR_CONFIG", settingsFile)] else [])
  let text := match fStr? j "settings_text" with
    | some t => some t
    | none => if place == .home then none else some (settingsFileText (j.get "settings"))
  let r0 : LineRig := { host := { machine, scatteredIds := true }, place, home, env, settingsFile, onMachine }
  let r0 := match text with
    | some t => r0.writeSettings t
    | none => r0
  let (_, outs) := (fArr j "commands").foldl (fun (acc : LineRig × List Json) entry =>
    let (r', ans) := acc.1.shownStep entry
    (r', acc.2 ++ [ans])) (r0, [])
  pure (.arr outs)

end EpicFlow.Console
