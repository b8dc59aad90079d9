import EpicFlow.Settings
import EpicFlow.Json.Typed
import EpicFlow.Machine.Files
import EpicFlow.Text.Path

/-!
# The settings file

Settings live in a JSON file. Without a file the defaults hold, with the
workspaces, the inbox and the database in the program's data directory. A
file is read with the same defaults for the fields it leaves out; a file
that does not read as settings is refused with the reason and its place in
the file, and settings that read are checked before use. Written settings
are pretty JSON.

Where things are: the settings file is the one named by
`HANDY_CONDUCTOR_CONFIG`, else `handy-conductor/settings.json` in the
configuration directory; the data directory is `handy-conductor` in the
local data directory. Those two are `$XDG_CONFIG_HOME` and
`$XDG_DATA_HOME` when set to absolute paths, else `.config` and
`.local/share` in the home directory.

Main statements:

* `load_absent`: without a file, the defaults hold.
-/

set_option autoImplicit false

namespace EpicFlow

/-- Where the program keeps its files, by the environment. -/
structure Places where
  home : Option String
  /-- looks up an environment variable -/
  env : List (String × String) := []

namespace Places

/-- The name of the program's directories. -/
def appDir : String := "handy-conductor"

/-- An absolute directory from an environment variable, else one in the home directory. -/
def baseDir (p : Places) (var sub : String) : String :=
  match p.env.lookup var with
  | some d => if Text.startsWith d "/" then d else (p.home.map (Path.join · sub)).getD "."
  | none => (p.home.map (Path.join · sub)).getD "."

/-- The data directory. -/
def dataDir (p : Places) : String := Path.join (p.baseDir "XDG_DATA_HOME" ".local/share") appDir

/-- The settings file when none is named on the command line. -/
def configFile (p : Places) : String :=
  match p.env.lookup "HANDY_CONDUCTOR_CONFIG" with
  | some f => if f.isEmpty then Path.join (Path.join (p.baseDir "XDG_CONFIG_HOME" ".config") appDir) "settings.json" else f
  | none => Path.join (Path.join (p.baseDir "XDG_CONFIG_HOME" ".config") appDir) "settings.json"

end Places

namespace EngineSettings

/-- The default settings, with the workspaces and the inbox in the data directory. -/
def defaultsIn (dataDir : String) : EngineSettings :=
  { workspaceRoot := Path.join dataDir "workspaces", inboxDir := Path.join dataDir "inbox" }

/-- The database file: the one the settings name, else one in the data directory. -/
def databaseFile (s : EngineSettings) (dataDir : String) : String :=
  s.databasePath.getD (Path.join dataDir "conductor.db")

/-- Read settings from the text of a file, and check them. -/
def ofText (path text dataDir : String) : Except EngineError EngineSettings := do
  let shape := EngineSettings.shape (Path.join dataDir "workspaces") (Path.join dataDir "inbox")
  match Json.readAs shape text with
  | .error m => throw (.config ("Failed to parse " ++ path ++ ": " ++ m))
  | .ok j =>
    let s := EngineSettings.ofJson j
    s.validate
    pure s

/-- Load the settings of a file among the given files. -/
def load (files : FileTree) (path dataDir : String) : Except EngineError EngineSettings :=
  if !files.present path then .ok (defaultsIn dataDir)
  else match files.read path with
    | .ok text => ofText path text dataDir
    | .error e => .error (.io e.message)

theorem load_absent (files : FileTree) (path dataDir : String) (h : files.present path = false) :
    load files path dataDir = .ok (defaultsIn dataDir) := by
  simp [load, h]

/-- The text of a written settings file. -/
def fileText (s : EngineSettings) : String := s.toJson.pretty

/-- Write settings to a file, making its directory first. -/
def save (files : FileTree) (path : String) (s : EngineSettings) : Except EngineError FileTree := do
  let files ← match Path.parent path with
    | some d => (files.createDirAll d).mapError fun e => EngineError.io e.message
    | none => pure files
  (files.write path s.fileText).mapError fun e => EngineError.io e.message

end EngineSettings

end EpicFlow
