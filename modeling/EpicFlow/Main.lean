import EpicFlow.Conductor.Commands

/-!
# The program

`handy-conductor` on a command line. The words are read as an invocation;
the settings file, if there is one, is read from disk, and the command runs
against a machine that holds that file and has no programs installed, with
a database of its own for the run. What the command prints goes to standard
output and a failure to standard error; the exit code is the program's.
Settings written by `config --write` are saved to disk.
-/

set_option autoImplicit false

open EpicFlow

/-- The environment variables that say where the program keeps its files. -/
def placeVariables : List String := ["HOME", "XDG_CONFIG_HOME", "XDG_DATA_HOME", "HANDY_CONDUCTOR_CONFIG", "TMPDIR"]

/-- Run the conductor once. -/
def main (args : List String) : IO UInt32 := do
  match Cli.Invocation.ofLine args with
  | .error stop =>
    if stop.toStdout then IO.print stop.text else IO.eprint stop.text
    return stop.exitCode.toUInt32
  | .ok inv =>
    let env ← placeVariables.filterMapM fun v => do return (← IO.getEnv v).map (v, ·)
    let places : Places := { home := env.lookup "HOME", env }
    let path := inv.config.getD places.configFile
    let text ← try (some <$> IO.FS.readFile path) catch _ => pure none
    let empty : FileTree := {}
    let files := match text with
      | some t => (empty.writeAll path t).toOption.getD empty
      | none => empty
    match EngineSettings.load files path places.dataDir with
    | .error e =>
      IO.eprint (Failure.engine e).report
      return 1
    | .ok st =>
      let setup : Setup := { settings := st, configPath := path, json := inv.json, home := places.home
                             dataDir := places.dataDir, tempDir := (env.lookup "TMPDIR").getD "/tmp" }
      let host : Host := { machine := { installed := [], files, env } }
      let (_, o) := setup.execute inv.command host
      IO.print o.out
      match o.failure with
      | some f =>
        IO.eprint f.report
        return 1
      | none =>
        if let .config true := inv.command then
          if let some d := Path.parent path then IO.FS.createDirAll d
          IO.FS.writeFile path st.fileText
        return 0
