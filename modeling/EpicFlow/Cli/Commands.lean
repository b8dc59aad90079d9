import EpicFlow.Cli.Parse

/-!
# The conductor's command line

`handy-conductor` drives epics through their stages. Its commands create an
epic (and drive it), drive the active epics, move an epic to a stage,
rehearse an epic against the scripted worker, show epics, list and answer
escalations, recover runs whose worker is gone, check the tools, search and
add patterns, and show or write the settings. Three global arguments apply
to all of them: the settings file, the log filter, and JSON output.

`Invocation.ofLine` reads a command line into an `Invocation`: the global
arguments and one `Command` with its typed values, defaults filled in.

Main statements:

* `ofLine_empty`: a command line with no words asks for a subcommand.
-/

set_option autoImplicit false

namespace EpicFlow.Cli

/-- A value by position. -/
def pos (id placeholder : String) (required : Bool) (help : String := "") (kind : ValueKind := .text)
    (default : Option String := none) : ArgSpec :=
  { id, role := .positional placeholder kind required, help, default }

/-- A flag. -/
def flagArg (id help : String) (global : Bool := false) : ArgSpec :=
  { id, role := .flag, long := some id, help, global }

/-- An option with a value. -/
def optArg (id placeholder : String) (help : String := "") (kind : ValueKind := .text)
    (default : Option String := none) (global : Bool := false) : ArgSpec :=
  { id, role := .option placeholder kind, long := some id, help, default, global }

/-- The pattern memory's commands. -/
def patternCommands : List CommandSpec :=
  [{ name := "search", about := "Find patterns relevant to a query"
     args := [pos "query" "QUERY" true,
              optArg "scope" "SCOPE" "Stage scope (global patterns are always included)" .text (some "global")] },
   { name := "add", about := "Add or replace a pattern"
     args := [pos "name" "NAME" true, pos "body" "BODY" true,
              optArg "scope" "SCOPE" "" .text (some "global"),
              optArg "confidence" "CONFIDENCE" "" .float (some "0.5")] }]

/-- The grammar of the conductor's command line. -/
def conductor : CommandSpec :=
  { name := "handy-conductor"
    about := "Drive coding-agent epics through registered stages"
    longAbout := some ("Drive coding-agent epics through registered stages\n\n" ++
      "Each stage runs one agent session coordinated by a markdown task card. The agent's declared " ++
      "outcome signals pick the next stage; anything safety-relevant stops the epic and waits for an operator.")
    version := some "0.1.0"
    subcommandRequired := true
    args :=
      [optArg "config" "PATH" "Settings file (defaults to $HANDY_CONDUCTOR_CONFIG or the config dir)" .path none true,
       optArg "log" "FILTER" "Log filter directives, e.g. \"debug\" or \"handy_conductor::devops=trace\"" .text none true,
       flagArg "json" "Print results as JSON" true]
    subcommands :=
      [{ name := "create-epic", about := "Create an epic at the initial stage"
         args := [pos "objective" "OBJECTIVE" true "What the epic should achieve",
                  flagArg "run" "Start driving the epic right away"] },
       { name := "run", about := "Drive ACTIVE epics until they block or finish"
         args := [pos "epic_id" "EPIC_ID" false "Epic to drive (all ACTIVE epics when omitted)"] },
       { name := "override-stage", about := "Move an epic to a stage regardless of routing"
         args := [pos "epic_id" "EPIC_ID" true, pos "stage" "STAGE" true] },
       { name := "dry-run", about := "Run an epic end to end against the simulated worker"
         args := [pos "objective" "OBJECTIVE" false "Objective for the throwaway epic" .text (some "dry run"),
                  optArg "script" "SCRIPT"
                    "Behaviour per stage, e.g. \"BUILD=TESTS_FAILED|ALL_TESTS_PASS,VALIDATE=STALL\"" .text (some "")] },
       { name := "status", about := "Show epics, or one epic with its runs and decisions"
         args := [pos "epic_id" "EPIC_ID" false] },
       { name := "escalations", about := "List escalations waiting for an operator"
         args := [flagArg "all" "Include resolved escalations"] },
       { name := "resolve", about := "Answer an escalation (resume, retry, route:STAGE, complete, abandon, pause)"
         args := [pos "id" "ID" true "" .int64, pos "option" "OPTION" true] },
       { name := "recover", about := "Fail RUNNING runs whose worker is gone and block their epics" },
       { name := "doctor", about := "Check the tools the current settings need" },
       { name := "patterns", about := "Pattern memory", subcommandRequired := true, subcommands := patternCommands },
       { name := "config", about := "Print the effective settings"
         args := [flagArg "write" "Write them to the settings file"] }] }

/-- What the operator asks of the conductor. -/
inductive Command where
  | createEpic (objective : String) (run : Bool)
  | run (epicId : Option String)
  | overrideStage (epicId stage : String)
  | dryRun (objective script : String)
  | status (epicId : Option String)
  | escalations (all : Bool)
  | resolve (id : Int) (option : String)
  | recover
  | doctor
  | searchPatterns (query scope : String)
  | addPattern (name body scope : String) (confidence : Float)
  | config (write : Bool)

/-- A command with the global arguments. -/
structure Invocation where
  config : Option String := none
  log : Option String := none
  json : Bool := false
  command : Command

namespace Invocation

/-- The text given an argument. -/
def textOf (vs : List (String × ArgValue)) (id : String) : Option String :=
  match vs.lookup id with
  | some (.text s) => some s
  | _ => none

/-- The flag is given. -/
def flagOf (vs : List (String × ArgValue)) (id : String) : Bool := (vs.lookup id).isSome

/-- The command that the subcommands and values name. -/
def commandOf (names : List String) (vs : List (String × ArgValue)) : Option Command :=
  let t := fun id => (textOf vs id).getD ""
  match names with
  | ["create-epic"] => some (.createEpic (t "objective") (flagOf vs "run"))
  | ["run"] => some (.run (textOf vs "epic_id"))
  | ["override-stage"] => some (.overrideStage (t "epic_id") (t "stage"))
  | ["dry-run"] => some (.dryRun (t "objective") (t "script"))
  | ["status"] => some (.status (textOf vs "epic_id"))
  | ["escalations"] => some (.escalations (flagOf vs "all"))
  | ["resolve"] =>
    match vs.lookup "id" with
    | some (.int i) => some (.resolve i (t "option"))
    | _ => none
  | ["recover"] => some .recover
  | ["doctor"] => some .doctor
  | ["patterns", "search"] => some (.searchPatterns (t "query") (t "scope"))
  | ["patterns", "add"] =>
    match vs.lookup "confidence" with
    | some (.float x) => some (.addPattern (t "name") (t "body") (t "scope") x)
    | _ => none
  | ["config"] => some (.config (flagOf vs "write"))
  | _ => none

/-- Read a command line (the words after the program's name). -/
def ofLine (words : List String) : Except Stop Invocation := do
  let m ← (Level.root conductor).read {} words
  let (names, vs) := m.flatten
  match commandOf names vs with
  | some command =>
    pure { config := textOf vs "config", log := textOf vs "log", json := flagOf vs "json", command }
  | none => .error (.refused { fault := .missingSubcommand conductor.name [] })

theorem ofLine_empty :
    ofLine [] = .error (.helpInstead ((Level.root conductor).helpPage false)) := by
  have h := Level.read_nil_help (Level.root conductor) rfl rfl
  simp only [ofLine, h]
  rfl

end Invocation

end EpicFlow.Cli
