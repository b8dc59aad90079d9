import EpicFlow.Cli.Help
import EpicFlow.Text.Similarity
import EpicFlow.Text.Integer
import EpicFlow.Decimal.Notation

/-!
# Reading a command line

The words of a command line are read from left to right against the grammar.
A word that names a subcommand hands the rest of the line to it; `--` makes
every later word a value; `--name` and `--name=value` are long arguments;
`-abc` are short flags; any other word is the value of the option before it
or the next value by position. A value is read (as a number, where the
argument wants one) when the next argument starts, so errors come in the
order of the line. After the words, defaults fill the arguments not given,
and the command checks that what it needs is there: a subcommand, its
required values.

Reading stops early in three ways: a help or version flag prints its text;
a command that needs a subcommand and got no argument at all prints its help
page as an error; and a mistake is refused with a message, hints, a usage
line and a pointer to `--help`.

Main statements:

* `Stop.exitCode_shown`: printing help or the version is a success.
* `read_nil_help`: a command that needs a subcommand and is given nothing
  shows its help page.
-/

set_option autoImplicit false

namespace EpicFlow.Cli

/-- A value the command line gave an argument. -/
inductive ArgValue where
  | present
  | text (s : String)
  | int (i : Int)
  | float (x : Float)

/-- What a command was given: values by argument id, the ids given on the
line (not by default), in order, and the subcommand that followed. -/
structure Matches where
  values : List (String × ArgValue) := []
  given : List String := []
  sub : Option (String × Matches) := none

/-- A mistake on the command line. -/
inductive UsageFault where
  /-- a word that is not a subcommand where one was expected, with alike names -/
  | unknownSubcommand (word : String) (alike : List String)
  /-- a command that needs a subcommand got none -/
  | missingSubcommand (command : String) (names : List String)
  /-- an argument the command does not take, with an alike one and hints -/
  | unexpected (arg : String) (alike : Option String) (hints : List String)
  /-- required values that were not given -/
  | missingValues (placeholders : List String)
  /-- an option without its value -/
  | emptyValue (arg : String)
  /-- a value that does not read -/
  | invalidValue (value arg reason : String)
  /-- an argument given twice -/
  | repeated (arg : String)
  /-- a value attached to a flag -/
  | extraValue (value arg : String)
  /-- `--` before a subcommand -/
  | needlessEscape (sub : String)

namespace UsageFault

/-- Quote a list of names. -/
def quoted (xs : List String) : String := ", ".intercalate (xs.map fun x => "'" ++ x ++ "'")

/-- The first line of the message. -/
def message : UsageFault → String
  | .unknownSubcommand w _ => "unrecognized subcommand '" ++ w ++ "'"
  | .missingSubcommand c names =>
    "'" ++ c ++ "' requires a subcommand but one was not provided" ++
      (if names.isEmpty then "" else "\n  [subcommands: " ++ ", ".intercalate names ++ "]")
  | .unexpected a _ _ => "unexpected argument '" ++ a ++ "' found"
  | .missingValues ps =>
    "the following required arguments were not provided:" ++ String.join (ps.map ("\n  " ++ ·))
  | .emptyValue a => "a value is required for '" ++ a ++ "' but none was supplied"
  | .invalidValue v a r => "invalid value '" ++ v ++ "' for '" ++ a ++ "': " ++ r
  | .repeated a => "the argument '" ++ a ++ "' cannot be used multiple times"
  | .extraValue v a => "unexpected value '" ++ v ++ "' for '" ++ a ++ "' found; no more were expected"
  | .needlessEscape s => "unexpected argument '" ++ s ++ "' found"

/-- The hints after the message. -/
def hints : UsageFault → List String
  | .unknownSubcommand _ [] => []
  | .unknownSubcommand _ [x] => ["a similar subcommand exists: '" ++ x ++ "'"]
  | .unknownSubcommand _ xs => ["some similar subcommands exist: " ++ quoted xs]
  | .unexpected _ alike hs =>
    (match alike with
      | some a => ["a similar argument exists: '" ++ a ++ "'"]
      | none => []) ++ hs
  | .needlessEscape s => ["subcommand '" ++ s ++ "' exists; to use it, remove the '--' before it"]
  | _ => []

end UsageFault

/-- A refused command line: the mistake and the usage line to show, if any. -/
structure UsageError where
  fault : UsageFault
  usage : Option String := none

/-- The text of a refusal. -/
def UsageError.render (e : UsageError) : String :=
  let hs := e.fault.hints
  "error: " ++ e.fault.message ++
    (if hs.isEmpty then "" else "\n\n" ++ "\n".intercalate (hs.map ("  tip: " ++ ·))) ++
    (match e.usage with
      | some u => "\n\nUsage: " ++ u
      | none => "") ++
    "\n\nFor more information, try '--help'.\n"

/-- Why reading stopped before the program ran. -/
inductive Stop where
  /-- help or version, printed on standard output -/
  | shown (text : String)
  /-- the help page, printed as an error -/
  | helpInstead (text : String)
  /-- a mistake -/
  | refused (e : UsageError)

namespace Stop

/-- The exit code: success for help and version, the usage code otherwise. -/
def exitCode : Stop → Nat
  | .shown _ => 0
  | _ => 2

theorem exitCode_shown (t : String) : (Stop.shown t).exitCode = 0 := rfl

/-- The text printed. -/
def text : Stop → String
  | .shown t | .helpInstead t => t
  | .refused e => e.render

/-- The text goes to standard output. -/
def toStdout : Stop → Bool
  | .shown _ => true
  | _ => false

end Stop

/-- Refuse with a mistake and a usage line. -/
def refuse {α : Type} (f : UsageFault) (usage : Option String) : Except Stop α :=
  .error (.refused { fault := f, usage })

/-- Where the reading of one command stands. -/
structure Scan where
  values : List (String × ArgValue) := []
  given : List String := []
  /-- the argument whose values are gathered and not yet read -/
  pending : Option (ArgSpec × List String) := none
  /-- the next word is the pending option's value -/
  awaiting : Bool := false
  /-- the number of values by position taken -/
  position : Nat := 0
  /-- every later word is a value -/
  trailing : Bool := false

namespace Level

/-- The usage line for a mistake, naming the arguments given so far. -/
def usageFor (l : Level) (used : List String) : String :=
  if used.isEmpty then l.usage else l.usageWith used

/-- Read the text of a value. -/
def readValue (a : ArgSpec) (raw : String) : Except Stop ArgValue :=
  let kind := match a.role with
    | .option _ k | .positional _ k _ => k
    | _ => .text
  match kind with
  | .text => .ok (.text raw)
  | .path => if raw.isEmpty then refuse (.emptyValue a.display) none else .ok (.text raw)
  | .int64 =>
    match Text.readSigned 64 raw with
    | .ok i => .ok (.int i)
    | .error f => refuse (.invalidValue raw a.display f.message) none
  | .float =>
    if raw.isEmpty then refuse (.invalidValue raw a.display "cannot parse float from empty string") none
    else match Decimal.read raw with
      | some x => .ok (.float x)
      | none => refuse (.invalidValue raw a.display "invalid float literal") none

/-- Take the values of an argument: help and version stop the reading; an
argument given twice is refused; values are read. -/
def settle (l : Level) (sc : Scan) (a : ArgSpec) (raw : List String) (viaLong : Bool) : Except Stop Scan := do
  if a.takesValue && raw.isEmpty then refuse (.emptyValue a.display) none
  match a.role with
  | .help => .error (.shown (l.helpPage viaLong))
  | .version => .error (.shown (l.usageName ++ " " ++ (l.spec.version.getD "") ++ "\n"))
  | .flag =>
    if sc.given.contains a.id then refuse (.repeated a.display) (some l.usage)
    pure { sc with values := sc.values ++ [(a.id, .present)], given := sc.given ++ [a.id] }
  | _ =>
    if sc.given.contains a.id then refuse (.repeated a.display) (some l.usage)
    let vs ← raw.mapM (readValue a)
    pure { sc with values := sc.values ++ vs.map (a.id, ·), given := sc.given ++ [a.id] }

/-- Read the values gathered for the pending argument. -/
def resolvePending (l : Level) (sc : Scan) : Except Stop Scan :=
  match sc.pending with
  | none => .ok sc
  | some (a, raw) => l.settle { sc with pending := none, awaiting := false } a raw true

/-- Take an argument with its values, after reading the pending one. -/
def react (l : Level) (sc : Scan) (a : ArgSpec) (raw : List String) (viaLong : Bool) : Except Stop Scan := do
  let sc ← l.resolvePending sc
  l.settle sc a raw viaLong

/-- Read the pending values, ignoring a mistake in them, as before reporting another. -/
def settleQuietly (l : Level) (sc : Scan) : Scan :=
  match l.resolvePending sc with
  | .ok sc' => sc'
  | .error _ => { sc with pending := none, awaiting := false }

/-- The hint for a word that could be meant as a value. -/
def valueHint (w : String) : String := "to pass '" ++ w ++ "' as a value, use '-- " ++ w ++ "'"

/-- The long argument alike to an unknown one: of this command, or else of
the subcommand named earliest in the rest of the line. -/
def alikeLong (l : Level) (name : String) (rest : List String) : Option (String × Option String) :=
  match (Text.alike name l.longs).getLast? with
  | some c => some (c, none)
  | none =>
    let found := l.subcommands.filterMap fun c =>
      match (Text.alike name (Level.make c "" l.globals).longs).getLast?, rest.idxOf? c.name with
      | some cand, some i => some (i, cand, c.name)
      | _, _ => none
    match found.foldl (fun best x => match best with
        | some b => if x.1 < b.1 then some x else some b
        | none => some x) none with
    | some (_, cand, sub) => some (cand, some sub)
    | none => none

/-- Read a long argument `--name` or `--name=value`. -/
def longArg (l : Level) (sc : Scan) (name : String) (attached : Option String) (rest : List String) :
    Except Stop Scan :=
  match l.byLong? name with
  | some a =>
    if a.takesValue then
      match attached with
      | some v => l.react sc a [v] true
      | none => do
        let sc ← l.resolvePending sc
        pure { sc with pending := some (a, []), awaiting := true }
    else match attached with
      | some v => refuse (.extraValue v a.display) (some (l.usageWith (sc.given ++ [a.id])))
      | none => l.react sc a [] true
  | none =>
    let sc := l.settleQuietly sc
    let alike := l.alikeLong name rest
    let hints := match alike with
      | some (c, some sub) => ["'" ++ sub ++ " --" ++ c ++ "' exists"]
      | _ => []
    let valueHints := if alike.isNone && !sc.trailing && !l.positionals.isEmpty then [valueHint ("--" ++ name)] else []
    let similar := match alike with
      | some (c, none) => some ("--" ++ c)
      | _ => none
    -- the usage line names the argument suggested, as if it had been given
    let suggested := match alike with
      | some (c, none) => ((l.byLong? c).map ArgSpec.id).filter (!sc.given.contains ·)
      | _ => none
    refuse (.unexpected ("--" ++ name) similar (valueHints ++ hints))
      (some (l.usageFor (sc.given ++ suggested.toList)))

/-- Read short flags `-abc`. -/
def shortArgs (l : Level) (sc : Scan) : List Char → Except Stop Scan
  | [] => .ok sc
  | c :: cs =>
    match l.byShort? c with
    | some a =>
      if a.takesValue then
        if cs.isEmpty then do
          let sc ← l.resolvePending sc
          pure { sc with pending := some (a, []), awaiting := true }
        else l.react sc a [String.ofList cs] false
      else do
        let sc ← l.react sc a [] false
        l.shortArgs sc cs
    | none =>
      let sc := l.settleQuietly sc
      let w := "-" ++ String.singleton c
      let hints := if !sc.trailing && !l.positionals.isEmpty then [valueHint w] else []
      refuse (.unexpected w none hints) (some l.usage)

/-- A word that fits nowhere. -/
def strayWord {α : Type} (l : Level) (sc : Scan) (w : String) : Except Stop α :=
  if sc.trailing && l.subcommandNames.contains w then refuse (.needlessEscape w) (some l.usage)
  else if !l.subcommands.isEmpty then
    refuse (.unknownSubcommand w (Text.alike w l.subcommandNames)) (some l.usage)
  else refuse (.unexpected w none []) (some l.usage)

/-- Take the next value by position. -/
def positional (l : Level) (sc : Scan) (w : String) : Except Stop Scan := do
  match l.positionals[sc.position]? with
  | some a =>
    let sc ← l.resolvePending sc
    pure { sc with pending := some (a, [w]), position := sc.position + 1 }
  | none => l.strayWord (l.settleQuietly sc) w

/-- Fill the arguments not given from their defaults. -/
def withDefaults (l : Level) (sc : Scan) : Except Stop Scan :=
  l.args.foldlM (fun (sc : Scan) a =>
    match a.default with
    | some d =>
      if sc.values.any (·.1 == a.id) then .ok sc
      else do
        let v ← readValue a d
        pure { sc with values := sc.values ++ [(a.id, v)] }
    | none => .ok sc) sc

/-- Finish a command: read what is pending, fill defaults, and check that a
needed subcommand and the required values are there. -/
def finish (l : Level) (sc : Scan) (sub : Option (String × Matches)) : Except Stop Matches := do
  let sc ← l.resolvePending sc
  let sc ← l.withDefaults sc
  if sub.isNone && l.spec.subcommandRequired then
    if sc.given.isEmpty then .error (.helpInstead (l.helpPage false))
    refuse (.missingSubcommand l.usageName l.subcommandNames) (some l.usage)
  let missing := l.positionals.filter fun p => p.isRequired && !sc.given.contains p.id
  if !missing.isEmpty then
    refuse (.missingValues (missing.map (·.display))) (some (l.usageWith (sc.given ++ missing.map (·.id))))
  pure { values := sc.values, given := sc.given, sub }

/-- The help page named by the words after `help`. -/
def helpFor (l : Level) : List String → Except Stop Matches
  | [] => .error (.shown (l.helpPage true))
  | w :: rest =>
    match l.child? w with
    | some c => c.helpFor rest
    | none => refuse (.unknownSubcommand w []) (some l.usage)
termination_by ws => ws.length

/-- The first `=` splits a long argument into its name and attached value. -/
def splitLong (body : String) : String × Option String :=
  match Text.splitOnce body '=' with
  | some (n, v) => (n, some v)
  | none => (body, none)

/-- Read the words of a command line for a command. -/
def read (l : Level) (sc : Scan) : List String → Except Stop Matches
  | [] => l.finish sc none
  | w :: rest =>
    if !sc.trailing && l.subcommandNames.contains w then
      if w == "help" then l.helpFor rest
      else match l.child? w with
        | some c => do
          let m ← c.read {} rest
          l.finish sc (some (w, m))
        | none => l.finish sc none
    else if !sc.trailing && w == "--" then l.read { sc with trailing := true } rest
    else if !sc.trailing && Text.startsWith w "--" then
      let (name, attached) := splitLong (String.ofList (w.toList.drop 2))
      match l.longArg sc name attached rest with
      | .ok sc => l.read sc rest
      | .error e => .error e
    else if !sc.trailing && Text.startsWith w "-" && w.length > 1 then
      match l.shortArgs sc (w.toList.drop 1) with
      | .ok sc => l.read sc rest
      | .error e => .error e
    else if sc.awaiting then
      match sc.pending with
      | some (a, raw) => l.read { sc with pending := some (a, raw ++ [w]), awaiting := false } rest
      | none => l.read { sc with awaiting := false } rest
    else
      match l.positional sc w with
      | .ok sc => l.read sc rest
      | .error e => .error e
termination_by ws => ws.length

theorem read_nil_help (l : Level) (h : l.spec.subcommandRequired = true)
    (hd : l.args.all (·.default.isNone) = true) :
    l.read {} [] = .error (.helpInstead (l.helpPage false)) := by
  have hdef : l.withDefaults {} = .ok {} := by
    simp only [withDefaults]
    generalize l.args = as at hd
    induction as with
    | nil => rfl
    | cons a rest ih =>
      simp only [List.all_cons, Bool.and_eq_true] at hd
      simp only [List.foldlM_cons]
      have ha : a.default = none := by simpa using hd.1
      simp only [ha]
      exact ih hd.2
  simp [read, finish, resolvePending, hdef, h, bind, Except.bind]

end Level

/-- The values of a command line, following the subcommands: the names of
the subcommands and every value, a value given further down replacing one
given above. -/
def Matches.flatten : Matches → List String × List (String × ArgValue)
  | { values, sub := none, .. } => ([], values)
  | { values, sub := some (n, m), .. } =>
    let (names, below) := m.flatten
    (n :: names, below ++ values.filter fun (k, _) => !below.any (·.1 == k))

end EpicFlow.Cli
