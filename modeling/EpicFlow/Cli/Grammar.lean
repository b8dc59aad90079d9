import EpicFlow.Text.Basic

/-!
# Command-line grammars

A command-line program is a tree of commands. Each command has a one-line
description (and possibly a longer one), the arguments it takes and the
subcommands below it. An argument is a flag (`--json`), an option with a
value (`--scope BUILD`), or a value given by position; help and version are
flags of their own. An argument marked global is taken by every command
below the one that declares it.

A command as the parser sees it is a `Level`: the command with the name that
usage lines give it (the program and the subcommands leading to it) and every
argument it takes, in this order: its own, those it inherits, the help flag,
and the version flag when it has a version. Options are listed in help pages
by the order of their declaration within the command that declares them.

Commands with subcommands also take the subcommand `help`, which prints the
help page of the command it names.

Main statements:

* `withOrder_length`: numbering the options of a command keeps its arguments.
-/

set_option autoImplicit false

namespace EpicFlow.Cli

/-- How the text of a value is read. -/
inductive ValueKind where
  /-- any text -/
  | text
  /-- a signed 64-bit integer -/
  | int64
  /-- a double-precision number -/
  | float
  /-- a file path, which cannot be empty -/
  | path
deriving DecidableEq

/-- What an argument is. -/
inductive ArgRole where
  /-- present or absent -/
  | flag
  /-- a value after the argument's name -/
  | option (placeholder : String) (kind : ValueKind)
  /-- a value given by its position -/
  | positional (placeholder : String) (kind : ValueKind) (required : Bool)
  /-- asks for the help page -/
  | help
  /-- asks for the version -/
  | version

/-- An argument of a command. -/
structure ArgSpec where
  id : String
  role : ArgRole
  long : Option String := none
  short : Option Char := none
  help : String := ""
  longHelp : Option String := none
  /-- the text of the value when none is given -/
  default : Option String := none
  /-- taken by every command below the declaring one -/
  global : Bool := false
  /-- the value may be given more than once, as more values -/
  many : Bool := false
  /-- where the argument stands in help pages; arguments without a place come last -/
  order : Option Nat := none

namespace ArgSpec

/-- A value given by position. -/
def isPositional (a : ArgSpec) : Bool :=
  match a.role with
  | .positional .. => true
  | _ => false

/-- A value given by position that must be given. -/
def isRequired (a : ArgSpec) : Bool :=
  match a.role with
  | .positional _ _ r => r
  | _ => false

/-- The argument is followed by a value. -/
def takesValue (a : ArgSpec) : Bool :=
  match a.role with
  | .option .. | .positional .. => true
  | _ => false

/-- How a value by position is shown: `<NAME>` when required, `[NAME]`
otherwise, `...` after it when it may repeat. -/
def placeholderText (a : ArgSpec) (required : Bool) : String :=
  match a.role with
  | .positional p _ _ =>
    (if required then "<" ++ p ++ ">" else "[" ++ p ++ "]") ++ (if a.many then "..." else "")
  | .option p _ => "<" ++ p ++ ">"
  | _ => ""

/-- What follows the argument's name: its value placeholder, if any. -/
def suffix (a : ArgSpec) : String :=
  match a.role with
  | .option p _ => " <" ++ p ++ ">"
  | .positional .. => a.placeholderText a.isRequired
  | _ => ""

/-- How the argument is named in messages: `--name <VALUE>`, `--flag`, `<NAME>`. -/
def display (a : ArgSpec) : String :=
  let name := match a.long, a.short with
    | some l, _ => "--" ++ l
    | none, some s => "-" ++ String.singleton s
    | none, none => ""
  name ++ a.suffix

/-- The key that orders options in help pages: short names first, by letter
(lower case before upper case), then long names. -/
def sortKey (a : ArgSpec) : Nat × String :=
  let k := match a.short, a.long with
    | some c, _ => String.singleton c.toLower ++ (if c.isLower then "0" else "1")
    | none, some l => l
    | none, none => "\x7b" ++ a.id
  (a.order.getD 999, k)

end ArgSpec

/-- A command: what it does, its arguments and its subcommands. -/
structure CommandSpec where
  name : String
  about : String
  longAbout : Option String := none
  version : Option String := none
  args : List ArgSpec := []
  subcommands : List CommandSpec := []
  /-- a subcommand must follow; given no arguments at all, the command shows its help instead -/
  subcommandRequired : Bool := false
  /-- takes neither the global arguments nor a help flag -/
  bare : Bool := false

/-- Number the options of a command in the order they are declared. -/
def withOrder : Nat → List ArgSpec → List ArgSpec
  | _, [] => []
  | n, a :: rest =>
    if a.isPositional then a :: withOrder n rest
    else { a with order := some (a.order.getD n) } :: withOrder (n + 1) rest

theorem withOrder_length (n : Nat) (as : List ArgSpec) : (withOrder n as).length = as.length := by
  induction as generalizing n with
  | nil => rfl
  | cons a rest ih =>
    simp only [withOrder]
    split <;> simp [ih]

/-- The help flag; with a longer help page, the short and long pages point to each other. -/
def helpArg (longExists : Bool) : ArgSpec :=
  { id := "help", role := .help, long := some "help", short := some 'h'
    help := if longExists then "Print help (see more with '--help')" else "Print help"
    longHelp := if longExists then some "Print help (see a summary with '-h')" else none }

/-- The version flag. -/
def versionArg : ArgSpec :=
  { id := "version", role := .version, long := some "version", short := some 'V', help := "Print version" }

/-- The subcommand that prints the help page of the command it names. -/
def helpCommand : CommandSpec :=
  { name := "help", about := "Print this message or the help of the given subcommand(s)", bare := true
    args := [{ id := "subcommand", role := .positional "COMMAND" .text false, many := true
               help := "Print help for the subcommand(s)" }] }

/-- A command as the parser sees it. -/
structure Level where
  spec : CommandSpec
  /-- the program and the subcommands leading to this command -/
  usageName : String
  /-- every argument the command takes -/
  args : List ArgSpec
  /-- the global arguments the command passes on -/
  globals : List ArgSpec

namespace Level

/-- A command with the global arguments it inherits. -/
def make (c : CommandSpec) (usageName : String) (inherited : List ArgSpec) : Level :=
  if c.bare then
    { spec := c, usageName, args := c.args, globals := [] }
  else
    let own := withOrder 0 c.args
    let taken := own ++ inherited.filter fun g => !own.any (·.id == g.id)
    let longExists := c.longAbout.isSome || taken.any (·.longHelp.isSome)
    { spec := c, usageName
      args := taken ++ [helpArg longExists] ++ (if c.version.isSome then [versionArg] else [])
      globals := taken.filter (·.global) }

/-- The program's top command. -/
def root (c : CommandSpec) : Level := make c c.name []

/-- The subcommands, with `help` last when there are any. -/
def subcommands (l : Level) : List CommandSpec :=
  if l.spec.subcommands.isEmpty then [] else l.spec.subcommands ++ [helpCommand]

/-- The names of the subcommands. -/
def subcommandNames (l : Level) : List String := l.subcommands.map (·.name)

/-- A subcommand by name. -/
def child? (l : Level) (name : String) : Option Level :=
  (l.subcommands.find? (·.name == name)).map fun c => make c (l.usageName ++ " " ++ c.name) l.globals

/-- The values given by position, in order. -/
def positionals (l : Level) : List ArgSpec := l.args.filter (·.isPositional)

/-- The arguments with names. -/
def named (l : Level) : List ArgSpec := l.args.filter (!·.isPositional)

/-- An argument by id. -/
def find? (l : Level) (id : String) : Option ArgSpec := l.args.find? (·.id == id)

/-- An argument by long name. -/
def byLong? (l : Level) (name : String) : Option ArgSpec := l.args.find? (·.long == some name)

/-- An argument by short name. -/
def byShort? (l : Level) (c : Char) : Option ArgSpec := l.args.find? (·.short == some c)

/-- The long names, in order. -/
def longs (l : Level) : List String := l.args.filterMap (·.long)

/-- The help page is longer than the summary. -/
def longHelpExists (l : Level) : Bool :=
  l.spec.longAbout.isSome || l.args.any fun a => a.longHelp.isSome && a.id != "help"

end Level

end EpicFlow.Cli
