import EpicFlow.Cli.Grammar
import EpicFlow.Text.Blank

/-!
# Usage lines and help pages

The usage line of a command names the command, `[OPTIONS]` when it takes an
option besides help and version, its values by position (`<NAME>` when
required, `[NAME]` otherwise) and `<COMMAND>` when a subcommand must follow.
A usage line for an error names only what the error is about: the options
used, then the required and used values by position in their order.

A help page has the command's description, its usage line, and sections for
its subcommands, its values by position and its options. In the summary
each entry takes one line, descriptions aligned two columns after the
longest entry. The long page, which a command has when it has a longer
description, puts each description on the line below its entry, indented,
with a blank line between entries. Defaults are noted after descriptions.

Main statements:

* `spaces_length`: padding has the width asked for.
-/

set_option autoImplicit false

namespace EpicFlow.Cli

/-- A run of blanks. -/
def spaces (n : Nat) : String := String.ofList (List.replicate n ' ')

theorem spaces_length (n : Nat) : (spaces n).length = n := by
  simp [spaces]

/-- The widest of some texts, and at least two. -/
def widest (xs : List String) : Nat := xs.foldl (fun m x => max m x.length) 2

/-- Keep the first of equal texts. -/
def distinct (xs : List String) : List String :=
  xs.foldl (fun acc x => if acc.contains x then acc else acc ++ [x]) []

namespace ArgSpec

/-- The note on an argument's default value; a default with blanks is quoted. -/
def defaultNote (a : ArgSpec) : String :=
  match a.default with
  | some d => "[default: " ++ (if d.toList.any Text.isBlank then Text.debugQuote d else d) ++ "]"
  | none => ""

/-- The description of an argument on a help page, with its default. -/
def describe (a : ArgSpec) (long : Bool) : String :=
  let about := if long then a.longHelp.getD a.help else if a.help.isEmpty then a.longHelp.getD "" else a.help
  let note := a.defaultNote
  if note.isEmpty then about
  else if about.isEmpty then note
  else about ++ (if long then "\n\n" else " ") ++ note

/-- The names of an argument as its help entry starts: `-h, --help`, or
`    --name` without a short name. -/
def entryNames (a : ArgSpec) : String :=
  let short := match a.short with
    | some s => "-" ++ String.singleton s ++ (if a.long.isSome then ", " else "")
    | none => if a.long.isSome then "    " else ""
  short ++ ((a.long.map ("--" ++ ·)).getD "") ++ a.suffix

end ArgSpec

namespace Level

/-- The command takes an option besides help and version. -/
def takesOptions (l : Level) : Bool :=
  l.named.any fun a => match a.role with
    | .help | .version => false
    | _ => true

/-- The usage line of the command. -/
def usage (l : Level) : String :=
  let opts := if l.takesOptions then " [OPTIONS]" else ""
  let pos := l.positionals.map fun a => " " ++ a.placeholderText a.isRequired
  let sub := if l.subcommands.isEmpty then ""
    else if l.spec.subcommandRequired then " <COMMAND>" else " [COMMAND]"
  l.usageName ++ opts ++ String.join pos ++ sub

/-- The usage line naming the required values and the given arguments: the
options in the order given, then the values by position in their order. -/
def usageWith (l : Level) (used : List String) : String :=
  let ids := (l.positionals.filter (·.isRequired)).map (·.id) ++ used
  let opts := distinct ((ids.filterMap l.find?).filter (!·.isPositional) |>.map (·.display))
  let pos := l.positionals.filter fun p => ids.contains p.id
  let sub := if l.spec.subcommandRequired then [("<COMMAND>")] else []
  " ".intercalate (l.usageName :: opts ++ pos.map (fun p => p.placeholderText p.isRequired) ++ sub)

/-- The subcommand section of a help page. -/
def commandSection (l : Level) : String :=
  let subs := l.subcommands
  let w := widest (subs.map (·.name))
  "Commands:\n" ++ "\n".intercalate (subs.map fun c => "  " ++ c.name ++ spaces (w + 2 - c.name.length) ++ c.about)

/-- The entries of some arguments: aligned one-line entries, or in the long
page descriptions below their entries. -/
def entries (args : List ArgSpec) (long : Bool) : String :=
  let w := widest (args.map (·.display))
  let entry := fun (a : ArgSpec) =>
    let names := "  " ++ a.entryNames
    if long then
      names ++ "\n" ++ spaces 10 ++ Text.replaceAll (a.describe true) "\n" ("\n" ++ spaces 10)
    else
      let pad := w + (if a.isPositional || a.long.isSome then 2 else 6) - a.display.length
      names ++ spaces pad ++ a.describe false
  (if long then "\n\n" else "\n").intercalate (args.map entry)

/-- The help page of the command; `long` asks for the long page, which only
a command with a longer description has. -/
def helpPage (l : Level) (long : Bool) : String :=
  let long := long && l.longHelpExists
  let about := if long then l.spec.longAbout.getD l.spec.about else l.spec.about
  let opts := l.named.mergeSort fun a b => a.sortKey.1 < b.sortKey.1 ||
    (a.sortKey.1 == b.sortKey.1 && decide (a.sortKey.2 ≤ b.sortKey.2))
  let sections :=
    (if l.subcommands.isEmpty then [] else [l.commandSection]) ++
    (if l.positionals.isEmpty then [] else ["Arguments:\n" ++ entries l.positionals long]) ++
    (if opts.isEmpty then [] else ["Options:\n" ++ entries opts long])
  let head := (if about.isEmpty then "" else about ++ "\n\n") ++ "Usage: " ++ l.usage
  let body := if sections.isEmpty then head else head ++ "\n\n" ++ "\n\n".intercalate sections
  Text.trimEnd body ++ "\n"

end Level

end EpicFlow.Cli
