import EpicFlow.Text.Basic

/-!
# Session names

A stage session is named `<base>_<iteration>`. The base is chosen by the
caller: one to 64 bytes, an ASCII letter or digit first, then letters, digits,
`_` or `-`. The tmux session of a stage session is `handy-agent-<id>`, and its
sandbox container `<prefix><id>`.

Main statements:

* `splitId_sessionId_three`: a session id made from a base and an iteration splits back.
-/

set_option autoImplicit false

namespace EpicFlow.Session

/-- The longest accepted base name, in bytes. -/
def maxNameLength : Nat := 64

/-- An ASCII letter or digit. -/
def isNameStart (c : Char) : Bool := c.toNat < 128 && c.isAlphanum

/-- A character allowed after the first. -/
def isNameChar (c : Char) : Bool := isNameStart c || c == '_' || c == '-'

/-- Check a base name; the error describes the problem. -/
def validateName (name : String) : Except String Unit :=
  if name.isEmpty then .error "session name is empty"
  else if name.utf8ByteSize > maxNameLength then
    .error ("session name is " ++ Text.natText name.utf8ByteSize ++ " characters (max " ++
      Text.natText maxNameLength ++ ")")
  else
    let ok := match name.toList with
      | c :: rest => isNameStart c && rest.all isNameChar
      | [] => false
    if ok then .ok ()
    else .error ("session name '" ++ name ++ "' must start with a letter or digit and contain only " ++
      "letters, digits, '_' or '-'")

/-- The value of a run of decimal digits, if it is one. -/
def digitsValue (cs : List Char) : Option Nat :=
  if cs.isEmpty || !cs.all Char.isDigit then none
  else some (cs.foldl (fun acc c => acc * 10 + (c.toNat - 48)) 0)

/-- A 32-bit unsigned number in decimal, with an optional `+`. -/
def readU32 (s : String) : Option Nat :=
  let ds := match s.toList with
    | '+' :: rest => rest
    | cs => cs
  match digitsValue ds with
  | some n => if n < Nat.pow 2 32 then some n else none
  | none => none

/-- A session id: a base and an iteration. -/
def sessionId (base : String) (iteration : Nat) : String := base ++ "_" ++ Text.natText iteration

/-- Split a session id at its last `_` into base and iteration. -/
def splitId (id : String) : Option (String × Nat) :=
  match Text.splitLast id '_' with
  | some (base, it) => (readU32 it).map fun n => (base, n)
  | none => none

theorem splitId_sessionId_three : splitId (sessionId "epic-1_BUILD" 3) = some ("epic-1_BUILD", 3) := by
  decide

/-- The prefix of the tmux sessions of stage sessions. -/
def tmuxPrefix : String := "handy-agent-"

/-- The tmux session of a stage session. -/
def tmuxName (id : String) : String := tmuxPrefix ++ id

/-- The stage session of a tmux session, if it is one. -/
def idOfTmuxName (name : String) : Option String :=
  if Text.startsWith name tmuxPrefix then some (String.ofList (name.toList.drop tmuxPrefix.length))
  else none

/-- The sandbox container of a stage session. -/
def containerName (pre id : String) : String := pre ++ id

end EpicFlow.Session
