/-!
# Run status

A run is PENDING until its worker is invoked, RUNNING while it is watched,
and ends COMPLETED, FAILED, NEEDS_HUMAN or STUCK.

Main statement:

* `parse_name`: a status is read back from its name.
-/

set_option autoImplicit false

namespace EpicFlow

/-- The status of one run of a stage. -/
inductive RunStatus where
  | pending | running | completed | failed | needsHuman | stuck
deriving DecidableEq, Repr, Inhabited

namespace RunStatus

/-- The stored name. -/
def name : RunStatus → String
  | pending => "PENDING" | running => "RUNNING" | completed => "COMPLETED"
  | failed => "FAILED" | needsHuman => "NEEDS_HUMAN" | stuck => "STUCK"

/-- The run can no longer change status. -/
def isTerminal : RunStatus → Bool
  | completed | failed | needsHuman | stuck => true
  | _ => false

/-- Read a stored name; the match is exact. -/
def parse (s : String) : Except String RunStatus :=
  match [pending, running, completed, failed, needsHuman, stuck].find? (·.name == s) with
  | some st => .ok st
  | none => .error ("Unknown run status '" ++ s ++ "'")

theorem parse_name (s : RunStatus) : parse s.name = .ok s := by
  cases s <;> rfl

end RunStatus

end EpicFlow
