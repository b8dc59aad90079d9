import EpicFlow.Stage.Name

/-!
# Route targets

Where a routing decision sends an epic: another stage, an operator
(`HUMAN`), or one of the two ends (`COMPLETED`, `FAILED`). The three reserved
words can never be stage names.

Main statement:

* `parse_name`: the name of a target that is not a reserved word reads back.
-/

set_option autoImplicit false

namespace EpicFlow

/-- The destination of a routing decision. -/
inductive Target where
  | stage (s : StageName)
  | human
  | completed
  | failed
deriving DecidableEq, Repr, Inhabited

namespace Target

/-- The words that name the non-stage targets. -/
def reserved : List String := ["HUMAN", "COMPLETED", "FAILED"]

/-- The name of a target. -/
def name : Target → String
  | stage s => s.val
  | human => "HUMAN"
  | completed => "COMPLETED"
  | failed => "FAILED"

/-- The target is an operator. -/
def isHuman : Target → Bool
  | human => true
  | _ => false

/-- Read a target: trimmed and upper-cased, a reserved word or a stage name. -/
def parse (raw : String) : Except String Target :=
  let up := Text.asciiUpper (Text.trim raw)
  if up == "HUMAN" then .ok human
  else if up == "COMPLETED" then .ok completed
  else if up == "FAILED" then .ok failed
  else (StageName.parse up).map stage

end Target

end EpicFlow
