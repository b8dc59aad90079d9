/-!
# Why a decision went where it did

Every routing decision carries a rationale; every decision that hands an
epic to an operator carries one of the escalation rationales. Three of them
come from safety signals a worker declares and outrank a budget override.

Main statement:

* `parse_name`: a rationale is read back from its name.
-/

set_option autoImplicit false

namespace EpicFlow

/-- The reason carried by a routing decision. -/
inductive Rationale where
  | routed | override | resolution | stuck | budgetExceeded | attemptLimit | signalMissing
  | cardUnreachable | cardCorruption | invalidTransition | breakingChange | securityRisk
  | scopeViolation | workerFailed | spawnRejected | aborted | interrupted
deriving DecidableEq, Repr, Inhabited

namespace Rationale

/-- Every rationale, in declaration order. -/
def all : List Rationale :=
  [routed, override, resolution, stuck, budgetExceeded, attemptLimit, signalMissing,
    cardUnreachable, cardCorruption, invalidTransition, breakingChange, securityRisk,
    scopeViolation, workerFailed, spawnRejected, aborted, interrupted]

/-- The stored name. -/
def name : Rationale → String
  | routed => "Routed" | override => "Override" | resolution => "Resolution"
  | stuck => "Stuck" | budgetExceeded => "BudgetExceeded" | attemptLimit => "AttemptLimit"
  | signalMissing => "SignalMissing" | cardUnreachable => "CardUnreachable"
  | cardCorruption => "CardCorruption" | invalidTransition => "InvalidTransition"
  | breakingChange => "BreakingChange" | securityRisk => "SecurityRisk"
  | scopeViolation => "ScopeViolation" | workerFailed => "WorkerFailed"
  | spawnRejected => "SpawnRejected" | aborted => "Aborted" | interrupted => "Interrupted"

/-- Read a stored name; the match is exact. -/
def parse (s : String) : Option Rationale := all.find? (·.name == s)

/-- Declared by a worker through a safety signal. -/
def isSafety : Rationale → Bool
  | breakingChange | securityRisk | scopeViolation => true
  | _ => false

theorem parse_name (r : Rationale) : parse r.name = some r := by
  cases r <;> rfl

end Rationale

end EpicFlow
