import EpicFlow.Rationale
import EpicFlow.Text.Blank
import EpicFlow.Text.Basic

/-!
# Outcome signals

A worker declares what happened in its stage by outcome signals: upper-case
codes such as `ALL_TESTS_PASS`. Seven codes are known to the engine; any
other well-formed code is kept as a custom signal, so that a stage table can
route on it. Three signals are safety signals that always stop the epic.

Main statements:

* `parse_code`: the code of a parsed signal is the trimmed, upper-cased text.
* `safety_iff`: a signal has a safety rationale exactly when it is a safety signal.
-/

set_option autoImplicit false

namespace EpicFlow

/-- A declared outcome of a stage. -/
inductive Signal where
  | breakingChange | securityRisk | scopeViolation | testsFailed | allTestsPass
  | designComplete | polishComplete
  | custom (code : String)
deriving DecidableEq, Repr, Inhabited

namespace Signal

/-- The code of a signal. -/
def code : Signal → String
  | breakingChange => "BREAKING_CHANGE"
  | securityRisk => "SECURITY_RISK"
  | scopeViolation => "SCOPE_VIOLATION"
  | testsFailed => "TESTS_FAILED"
  | allTestsPass => "ALL_TESTS_PASS"
  | designComplete => "DESIGN_COMPLETE"
  | polishComplete => "POLISH_COMPLETE"
  | custom c => c

/-- The safety signals, in the order the router checks them. -/
def safetyOrder : List Signal := [breakingChange, securityRisk, scopeViolation]

/-- The signal always escalates. -/
def isSafety : Signal → Bool
  | breakingChange | securityRisk | scopeViolation => true
  | _ => false

/-- The rationale of a safety signal. -/
def safetyRationale : Signal → Option Rationale
  | breakingChange => some .breakingChange
  | securityRisk => some .securityRisk
  | scopeViolation => some .scopeViolation
  | _ => none

/-- A character allowed in a code. -/
def isCodeChar (c : Char) : Bool := ('A' ≤ c && c ≤ 'Z') || c.isDigit || c == '_'

/-- The signal of a well-formed code. -/
def ofCode (c : String) : Signal :=
  if c == "BREAKING_CHANGE" then breakingChange
  else if c == "SECURITY_RISK" then securityRisk
  else if c == "SCOPE_VIOLATION" then scopeViolation
  else if c == "TESTS_FAILED" then testsFailed
  else if c == "ALL_TESTS_PASS" then allTestsPass
  else if c == "DESIGN_COMPLETE" then designComplete
  else if c == "POLISH_COMPLETE" then polishComplete
  else custom c

/-- Read a signal: trimmed and upper-cased (ASCII), then checked. -/
def parse (raw : String) : Except String Signal :=
  let c := Text.asciiUpper (Text.trim raw)
  if c.isEmpty then .error "Outcome signal cannot be empty"
  else if !(c.toList.all isCodeChar) then .error ("Invalid outcome signal '" ++ raw ++ "'")
  else .ok (ofCode c)

theorem code_ofCode (c : String) : (ofCode c).code = c := by
  unfold ofCode
  repeat' (split; · rename_i h; exact (beq_iff_eq.mp h).symm)
  rfl

theorem parse_code (raw : String) (s : Signal) (h : parse raw = .ok s) :
    s.code = Text.asciiUpper (Text.trim raw) := by
  unfold parse at h
  generalize Text.asciiUpper (Text.trim raw) = c at h ⊢
  by_cases h1 : c.isEmpty = true
  · simp [h1] at h
  · by_cases h2 : (c.toList.all isCodeChar) = true
    · simp only [h1, h2, Bool.false_eq_true, if_false, Bool.not_true] at h
      cases h
      exact code_ofCode _
    · simp [h1, h2] at h

theorem safety_iff (s : Signal) : s.safetyRationale.isSome = s.isSafety := by
  cases s <;> rfl

end Signal

end EpicFlow
