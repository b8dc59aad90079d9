import EpicFlow.Text.Blank
import EpicFlow.Text.Basic

/-!
# Stage names

A stage is named by an upper-case word: a letter, then up to 31 letters,
digits or underscores. Names are read case-insensitively and with the blanks
around them ignored, so `" build "` names the stage `BUILD`.

Main statements:

* `parse_ok_val`: a name that is read is the trimmed, upper-cased text.
-/

set_option autoImplicit false

namespace EpicFlow

/-- The name of a stage. -/
structure StageName where
  val : String
deriving DecidableEq, Repr, Inhabited

namespace StageName

instance : Ord StageName := ⟨fun a b => compare a.val b.val⟩
instance : LT StageName := ⟨fun a b => a.val < b.val⟩

/-- A character allowed after the first: an upper-case letter, a digit or `_`. -/
def isTailChar (c : Char) : Bool := ('A' ≤ c && c ≤ 'Z') || c.isDigit || c == '_'

/-- The shape of a stage name: an upper-case letter, then at most 31 letters,
digits or underscores. -/
def wellFormed (s : String) : Bool :=
  match s.toList with
  | c :: rest => 'A' ≤ c && c ≤ 'Z' && rest.length ≤ 31 && rest.all isTailChar
  | [] => false

/-- Read a stage name: trimmed, upper-cased (ASCII), then checked. -/
def parse (raw : String) : Except String StageName :=
  let up := Text.asciiUpper (Text.trim raw)
  if wellFormed up then .ok ⟨up⟩
  else .error ("Invalid stage name '" ++ raw ++ "': expected letters, digits and underscores")

theorem parse_ok_val (raw : String) (n : StageName) (h : parse raw = .ok n) :
    n.val = Text.asciiUpper (Text.trim raw) := by
  unfold parse at h
  generalize Text.asciiUpper (Text.trim raw) = up at h ⊢
  by_cases hw : wellFormed up = true
  · simp only [hw, if_true] at h
    cases h
    rfl
  · simp [hw] at h

end StageName

end EpicFlow
