import EpicFlow.Text.Basic

/-!
# Paths

Paths are texts with `/` between components. Joining a relative path adds a
separator only when the base is non-empty and does not end with one; joining
an absolute path gives that path.

Main statement:

* `join_absolute`: an absolute path replaces the base.
-/

set_option autoImplicit false

namespace EpicFlow.Path

/-- Join a path to a base. -/
def join (base rel : String) : String :=
  if Text.startsWith rel "/" then rel
  else if base.isEmpty then rel
  else if Text.endsWith base "/" then base ++ rel
  else base ++ "/" ++ rel

theorem join_absolute (base rel : String) (h : Text.startsWith rel "/" = true) :
    join base rel = rel := by
  simp [join, h]

/-- The last component of a path, if any. -/
def fileName (p : String) : Option String :=
  match (Text.splitChar p '/').reverse.filter (· != "") with
  | last :: _ => if last == ".." then none else some last
  | [] => none

end EpicFlow.Path
