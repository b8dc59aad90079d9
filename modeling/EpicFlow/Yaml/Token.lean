import EpicFlow.Text.Basic

/-!
# YAML tokens

The scanner of the front-matter reader turns text into tokens, each with the
place where it starts. A place is a character index, a line (from one) and
a column (from zero); a problem is shown as
`<message> at byte <index> line <line> column <column + 1>`.

Main statement:

* `Problem.render_text`: how a problem is shown.
-/

set_option autoImplicit false

namespace EpicFlow.Yaml

/-- A place in the text. -/
structure Mark where
  index : Nat
  line : Nat
  col : Nat
deriving Inhabited, Repr, DecidableEq

/-- How a scalar was written. -/
inductive ScalarStyle where
  | plain | singleQuoted | doubleQuoted | literal | folded
deriving Inhabited, Repr, DecidableEq

/-- A token of the YAML syntax. -/
inductive TokenKind where
  | streamStart | streamEnd | documentStart | documentEnd
  | blockSequenceStart | blockMappingStart | blockEnd
  | flowSequenceStart | flowSequenceEnd | flowMappingStart | flowMappingEnd
  | blockEntry | flowEntry | key | value
  | alias (name : String) | anchor (name : String) | tag (handle suffix : String)
  | versionDirective (major minor : Nat) | tagDirective (handle pfx : String)
  | scalar (style : ScalarStyle) (text : String)
deriving Inhabited, Repr, DecidableEq

/-- A token and where it starts. -/
structure Token where
  mark : Mark
  kind : TokenKind
deriving Inhabited, Repr

/-- A problem found while reading YAML, and where. -/
structure Problem where
  mark : Mark
  msg : String
deriving Inhabited, Repr

/-- The text of a problem. -/
def Problem.render (p : Problem) : String :=
  p.msg ++ " at byte " ++ Text.natText p.mark.index ++ " line " ++ Text.natText p.mark.line ++
    " column " ++ Text.natText (p.mark.col + 1)

theorem Problem.render_text (m : Mark) (msg : String) :
    (Problem.render ⟨m, msg⟩) = msg ++ " at byte " ++ Text.natText m.index ++ " line " ++
      Text.natText m.line ++ " column " ++ Text.natText (m.col + 1) := rfl

end EpicFlow.Yaml
