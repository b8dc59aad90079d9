/-!
# Blank characters and trimming

The engine trims operator and worker text (objectives, requirement texts, card
timestamps, stage names) with the Unicode notion of white space: the
characters that carry the `White_Space` property. ASCII blanks alone are not
enough, since a card written by an agent may hold a no-break space or an
ideographic space.

Main statements:

* `isBlank_of_isWhitespace`: every ASCII blank of core is blank here too.
* `trimStart_head`: what `trimStart` keeps does not start with a blank.
-/

set_option autoImplicit false

namespace EpicFlow.Text

/-- The characters with the Unicode `White_Space` property. -/
def isBlank (c : Char) : Bool :=
  let n := c.toNat
  (0x09 ≤ n && n ≤ 0x0D) || n == 0x20 || n == 0x85 || n == 0xA0 || n == 0x1680 ||
    (0x2000 ≤ n && n ≤ 0x200A) || n == 0x2028 || n == 0x2029 || n == 0x202F ||
    n == 0x205F || n == 0x3000

/-- Drop leading blanks. -/
def dropBlanks : List Char → List Char
  | [] => []
  | c :: cs => if isBlank c then dropBlanks cs else c :: cs

/-- Text without its leading blanks. -/
def trimStart (s : String) : String := String.ofList (dropBlanks s.toList)

/-- Text without its trailing blanks. -/
def trimEnd (s : String) : String := String.ofList (dropBlanks s.toList.reverse).reverse

/-- Text without leading and trailing blanks. -/
def trim (s : String) : String :=
  String.ofList (dropBlanks (dropBlanks s.toList).reverse).reverse

/-- Text that is empty once trimmed. -/
def isBlankText (s : String) : Bool := (dropBlanks s.toList).isEmpty

theorem isBlank_of_isWhitespace (c : Char) (h : c.isWhitespace = true) : isBlank c = true := by
  simp only [Char.isWhitespace, Bool.or_eq_true, decide_eq_true_eq] at h
  simp only [isBlank, Bool.or_eq_true, Bool.and_eq_true, beq_iff_eq, decide_eq_true_eq]
  rcases h with ((h | h) | h) | h <;> simp [h]

theorem dropBlanks_head (cs : List Char) (c : Char) (rest : List Char)
    (h : dropBlanks cs = c :: rest) : isBlank c = false := by
  induction cs with
  | nil => simp [dropBlanks] at h
  | cons d ds ih =>
    simp only [dropBlanks] at h
    split at h
    · exact ih h
    · rename_i hd
      simp only [List.cons.injEq] at h
      rw [← h.1]
      simpa using hd

theorem trimStart_head (s : String) (c : Char) (rest : List Char)
    (h : (trimStart s).toList = c :: rest) : isBlank c = false := by
  simp only [trimStart, String.toList_ofList] at h
  exact dropBlanks_head _ c rest h

end EpicFlow.Text
