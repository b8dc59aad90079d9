import EpicFlow.Text.Basic

/-!
# Shell quoting

A value is passed to a POSIX shell inside single quotes; a single quote in it
closes the quotes, is written escaped, and opens them again.

A command line is read back into words the way the shell reads it: blanks
outside quotes separate words, single quotes keep everything up to the next
one, double quotes keep everything but a backslash before one of the four
characters it escapes there, and a backslash outside quotes keeps the next
character.

Main statements:

* `quote_plain`: a value without single quotes is only wrapped.
* `words_plain`: a word without blanks or quoting reads as itself.
-/

set_option autoImplicit false

namespace EpicFlow.Shell

/-- Quote a value for a POSIX shell. -/
def quote (v : String) : String := "'" ++ Text.replaceAll v "'" "'\\''" ++ "'"

theorem quote_plain (v : String) (h : '\'' ∉ v.toList) : quote v = "'" ++ v ++ "'" := by
  unfold quote Text.replaceAll
  rw [show "'".toList = ['\''] from rfl, Text.replaceList_absent '\'' [] _ _ h, String.ofList_toList]

/-- Where a reader of a command line stands. -/
inductive Quoting where
  | bare
  | single
  | double
deriving DecidableEq

/-- A blank that separates words. -/
def isSeparator (c : Char) : Bool := c == ' ' || c == '\t' || c == '\n'

/-- A character a backslash escapes inside double quotes. -/
def escapesInDouble (c : Char) : Bool := c == '"' || c == '\\' || c == '$' || c.toNat == 96

/-- Read words: the quoting, whether a word is open, the open word's
characters in reverse, and the characters left. -/
def splitWords : Quoting → Bool → List Char → List Char → List String
  | _, o, cur, [] => if o then [String.ofList cur.reverse] else []
  | .bare, o, cur, c :: cs =>
    if isSeparator c then (if o then [String.ofList cur.reverse] else []) ++ splitWords .bare false [] cs
    else if c == '\'' then splitWords .single true cur cs
    else if c == '"' then splitWords .double true cur cs
    else if c == '\\' then
      match cs with
      | d :: rest => splitWords .bare true (d :: cur) rest
      | [] => splitWords .bare true cur []
    else splitWords .bare true (c :: cur) cs
  | .single, _, cur, c :: cs =>
    if c == '\'' then splitWords .bare true cur cs else splitWords .single true (c :: cur) cs
  | .double, _, cur, c :: cs =>
    if c == '"' then splitWords .bare true cur cs
    else if c == '\\' then
      match cs with
      | d :: rest =>
        if escapesInDouble d then splitWords .double true (d :: cur) rest
        else splitWords .double true (d :: c :: cur) rest
      | [] => splitWords .double true (c :: cur) []
    else splitWords .double true (c :: cur) cs

/-- The words of a command line. -/
def words (s : String) : List String := splitWords .bare false [] s.toList

/-- A character that stands for itself outside quotes. -/
def isPlain (c : Char) : Bool := !isSeparator c && c != '\'' && c != '"' && c != '\\'

theorem splitWords_plain (cur cs : List Char) (h : ∀ c ∈ cs, isPlain c = true) :
    splitWords .bare true cur cs = [String.ofList (cur.reverse ++ cs)] := by
  induction cs generalizing cur with
  | nil => simp [splitWords]
  | cons c cs ih =>
    have hc := h c (by simp)
    simp only [isPlain, Bool.and_eq_true, Bool.not_eq_eq_eq_not, Bool.not_true, bne_iff_ne, ne_eq] at hc
    obtain ⟨⟨⟨hs, hq⟩, hd⟩, hb⟩ := hc
    rw [splitWords.eq_def]
    simp only [hs, Bool.false_eq_true, ↓reduceIte, beq_iff_eq, hq, hd, hb]
    rw [ih (c :: cur) fun x hx => h x (List.mem_cons_of_mem c hx)]
    simp

theorem words_plain (s : String) (hne : s.toList ≠ []) (h : ∀ c ∈ s.toList, isPlain c = true) :
    words s = [s] := by
  obtain ⟨c, cs, hcs⟩ := List.exists_cons_of_ne_nil hne
  have hc := h c (by simp [hcs])
  simp only [isPlain, Bool.and_eq_true, Bool.not_eq_eq_eq_not, Bool.not_true, bne_iff_ne, ne_eq] at hc
  obtain ⟨⟨⟨hs, hq⟩, hd⟩, hb⟩ := hc
  unfold words
  rw [hcs]
  rw [splitWords.eq_def]
  simp only [hs, Bool.false_eq_true, ↓reduceIte, beq_iff_eq, hq, hd, hb]
  rw [splitWords_plain [c] cs fun x hx => h x (by rw [hcs]; exact List.mem_cons_of_mem c hx)]
  simp [← hcs]

end EpicFlow.Shell
