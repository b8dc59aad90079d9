import EpicFlow.Text.Printable

/-!
# Plain text operations

Substring search and replacement, splitting, padding to a width and
hexadecimal digits, all over the characters of a string. Widths count
characters, as the engine's column layouts do.

Main statement:

* `replaceAll_nil_pattern`: an empty pattern leaves the text unchanged.
-/

set_option autoImplicit false

namespace EpicFlow.Text

/-- `pre` is a prefix of `s`. -/
def startsWith (s pre : String) : Bool := pre.toList.isPrefixOf s.toList

/-- `suf` is a suffix of `s`. -/
def endsWith (s suf : String) : Bool := suf.toList.isSuffixOf s.toList

/-- `pat` occurs in the characters. -/
def occursIn (pat : List Char) : List Char → Bool
  | [] => pat.isEmpty
  | c :: cs => pat.isPrefixOf (c :: cs) || occursIn pat cs

/-- `pat` occurs in `s`. -/
def contains (s pat : String) : Bool := occursIn pat.toList s.toList

/-- Replace every occurrence of `pat`, scanning left to right without overlap. -/
def replaceList (pat rep : List Char) : List Char → List Char
  | [] => []
  | c :: cs =>
    if pat ≠ [] ∧ pat.isPrefixOf (c :: cs) then
      rep ++ replaceList pat rep ((c :: cs).drop pat.length)
    else c :: replaceList pat rep cs
termination_by cs => cs.length
decreasing_by
  all_goals simp_wf
  all_goals
    rename_i h
    have : pat.length ≥ 1 := by
      cases pat with
      | nil => exact absurd rfl h.1
      | cons _ _ => simp
    omega

/-- Replace every occurrence of `pat` by `rep`. -/
def replaceAll (s pat rep : String) : String :=
  String.ofList (replaceList pat.toList rep.toList s.toList)

/-- The first pair whose non-empty pattern starts the text. -/
def firstMatch (pairs : List (List Char × List Char)) (cs : List Char) : Option (List Char × List Char) :=
  pairs.find? fun (pat, _) => pat ≠ [] ∧ pat.isPrefixOf cs

theorem firstMatch_ne_nil {pairs : List (List Char × List Char)} {cs : List Char}
    {m : List Char × List Char} (h : firstMatch pairs cs = some m) : m.1 ≠ [] := by
  unfold firstMatch at h
  have := List.find?_some h
  simp at this
  exact this.1

/-- Replace, in one left-to-right pass, each occurrence of a pattern by its
replacement; where several patterns start, the first listed wins, and a
replacement is never scanned again. -/
def replaceEachList (pairs : List (List Char × List Char)) : List Char → List Char
  | [] => []
  | c :: cs =>
    match h : firstMatch pairs (c :: cs) with
    | some m => m.2 ++ replaceEachList pairs ((c :: cs).drop m.1.length)
    | none => c :: replaceEachList pairs cs
termination_by cs => cs.length
decreasing_by
  all_goals simp_wf
  have := firstMatch_ne_nil h
  have : m.1.length ≥ 1 := by
    cases hm : m.1 with
    | nil => exact absurd hm this
    | cons _ _ => simp
  omega

/-- Replace each pattern by its replacement, in one pass. -/
def replaceEach (s : String) (pairs : List (String × String)) : String :=
  String.ofList (replaceEachList (pairs.map fun (p, r) => (p.toList, r.toList)) s.toList)

theorem replaceList_nil_pattern (rep cs : List Char) : replaceList [] rep cs = cs := by
  induction cs with
  | nil => simp [replaceList]
  | cons c cs ih => rw [replaceList]; simp [ih]

theorem replaceList_absent (p : Char) (ps rep cs : List Char) (h : p ∉ cs) :
    replaceList (p :: ps) rep cs = cs := by
  induction cs with
  | nil => simp [replaceList]
  | cons c cs ih =>
    rw [replaceList]
    have hc : c ≠ p := fun e => h (e ▸ List.mem_cons_self)
    have hp : ¬((p :: ps) ≠ [] ∧ (p :: ps).isPrefixOf (c :: cs) = true) := by
      simp [List.isPrefixOf, Ne.symm hc]
    rw [if_neg hp, ih (fun m => h (List.mem_cons_of_mem _ m))]

theorem replaceAll_nil_pattern (s rep : String) : replaceAll s "" rep = s := by
  simp [replaceAll, replaceList_nil_pattern]

/-- Split at every occurrence of a character. -/
def splitChar (s : String) (sep : Char) : List String :=
  (s.toList.splitOn sep).map String.ofList

/-- Split once at the first occurrence of a character. -/
def splitOnce (s : String) (sep : Char) : Option (String × String) :=
  match s.toList.span (· ≠ sep) with
  | (_, []) => none
  | (a, _ :: b) => some (String.ofList a, String.ofList b)

/-- Split once at the last occurrence of a character. -/
def splitLast (s : String) (sep : Char) : Option (String × String) :=
  match s.toList.reverse.span (· ≠ sep) with
  | (_, []) => none
  | (b, _ :: a) => some (String.ofList a.reverse, String.ofList b.reverse)

/-- Pad on the left with spaces to at least `width` characters. -/
def padLeft (s : String) (width : Nat) : String :=
  String.ofList (List.replicate (width - s.length) ' ') ++ s

/-- Pad on the right with spaces to at least `width` characters. -/
def padRight (s : String) (width : Nat) : String :=
  s ++ String.ofList (List.replicate (width - s.length) ' ')

/-- Lower-case hexadecimal digit of a value below sixteen. -/
def hexDigit (n : Nat) : Char :=
  if n < 10 then Char.ofNat (48 + n) else Char.ofNat (87 + n)

/-- The `width` lowest hexadecimal digits of `n`, most significant first. -/
def hexDigits (n width : Nat) : String :=
  String.ofList ((List.range width).reverse.map fun i => hexDigit (n / Nat.pow 16 i % 16))

/-- Decimal digits of a natural number. -/
def natText (n : Nat) : String := String.ofList (Nat.toDigits 10 n)

/-- Decimal text of an integer, with a minus sign when negative. -/
def intText (i : Int) : String :=
  if i < 0 then "-" ++ natText i.natAbs else natText i.natAbs

/-- ASCII upper case; other characters are kept. -/
def asciiUpper (s : String) : String := String.ofList (s.toList.map Char.toUpper)

/-- ASCII lower case; other characters are kept. -/
def asciiLower (s : String) : String := String.ofList (s.toList.map Char.toLower)

/-- Lines of a text split at `\n`; a line ended by `\r\n` loses its `\r`, and a
final line break makes no empty last line. -/
def lines (s : String) : List String :=
  let parts := s.toList.splitOn '\n'
  let ended := parts.dropLast.map fun l => if l.getLast? == some '\r' then l.dropLast else l
  let last := parts.getLast?.getD []
  (if last.isEmpty then ended else ended ++ [last]).map String.ofList

/-- A character as it is written inside a quoted debug string. -/
def debugChar (c : Char) : String :=
  if c == '"' then "\\\"" else if c == '\\' then "\\\\"
  else if c == '\n' then "\\n" else if c == '\r' then "\\r" else if c == '\t' then "\\t"
  else if c.toNat == 0 then "\\0"
  else if c.toNat < 0x20 || c.toNat == 0x7F || shownAsCode c then
    "\\u\x7b" ++ String.ofList (Nat.toDigits 16 c.toNat) ++ "\x7d"
  else String.ofList [c]

/-- A string quoted with debug escapes. -/
def debugQuote (s : String) : String :=
  "\"" ++ String.join (s.toList.map debugChar) ++ "\""

end EpicFlow.Text
