import EpicFlow.Card.Basic
import Mathlib.Tactic.IntervalCases
import Mathlib.Tactic.SplitIfs
import Mathlib.Data.List.TakeDrop

/-!
# Lines of text

A card's text is read line by line (`Text.lines`, the lines of a text without their line
breaks, a carriage return before a break dropped, and no empty line after a final break) and its
pieces are trimmed (`Text.trim`). This module says when these undo the writing of a text.

A line is a text with no line break and no carriage return at its end (`Text.IsLine`). Lines
each followed by a line break read back as themselves (`lines_terminated`), and so do lines
joined by line breaks when the last is not empty (`lines_intercalate`). A text without
carriage returns that does not end with a break is its own lines joined again
(`intercalate_lines`). A quoted text (`Json.quote`) is always a line, since its breaks are
escaped.

Main statements:

* `Text.lines_terminated`, `Text.lines_intercalate`: lines written out read back.
* `Text.intercalate_lines`: a text is its lines joined.
* `Text.trim_eq_self`, `Text.head_trim`, `Text.getLast_trim`: a trimmed text starts and ends
  with characters that are not blank, and such a text is its own trim; so `Text.trim_trim`.
* `Json.isLine_quote`: a quoted text is a line.
-/

set_option autoImplicit false

namespace EpicFlow

namespace Text

/-- A line as `lines` gives it back: no line break in it, and no carriage return at its end. -/
def IsLine (s : String) : Prop := '\n' ∉ s.toList ∧ s.toList.getLast? ≠ some '\r'

instance (s : String) : Decidable (IsLine s) := inferInstanceAs (Decidable (_ ∧ _))

/-- A text without line breaks followed by a line is a line. -/
theorem IsLine.append {a b : String} (ha : '\n' ∉ a.toList) (hb : IsLine b) (hne : b ≠ "") :
    IsLine (a ++ b) := by
  have hb' : b.toList ≠ [] := by simpa using hne
  refine ⟨by simpa [String.toList_append] using ⟨ha, hb.1⟩, ?_⟩
  obtain ⟨x, hx⟩ := Option.isSome_iff_exists.1 (List.getLast?_isSome.2 hb')
  rw [String.toList_append, List.getLast?_append, hx, Option.some_or, ← hx]
  exact hb.2

theorem isLine_natText (n : Nat) : IsLine (natText n) := by
  have hdigit : ∀ ch ∈ (natText n).toList, ch.isDigit = true := fun ch h =>
    Nat.isDigit_of_mem_toDigits (by decide : 0 < 10) (by decide : 10 ≤ 10)
      (by simpa [natText] using h)
  refine ⟨fun h => absurd (hdigit _ h) (by decide), fun h => ?_⟩
  exact absurd (hdigit _ (List.mem_of_getLast? h)) (by decide)

theorem natText_ne_empty (n : Nat) : natText n ≠ "" := by
  intro h
  have := congrArg String.toList h
  simp [natText, Nat.toDigits_ne_nil] at this

/-- Joining texts without line breaks by a separator without them makes none. -/
theorem newline_not_mem_intercalate {sep : String} (hsep : '\n' ∉ sep.toList) :
    ∀ {ls : List String}, (∀ l ∈ ls, '\n' ∉ l.toList) → '\n' ∉ (sep.intercalate ls).toList
  | [], _ => by simp
  | [l], h => by simpa using h l List.mem_cons_self
  | l :: l' :: ls, h => by
    rw [String.intercalate_cons_cons]
    simp only [String.toList_append, List.mem_append, not_or]
    exact ⟨⟨h l List.mem_cons_self, hsep⟩,
      newline_not_mem_intercalate hsep fun x hx => h x (List.mem_cons_of_mem _ hx)⟩

/-! ### Reading lines back -/

theorem lines_empty : lines "" = [] := by decide

/-- A line and a line break come off the front of a text as its first line. -/
theorem lines_line_append {l : String} (hl : IsLine l) (r : String) :
    lines (l ++ "\n" ++ r) = l :: lines r := by
  unfold lines
  simp only [String.toList_append]
  rw [show "\n".toList = ['\n'] from rfl, List.append_assoc, List.singleton_append,
    List.splitOn_append_cons_self_of_not_mem hl.1]
  have hne := List.splitOn_ne_nil '\n' r.toList
  generalize r.toList.splitOn '\n' = ps at hne ⊢
  obtain ⟨p, ps, rfl⟩ := List.exists_cons_of_ne_nil hne
  have hstrip : (if l.toList.getLast? == some '\r' then l.toList.dropLast else l.toList) =
      l.toList := by
    simp [hl.2]
  simp only [List.dropLast_cons_cons, List.getLast?_cons_cons, List.map_cons, hstrip]
  split <;> simp

theorem lines_terminated_append : ∀ (ls : List String), (∀ l ∈ ls, IsLine l) → ∀ r : String,
    lines (String.join (ls.map (· ++ "\n")) ++ r) = ls ++ lines r
  | [], _, r => by simp
  | l :: ls, h, r => by
    rw [List.map_cons, String.join_cons, String.append_assoc,
      lines_line_append (h l List.mem_cons_self),
      lines_terminated_append ls (fun l' hl' => h l' (List.mem_cons_of_mem _ hl')), List.cons_append]

/-- Lines, each followed by a line break, read back as themselves. -/
theorem lines_terminated {ls : List String} (h : ∀ l ∈ ls, IsLine l) :
    lines (String.join (ls.map (· ++ "\n"))) = ls := by
  simpa [lines_empty] using lines_terminated_append ls h ""

theorem lines_single {l : String} (hl : '\n' ∉ l.toList) (hne : l ≠ "") : lines l = [l] := by
  unfold lines
  rw [List.splitOn_eq_singleton hl]
  have : l.toList.isEmpty = false := by simpa using hne
  simp [this]

/-- Lines joined by line breaks read back as themselves, when the last is not empty. -/
theorem lines_intercalate : ∀ (ls : List String), (∀ l ∈ ls, IsLine l) →
    (∀ l ∈ ls.getLast?, l ≠ "") → lines ("\n".intercalate ls) = ls
  | [], _, _ => lines_empty
  | [l], h, hlast => by
    rw [String.intercalate_singleton]
    exact lines_single (h l List.mem_cons_self).1 (hlast l rfl)
  | l :: l' :: ls, h, hlast => by
    rw [String.intercalate_cons_cons, lines_line_append (h l List.mem_cons_self),
      lines_intercalate (l' :: ls) (fun x hx => h x (List.mem_cons_of_mem _ hx))
        (fun x hx => hlast x (by simpa using hx))]

/-! ### A text is its lines joined -/

/-- A part of a text split at its line breaks has no line break, and only characters of the
text. -/
theorem mem_splitOn_newline :
    ∀ (cs : List Char), ∀ p ∈ cs.splitOn '\n', '\n' ∉ p ∧ ∀ c ∈ p, c ∈ cs
  | [] => by simp
  | c :: cs => by
    intro p hp
    have ih := mem_splitOn_newline cs
    rw [List.splitOn_eq_splitOnP, List.splitOnP_cons_eq_if_modifyHead,
      ← List.splitOn_eq_splitOnP] at hp
    split at hp
    · -- a line break starts a new, empty part
      rcases List.mem_cons.1 hp with rfl | hp
      · simp
      · exact ⟨(ih p hp).1, fun x hx => List.mem_cons_of_mem _ ((ih p hp).2 x hx)⟩
    · -- any other character joins the first part
      rename_i hc
      obtain ⟨q, qs, hq⟩ := List.exists_cons_of_ne_nil (List.splitOn_ne_nil '\n' cs)
      rw [hq, List.modifyHead_cons] at hp
      rcases List.mem_cons.1 hp with rfl | hp
      · have hq' := ih q (by rw [hq]; exact List.mem_cons_self)
        refine ⟨?_, ?_⟩
        · simp only [List.mem_cons, not_or]
          exact ⟨fun h => hc (by subst h; exact beq_self_eq_true _), hq'.1⟩
        · intro x hx
          rcases List.mem_cons.1 hx with rfl | hx
          · exact List.mem_cons_self
          · exact List.mem_cons_of_mem _ (hq'.2 x hx)
      · have hp' := ih p (by rw [hq]; exact List.mem_cons_of_mem _ hp)
        exact ⟨hp'.1, fun x hx => List.mem_cons_of_mem _ (hp'.2 x hx)⟩

/-- Without carriage returns, the lines of a text are the parts between its line breaks, the
last one dropped when it is empty. -/
theorem lines_toList {s : String} (hr : '\r' ∉ s.toList) :
    (lines s).map String.toList =
      if (s.toList.splitOn '\n').getLast?.getD [] = [] then (s.toList.splitOn '\n').dropLast
      else s.toList.splitOn '\n' := by
  have hkeep : ∀ p ∈ (s.toList.splitOn '\n').dropLast,
      (if p.getLast? == some '\r' then p.dropLast else p) = p := by
    intro p hp
    have hp' := mem_splitOn_newline s.toList p (List.dropLast_subset _ hp)
    have hlast : p.getLast? ≠ some '\r' := fun h => hr (hp'.2 _ (List.mem_of_getLast? h))
    simp [hlast]
  unfold lines
  simp only [List.map_congr_left hkeep, List.map_id']
  have hne := List.splitOn_ne_nil '\n' s.toList
  by_cases h : (s.toList.splitOn '\n').getLast?.getD [] = []
  · simp [h]
  · have h' : ((s.toList.splitOn '\n').getLast?.getD []).isEmpty = false := by
      simpa [List.isEmpty_iff] using h
    simp only [h', h, Bool.false_eq_true, if_false, List.map_append, List.map_map,
      Function.comp_def, String.toList_ofList, List.map_id', List.map_cons, List.map_nil]
    rw [List.getLast?_eq_some_getLast hne, Option.getD_some, List.dropLast_concat_getLast]

/-- The lines of a text without carriage returns are lines. -/
theorem lines_isLine {s : String} (hr : '\r' ∉ s.toList) : ∀ l ∈ lines s, IsLine l := by
  intro l hl
  have hmem : l.toList ∈ (lines s).map String.toList := List.mem_map_of_mem hl
  rw [lines_toList hr] at hmem
  have hpart : l.toList ∈ s.toList.splitOn '\n' := by
    split at hmem
    · exact List.dropLast_subset _ hmem
    · exact hmem
  obtain ⟨hn, hsub⟩ := mem_splitOn_newline _ _ hpart
  exact ⟨hn, fun h => hr (hsub _ (List.mem_of_getLast? h))⟩

theorem intercalate_append_nil {ps : List (List Char)} (hps : ps ≠ []) :
    ['\n'].intercalate (ps ++ [[]]) = ['\n'].intercalate ps ++ ['\n'] := by
  induction ps with
  | nil => exact absurd rfl hps
  | cons p ps ih =>
    cases ps with
    | nil => simp [List.intercalate_cons_cons]
    | cons p' ps =>
      have h := ih (List.cons_ne_nil _ _)
      simp only [List.cons_append, List.intercalate_cons_cons] at h ⊢
      rw [h]
      simp

/-- A text without carriage returns that does not end with a line break is its lines joined
again. -/
theorem intercalate_lines {s : String} (hr : '\r' ∉ s.toList)
    (hend : s.toList.getLast? ≠ some '\n') : "\n".intercalate (lines s) = s := by
  apply String.toList_injective
  rw [String.toList_intercalate, show "\n".toList = ['\n'] from rfl, lines_toList hr]
  have hne := List.splitOn_ne_nil '\n' s.toList
  have hjoin : ['\n'].intercalate (s.toList.splitOn '\n') = s.toList :=
    List.intercalate_splitOn '\n'
  split
  · rename_i h
    -- the last part is empty, so the text is empty: it does not end with a line break
    have hps := List.dropLast_concat_getLast hne
    rw [show (s.toList.splitOn '\n').getLast hne = [] by
      simpa [List.getLast?_eq_some_getLast hne] using h] at hps
    generalize (s.toList.splitOn '\n').dropLast = ps at hps ⊢
    rw [← hps] at hjoin
    cases ps with
    | nil => simpa using hjoin.symm
    | cons p ps =>
      rw [intercalate_append_nil (List.cons_ne_nil _ _)] at hjoin
      exact absurd (by rw [← hjoin]; simp) hend
  · exact hjoin

/-- The last line of such a text is not empty. -/
theorem lines_getLast_ne {s : String} (hr : '\r' ∉ s.toList)
    (hend : s.toList.getLast? ≠ some '\n') : ∀ l ∈ (lines s).getLast?, l ≠ "" := by
  intro l hl hempty
  subst hempty
  obtain ⟨ls, hls⟩ := List.getLast?_eq_some_iff.1 hl
  have hjoin := intercalate_lines hr hend
  rw [hls] at hjoin
  cases ls with
  | nil =>
    have hs : s = "" := by simpa using hjoin.symm
    rw [hs, lines_empty] at hls
    cases hls
  | cons l ls =>
    rw [String.intercalate_append_of_ne_nil (List.cons_ne_nil _ _) (List.cons_ne_nil _ _)] at hjoin
    exact hend (by rw [← hjoin]; simp)

/-- Lines each ended by a line break are the lines joined, with a line break after the last. -/
theorem join_terminated : ∀ {ls : List String}, ls ≠ [] →
    String.join (ls.map (· ++ "\n")) = "\n".intercalate ls ++ "\n"
  | [l], _ => by simp
  | l :: l' :: ls, _ => by
    rw [List.map_cons, String.join_cons, join_terminated (List.cons_ne_nil l' ls),
      String.intercalate_cons_cons]
    simp only [String.append_assoc]

/-- Splitting a line and the rest at the first line break. -/
theorem splitOnce_line {l : String} (hl : '\n' ∉ l.toList) (r : String) :
    splitOnce (l ++ "\n" ++ r) '\n' = some (l, r) := by
  unfold splitOnce
  have hspan : (l.toList ++ '\n' :: r.toList).span (· ≠ '\n') = (l.toList, '\n' :: r.toList) := by
    rw [List.span_eq_takeWhile_dropWhile, List.takeWhile_append_of_pos,
      List.dropWhile_append_of_pos]
    · simp
    all_goals
      intro a ha
      have hne : a ≠ '\n' := by
        rintro rfl
        exact hl ha
      simpa using hne
  simp only [String.toList_append]
  rw [show "\n".toList = ['\n'] from rfl, List.append_assoc, List.singleton_append, hspan]
  simp

/-! ### Trimming -/

theorem dropBlanks_of_head {cs : List Char} (h : ∀ c ∈ cs.head?, isBlank c = false) :
    dropBlanks cs = cs := by
  cases cs with
  | nil => rfl
  | cons c cs => simp [dropBlanks, h c rfl]

/-- Dropping the leading blanks of a text that ends with a character that is not blank keeps
that character last. -/
theorem dropBlanks_append_nonblank {c : Char} (hc : isBlank c = false) :
    ∀ l : List Char, ∃ l', dropBlanks (l ++ [c]) = l' ++ [c]
  | [] => ⟨[], by simp [dropBlanks, hc]⟩
  | d :: l => by
    by_cases hd : isBlank d = true
    · simpa [dropBlanks, hd] using dropBlanks_append_nonblank hc l
    · exact ⟨d :: l, by simp [dropBlanks, hd]⟩

/-- A text is its own trim when it starts and ends with characters that are not blank. -/
theorem trim_eq_self {s : String} (hh : ∀ c ∈ s.toList.head?, isBlank c = false)
    (hl : ∀ c ∈ s.toList.getLast?, isBlank c = false) : trim s = s := by
  unfold trim
  rw [dropBlanks_of_head hh, dropBlanks_of_head (by simpa [List.head?_reverse] using hl),
    List.reverse_reverse, String.ofList_toList]

/-- Dropping leading blanks leaves a suffix. -/
theorem dropBlanks_suffix : ∀ cs : List Char, dropBlanks cs <:+ cs
  | [] => List.suffix_refl _
  | c :: cs => by
    unfold dropBlanks
    split
    · exact (dropBlanks_suffix cs).trans (List.suffix_cons c cs)
    · exact List.suffix_refl _

/-- The trim of a text ends with a character that is not blank. -/
theorem getLast_trim (s : String) : ∀ c ∈ (trim s).toList.getLast?, isBlank c = false := by
  intro c hc
  simp only [trim, String.toList_ofList, List.getLast?_reverse] at hc
  obtain ⟨rest, hrest⟩ := List.head?_eq_some_iff.1 hc
  exact dropBlanks_head _ c rest hrest

/-- The trim of a text starts with a character that is not blank: the last character left at
the end is the first one left at the start. -/
theorem head_trim (s : String) : ∀ c ∈ (trim s).toList.head?, isBlank c = false := by
  intro c hc
  simp only [trim, String.toList_ofList, List.head?_reverse] at hc
  obtain ⟨l, hl⟩ := dropBlanks_suffix (dropBlanks s.toList).reverse
  have hlast : (dropBlanks s.toList).reverse.getLast? = some c := by
    rw [← hl, List.getLast?_append, hc, Option.some_or]
  rw [List.getLast?_reverse] at hlast
  obtain ⟨rest, hrest⟩ := List.head?_eq_some_iff.1 hlast
  exact dropBlanks_head _ c rest hrest

/-- Trimming twice is trimming once. -/
theorem trim_trim (s : String) : trim (trim s) = trim s :=
  trim_eq_self (head_trim s) (getLast_trim s)

/-- A trimmed text ends with a character that is not blank. -/
theorem trim_getLast {s : String} (h : trim s = s) :
    ∀ c ∈ s.toList.getLast?, isBlank c = false :=
  h ▸ getLast_trim s

/-- A trimmed text has nothing to trim at its end. -/
theorem trimEnd_eq_self {s : String} (h : trim s = s) : trimEnd s = s := by
  unfold trimEnd
  rw [dropBlanks_of_head (by simpa [List.head?_reverse] using trim_getLast h),
    List.reverse_reverse, String.ofList_toList]

theorem trim_blank_cons {c : Char} (hc : isBlank c = true) (cs : List Char) :
    trim (String.ofList (c :: cs)) = trim (String.ofList cs) := by
  simp [trim, dropBlanks, hc]

/-- Trimming the end of a text that starts with a character that is not blank keeps that
character first. -/
theorem trimEnd_head {s : String} {ch : Char} (hs : s.toList.head? = some ch)
    (hch : isBlank ch = false) : (trimEnd s).toList.head? = some ch := by
  obtain ⟨cs, hcs⟩ := List.head?_eq_some_iff.1 hs
  unfold trimEnd
  rw [String.toList_ofList, hcs, List.reverse_cons]
  obtain ⟨l', hl'⟩ := dropBlanks_append_nonblank hch cs.reverse
  rw [hl', List.reverse_append]
  rfl

/-- So does trimming both ends. -/
theorem trim_head_of {s : String} {ch : Char} (hs : s.toList.head? = some ch)
    (hch : isBlank ch = false) : (trim s).toList.head? = some ch := by
  obtain ⟨cs, hcs⟩ := List.head?_eq_some_iff.1 hs
  unfold trim
  rw [String.toList_ofList, hcs,
    show dropBlanks (ch :: cs) = ch :: cs from dropBlanks_of_head (by simpa using hch),
    List.reverse_cons]
  obtain ⟨l', hl'⟩ := dropBlanks_append_nonblank hch cs.reverse
  rw [hl', List.reverse_append]
  rfl

/-- Dropping the leading blanks of a text leaves nothing exactly when all of it is blank. -/
theorem dropBlanks_eq_nil_iff : ∀ cs : List Char, dropBlanks cs = [] ↔ ∀ c ∈ cs, isBlank c = true
  | [] => by simp [dropBlanks]
  | c :: cs => by
    cases hc : isBlank c
    · simp [dropBlanks, hc]
    · simp [dropBlanks, hc, dropBlanks_eq_nil_iff cs]

/-- A text trims to nothing exactly when all of it is blank: what the leading blanks leave starts
with a character that is not blank, which no dropping of trailing blanks removes. -/
theorem trim_isEmpty_iff (s : String) :
    (trim s).isEmpty = true ↔ ∀ c ∈ s.toList, isBlank c = true := by
  have hend : dropBlanks (dropBlanks s.toList).reverse = [] ↔ dropBlanks s.toList = [] := by
    rw [dropBlanks_eq_nil_iff]
    constructor
    · intro h
      cases hd : dropBlanks s.toList with
      | nil => rfl
      | cons c rest =>
        have hc := h c (by simp [hd])
        rw [dropBlanks_head _ c rest hd] at hc
        exact absurd hc Bool.false_ne_true
    · intro h c hc
      simp [h] at hc
  unfold trim
  simp only [String.isEmpty_iff, String.ofList_eq_empty_iff, List.reverse_eq_nil_iff]
  rw [hend, dropBlanks_eq_nil_iff]

end Text

namespace Json

theorem hexDigit_ne_newline {n : Nat} (h : n < 16) : Text.hexDigit n ≠ '\n' := by
  interval_cases n <;> decide

theorem newline_not_mem_escapeChar (c : Char) : '\n' ∉ escapeChar c := by
  unfold escapeChar
  split_ifs with h₁ h₂ h₃ h₄ h₅ h₆ h₇ h₈
  all_goals try decide
  · -- a control character is written with two hexadecimal digits
    have hlt : c.toNat < 32 := by simpa using h₈
    simp only [List.mem_cons, List.not_mem_nil, or_false, not_or]
    exact ⟨by decide, by decide, by decide, by decide,
      (hexDigit_ne_newline (by omega)).symm, (hexDigit_ne_newline (by omega)).symm⟩
  · -- any other character is written as itself, and a line break is not one of them
    simp only [List.mem_cons, List.not_mem_nil, or_false]
    intro h
    subst h
    simp at h₃

theorem quote_toList (s : String) : (quote s).toList = '"' :: escapeChars s.toList ++ ['"'] := by
  simp [quote]

/-- A quoted text has no line break: its own are escaped. -/
theorem newline_not_mem_quote (s : String) : '\n' ∉ (quote s).toList := by
  rw [quote_toList]
  simp only [List.mem_cons, List.mem_append, escapeChars, List.mem_flatMap, List.not_mem_nil,
    or_false, not_or, not_exists, not_and]
  exact ⟨⟨by decide, fun c _ hc => newline_not_mem_escapeChar c hc⟩, by decide⟩

theorem quote_getLast (s : String) : (quote s).toList.getLast? = some '"' := by
  rw [quote_toList, List.getLast?_concat]

/-- A quoted text is a line: no line break, and it ends with a quote mark. -/
theorem isLine_quote (s : String) : Text.IsLine (quote s) :=
  ⟨newline_not_mem_quote s, by rw [quote_getLast]; decide⟩

theorem quote_ne_empty (s : String) : quote s ≠ "" := by
  intro h
  simpa [h] using quote_getLast s

end Json

end EpicFlow
