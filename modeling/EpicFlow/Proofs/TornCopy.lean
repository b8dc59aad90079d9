import EpicFlow.Proofs.FreshCard

/-!
# A torn copy of a card

A worker rewrites its card while the conductor may be copying it, so a copy can hold only a start
of the card's text. `TaskCard.parse` is meant to tell such a copy apart from a card that is wrong:
a torn copy is worth reading again, a malformed one is not. This module shows that the
distinction holds for every start of the text of a card in form (`TaskCard.Canonical`): reading
it never answers malformed. It answers torn, or the card itself with at most the text of its
last requirement and its notes cut short (`TaskCard.CutShort`); and a start that stops before
the closing fence is complete, or before the closing bracket of the last checkbox, is torn.

The argument follows the lines of the text. A start of a text of whole lines has, as its lines,
some first lines whole and then possibly the start of the next one (`Text.LinesCut`,
`Text.lines_of_start`). Each step of the reader is then shown to accept such a cut list of
lines: the front matter is found only once the closing fence is whole, and it is then the whole
front matter (`TaskCard.parts_of_start`); the checklist lines read back as the card's
requirements, the last possibly cut, never more of them (`TaskCard.foldl_body_cut`); the start
of a notes line opens no section, as its trimmed text starts as the whole line's does
(`Text.trim_mono`). The YAML reader is taken as given exactly as for the whole text: it reads
the card's front matter as the mapping of its fields.

Main statements:

* `Text.lines_of_start`: the lines of a start of a text of lines are a cut of its lines.
* `TaskCard.parts_of_start`: a start of a card's text has no front matter, or the card's own.
* `TaskCard.foldl_body_cut`: the body of a start reads as a cut of the checklist and notes.
* `TaskCard.parse_prefix_render`: reading a start of a card's text answers torn, or the card cut
  short; before the closing fence or the last checkbox's bracket, it answers torn.
-/

set_option autoImplicit false

namespace EpicFlow

namespace Text

/-- `zs` are the lines of a start of the text whose lines are `ls`, each followed by a line
break: some first lines whole, then possibly the start of the next one. -/
inductive LinesCut : List String → List String → Prop
  | stop (ls : List String) : LinesCut ls []
  | part (l : String) (ls : List String) {q : String} (hq : q.toList <+: l.toList) (hne : q ≠ "") :
      LinesCut (l :: ls) [q]
  | whole (l : String) {ls zs : List String} : LinesCut ls zs → LinesCut (l :: ls) (l :: zs)

namespace LinesCut

/-- Every line of a cut is a start of a line of the text. -/
theorem forall_mem {ls zs : List String} (h : LinesCut ls zs) {P : String → Prop}
    (hP : ∀ l ∈ ls, ∀ q : String, q.toList <+: l.toList → P q) : ∀ z ∈ zs, P z := by
  induction h with
  | stop => simp
  | part l ls hq _ =>
    intro z hz
    rw [List.mem_singleton] at hz
    subst hz
    exact hP l List.mem_cons_self _ hq
  | whole l _ ih =>
    intro z hz
    rcases List.mem_cons.1 hz with rfl | hz
    · exact hP z List.mem_cons_self z (List.prefix_refl _)
    · exact ih (fun l hl => hP l (List.mem_cons_of_mem _ hl)) z hz

/-- A cut of lines that come in two parts is a cut of the first part, or the whole first part
followed by a cut of the second. -/
theorem of_append : ∀ {xs ys zs : List String}, LinesCut (xs ++ ys) zs →
    LinesCut xs zs ∨ ∃ zs', zs = xs ++ zs' ∧ LinesCut ys zs'
  | [], _, _, h => .inr ⟨_, rfl, h⟩
  | x :: xs, ys, _, .stop _ => .inl (.stop _)
  | x :: xs, ys, _, .part _ _ hq hne => .inl (.part x xs hq hne)
  | x :: xs, ys, _, .whole _ h =>
    match of_append h with
    | .inl h' => .inl (.whole x h')
    | .inr ⟨zs', hzs, h'⟩ => .inr ⟨zs', by rw [hzs, List.cons_append], h'⟩

/-- Joined again by line breaks, a cut of lines reads back as the same cut: a start is read as
its lines. -/
theorem lines_intercalate {ls zs : List String} (h : LinesCut ls zs) (hls : ∀ l ∈ ls, IsLine l) :
    LinesCut ls (lines ("\n".intercalate zs)) := by
  induction h with
  | stop => exact .stop _
  | part l ls hq hne =>
    rw [String.intercalate_singleton,
      lines_single (fun hn => (hls l List.mem_cons_self).1 (hq.subset hn)) hne]
    exact .part l ls hq hne
  | @whole l ls zs h ih =>
    have hl := hls l List.mem_cons_self
    have ih' := ih fun x hx => hls x (List.mem_cons_of_mem _ hx)
    cases zs with
    | nil =>
      -- the last line, whole: it reads back unless it is empty
      rw [String.intercalate_singleton]
      by_cases he : l = ""
      · rw [he, lines_empty]
        exact .stop _
      · rw [lines_single hl.1 he]
        exact .whole l (.stop ls)
    | cons z zs =>
      rw [String.intercalate_cons_cons, lines_line_append hl]
      exact .whole l ih'

/-- A cut of lines, joined by line breaks, is a start of the lines joined. -/
theorem prefix_intercalate {ls zs : List String} (h : LinesCut ls zs) :
    ("\n".intercalate zs).toList <+: ("\n".intercalate ls).toList := by
  induction h with
  | stop => simp
  | part l ls hq _ =>
    cases ls with
    | nil => simpa using hq
    | cons l' ls =>
      rw [String.intercalate_singleton, String.intercalate_cons_cons, String.toList_append,
        String.toList_append]
      exact List.prefix_append_of_prefix (List.prefix_append_of_prefix hq)
  | @whole l ls zs h ih =>
    cases zs with
    | nil =>
      cases ls with
      | nil => exact List.prefix_refl _
      | cons l' ls =>
        rw [String.intercalate_singleton, String.intercalate_cons_cons, String.toList_append,
          String.toList_append, List.append_assoc]
        exact List.prefix_append _ _
    | cons z zs =>
      -- a cut with a line after `l` is of a text with a line after `l`
      obtain ⟨l', ls', rfl⟩ : ∃ l' ls', ls = l' :: ls' := by
        cases h with
        | part => exact ⟨_, _, rfl⟩
        | whole => exact ⟨_, _, rfl⟩
      rw [String.intercalate_cons_cons, String.intercalate_cons_cons]
      simpa [String.toList_append] using ih

end LinesCut

/-! ### Trimming a start of a text -/

/-- Blanks dropped from the front of a start of a text leave a start of what they leave of the
text. -/
theorem dropBlanks_mono : ∀ {q l : List Char}, q <+: l → dropBlanks q <+: dropBlanks l
  | [], _, _ => by simp [dropBlanks]
  | c :: q, l, h => by
    obtain ⟨l', rfl, h'⟩ : ∃ l', l = c :: l' ∧ q <+: l' := by
      obtain ⟨t, ht⟩ := h
      exact ⟨q ++ t, ht.symm, List.prefix_append _ _⟩
    by_cases hc : isBlank c = true
    · simpa [dropBlanks, hc] using dropBlanks_mono h'
    · simpa [dropBlanks, hc] using h'

/-- Dropping the leading blanks of a text followed by more: the blanks run into the rest when the
text is all blank. -/
theorem dropBlanks_append : ∀ (x y : List Char),
    dropBlanks (x ++ y) = if dropBlanks x = [] then dropBlanks y else dropBlanks x ++ y
  | [], y => by simp [dropBlanks]
  | c :: x, y => by
    by_cases hc : isBlank c = true
    · simpa [dropBlanks, hc] using dropBlanks_append x y
    · simp [dropBlanks, hc]

/-- Trailing blanks dropped from a start of a text leave a start of what they leave of the
text. -/
theorem trimEnd_mono {a b : List Char} (h : a <+: b) :
    (dropBlanks a.reverse).reverse <+: (dropBlanks b.reverse).reverse := by
  obtain ⟨t, rfl⟩ := h
  rw [List.reverse_append, dropBlanks_append]
  split
  · exact List.prefix_refl _
  · rw [List.reverse_append, List.reverse_reverse]
    -- what is left of `a` is a start of `a`, as the blanks came off its end
    have hs : (dropBlanks a.reverse).reverse <+: a := by
      simpa using List.reverse_prefix.2 (dropBlanks_suffix a.reverse)
    exact hs.trans (List.prefix_append _ _)

/-- The trim of a start of a text is a start of the trim of the text. -/
theorem trim_mono {q l : String} (h : q.toList <+: l.toList) :
    (trim q).toList <+: (trim l).toList := by
  simpa [trim] using trimEnd_mono (dropBlanks_mono h)

/-- A start of a line that is not empty starts with the line's first character. -/
theorem head?_of_start {q l : String} (hq : q.toList <+: l.toList) (hne : q ≠ "") :
    q.toList.head? = l.toList.head? := by
  obtain ⟨t, ht⟩ := hq
  rw [← ht]
  cases hqt : q.toList with
  | nil => exact absurd (String.toList_eq_nil_iff.1 hqt) hne
  | cons a as => rfl

/-- The lines of a start of a text made of lines, each followed by a line break, are a cut of
those lines: the start ends inside a line, or just after one. -/
theorem lines_of_start : ∀ {ls : List String}, (∀ l ∈ ls, IsLine l) → ∀ {p : String},
    p.toList <+: (String.join (ls.map (· ++ "\n"))).toList → LinesCut ls (lines p)
  | [], _, p, hp => by
    have hp' : p = "" := String.toList_eq_nil_iff.1 (by simpa using hp)
    rw [hp', lines_empty]
    exact .stop []
  | l :: ls, h, p, hp => by
    have hl := h l List.mem_cons_self
    have hjoin : (String.join ((l :: ls).map (· ++ "\n"))).toList =
        (l.toList ++ ['\n']) ++ (String.join (ls.map (· ++ "\n"))).toList := by
      simp [String.toList_append]
    rw [hjoin] at hp
    rcases List.prefix_or_prefix_of_prefix hp (List.prefix_append _ _) with hshort | hlong
    · -- the start ends inside the first line, or just after it
      rcases List.prefix_concat_iff.1 hshort with hfull | hin
      · have hp' : p = l ++ "\n" ++ "" := String.toList_injective (by simpa using hfull)
        rw [hp', lines_line_append hl, lines_empty]
        exact .whole l (.stop ls)
      · by_cases he : p = ""
        · rw [he, lines_empty]
          exact .stop _
        · rw [lines_single (fun hn => hl.1 (hin.subset hn)) he]
          exact .part l ls hin he
    · -- the start holds the first line whole, and a start of the rest
      obtain ⟨t, ht⟩ := hlong
      have hp' : p = l ++ "\n" ++ String.ofList t :=
        String.toList_injective (by simp [String.toList_append, ← ht])
      rw [hp', lines_line_append hl]
      rw [← ht, List.prefix_append_right_inj] at hp
      exact .whole l (lines_of_start (fun x hx => h x (List.mem_cons_of_mem _ hx))
        (by simpa using hp))

end Text

namespace Card

/-- The matter runs on past lines none of which is a fence, so it is not found in them. -/
theorem matterLines_none : ∀ {ls : List String}, (∀ l ∈ ls, isFence l = false) →
    ∀ acc, matterLines ls acc = none
  | [], _, _ => rfl
  | l :: ls, h, acc => by
    rw [matterLines, if_neg (by simp [h l List.mem_cons_self])]
    exact matterLines_none (fun x hx => h x (List.mem_cons_of_mem _ hx)) _

/-- A start of the fence line that is not all of it is no fence. -/
theorem isFence_prefix_fence {q : String} (hq : q.toList <+: "---".toList) (hne : q ≠ "---") :
    isFence q = false := by
  rw [List.prefix_iff_eq_take] at hq
  have hq' : q = String.ofList (List.take q.toList.length "---".toList) := by
    rw [← hq, String.ofList_toList]
  rw [hq'] at hne ⊢
  generalize q.toList.length = k at hne ⊢
  rcases k with _ | _ | _ | k
  iterate 3 decide
  rw [show "---".toList = ['-', '-', '-'] from rfl, List.take_of_length_le (by simp)] at hne
  exact absurd rfl hne

theorem utf8ByteSize_open (r : String) : ¬ ("---\n" ++ r).utf8ByteSize ≤ 3 := by
  rw [String.utf8ByteSize_append, show ("---\n" : String).utf8ByteSize = 4 by decide]
  omega

/-- After an opening fence, a text without a closing one has no front matter. -/
theorem parts_open_none {r : String} (h : matterLines (Text.lines r) [] = none) :
    (Parts.ofText ("---\n" ++ r)).matter = none := by
  unfold Parts.ofText
  rw [if_neg (utf8ByteSize_open r), show "---\n" ++ r = "---" ++ "\n" ++ r from rfl,
    Text.splitOnce_line (by decide)]
  simp [show isFence "---" = true by decide, h]

end Card

namespace TaskCard

/-! ### The front matter of a start -/

/-- A card's front matter between its fences, followed by the lines `body`, each line ended by
a line break. -/
def withBody (c : TaskCard) (body : List String) : String :=
  String.join (("---" :: c.fieldLines ++ "---" :: body).map (· ++ "\n"))

theorem render_withBody {c : TaskCard} (hc : c.Canonical) : c.render = c.withBody c.bodyLines := by
  rw [render_eq c hc.notes]
  rfl

/-- Each field line starts with the first letter of its field's name. -/
theorem fieldLines_head (c : TaskCard) :
    ∀ l ∈ c.fieldLines, ∃ ch, l.toList.head? = some ch ∧ Text.isBlank ch = false ∧ ch ≠ '-' := by
  simp only [fieldLines, List.mem_cons, List.not_mem_nil, or_false]
  rintro l (rfl | rfl | rfl | rfl | rfl | rfl | rfl | rfl | rfl)
  · exact ⟨'c', by simp [String.toList_append], by decide, by decide⟩
  · exact ⟨'e', by simp [String.toList_append], by decide, by decide⟩
  · exact ⟨'s', by simp [String.toList_append], by decide, by decide⟩
  · exact ⟨'o', by simp [String.toList_append], by decide, by decide⟩
  · exact ⟨'r', by simp [String.toList_append], by decide, by decide⟩
  · exact ⟨'c', by cases c.created <;> simp [stampText, String.toList_append], by decide, by decide⟩
  · exact ⟨'s', by cases c.started <;> simp [stampText, String.toList_append], by decide, by decide⟩
  · exact ⟨'c', by cases c.completed <;> simp [stampText, String.toList_append], by decide,
      by decide⟩
  · exact ⟨'s', by simp [String.toList_append], by decide, by decide⟩

/-- No start of a field line is a fence. -/
theorem fieldLines_prefix_not_fence (c : TaskCard) :
    ∀ l ∈ c.fieldLines, ∀ q : String, q.toList <+: l.toList → Card.isFence q = false := by
  intro l hl q hq
  by_cases hne : q = ""
  · rw [hne]
    decide
  · obtain ⟨ch, hch, hblank, hdash⟩ := fieldLines_head c l hl
    exact Card.isFence_eq_false ch ((Text.head?_of_start hq hne).trans hch) hblank hdash

/-- After an opening fence, the card's field lines and a fence open the card's front matter. -/
theorem parts_open_some {c : TaskCard} {r : String} {after : List String}
    (h : Card.matterLines (Text.lines r) [] = some (c.fieldLines, after)) :
    Card.Parts.ofText ("---\n" ++ r) = ⟨some c.matterText, Card.joinBody after⟩ := by
  have hne : c.matterText.isEmpty = false := by
    rw [Bool.eq_false_iff]
    intro he
    have := matterText_head c
    rw [String.isEmpty_iff.1 he] at this
    cases this
  unfold Card.Parts.ofText
  rw [if_neg (Card.utf8ByteSize_open r), show "---\n" ++ r = "---" ++ "\n" ++ r from rfl,
    Text.splitOnce_line (by decide)]
  simp only [show Card.isFence "---" = true by decide, if_true, h, ← matterText.eq_1,
    trim_matterText, hne, Bool.false_eq_true, if_false]

/-- A start of the text of a card's front matter followed by lines has no front matter, or has
the card's own, followed by a cut of the lines. -/
theorem parts_of_start {c : TaskCard} {B : List String} (hB : ∀ l ∈ B, Text.IsLine l) {p : String}
    (hp : p.toList <+: (c.withBody B).toList) :
    (Card.Parts.ofText p).matter = none ∨
      ∃ zs, Text.LinesCut B zs ∧ Card.Parts.ofText p = ⟨some c.matterText, Card.joinBody zs⟩ := by
  have hw : c.withBody B = "---\n" ++ String.join ((c.fieldLines ++ "---" :: B).map (· ++ "\n")) := by
    simp only [withBody, List.cons_append, List.map_cons, String.join_cons]
    rfl
  rw [hw, String.toList_append] at hp
  rcases List.prefix_or_prefix_of_prefix hp (List.prefix_append _ _) with hshort | hlong
  · -- a start of the opening fence line has no front matter
    left
    rw [List.prefix_iff_eq_take] at hshort
    have hp' : p = String.ofList (List.take p.toList.length "---\n".toList) := by
      rw [← hshort, String.ofList_toList]
    rw [hp']
    generalize p.toList.length = k
    rcases k with _ | _ | _ | _ | k
    iterate 4 decide
    rw [show "---\n".toList = ['-', '-', '-', '\n'] from rfl, List.take_of_length_le (by simp)]
    decide
  · obtain ⟨t, ht⟩ := hlong
    have hp' : p = "---\n" ++ String.ofList t := String.toList_injective (by simp [← ht])
    rw [← ht, List.prefix_append_right_inj] at hp
    have hlines : ∀ l ∈ c.fieldLines ++ "---" :: B, Text.IsLine l := by
      intro l hl
      simp only [List.mem_append, List.mem_cons] at hl
      rcases hl with hl | rfl | hl
      · exact fieldLines_isLine c l hl
      · decide
      · exact hB l hl
    have hcut := Text.lines_of_start hlines (p := String.ofList t) (by simpa using hp)
    rw [hp']
    rcases Text.LinesCut.of_append hcut with hfield | ⟨zs, hzs, hrest⟩
    · -- the start ends among the field lines: no fence closes the matter
      left
      exact Card.parts_open_none (Card.matterLines_none
        (hfield.forall_mem (fieldLines_prefix_not_fence c)) [])
    · have hnofence : ∀ l ∈ c.fieldLines, Card.isFence l = false := fieldLines_not_fence c
      cases hrest with
      | stop =>
        left
        exact Card.parts_open_none (by rw [hzs]; exact Card.matterLines_none (by simpa using hnofence) [])
      | @part _ _ q hq hne =>
        by_cases h3 : q = "---"
        · -- the closing fence is whole, and nothing of the body follows
          right
          subst h3
          exact ⟨[], .stop B, parts_open_some (by
            rw [hzs]
            simpa using Card.matterLines_fence _ hnofence [] [])⟩
        · left
          have hnf : ∀ l ∈ c.fieldLines ++ [q], Card.isFence l = false := by
            intro l hl
            simp only [List.mem_append, List.mem_singleton] at hl
            rcases hl with hl | rfl
            · exact hnofence l hl
            · exact Card.isFence_prefix_fence hq h3
          exact Card.parts_open_none (by rw [hzs]; exact Card.matterLines_none hnf [])
      | whole _ hbody =>
        right
        exact ⟨_, hbody, parts_open_some (by
          rw [hzs]
          simpa using Card.matterLines_fence _ hnofence _ [])⟩

/-! ### Reading a text with a card's front matter -/

/-- A text whose front matter is not closed is torn. -/
theorem parse_unfenced {p : String} (h : fenced p = false) :
    parse p = .error (.torn "frontmatter is not closed") := by
  simp [parse, h]
  rfl

/-- A closed text without front matter is torn. -/
theorem parse_no_matter {p : String} (hf : fenced p = true) (h : (Card.Parts.ofText p).matter = none) :
    parse p = .error (.torn "No frontmatter found") := by
  simp [parse, hf, h]
  rfl

/-- A closed text whose front matter is a card's own reads as its body says: the checklist
entries are counted against the card's requirements, and what the front matter holds is the
card's. -/
theorem parse_of_parts {c : TaskCard} (hc : c.Canonical)
    (hyaml : Yaml.Node.readsAs c.matterText c.matterNode = true) {p body : String} {b : Body}
    (hf : fenced p = true) (hparts : Card.Parts.ofText p = ⟨some c.matterText, body⟩)
    (hb : (Text.lines body).foldl Body.step {} = b) :
    parse p =
      if b.requirements.length < c.requirements.length then
        .error (.torn (Text.natText b.requirements.length ++ " of " ++
          Text.natText c.requirements.length ++ " requirement lines present"))
      else if c.requirements.length < b.requirements.length then
        .error (.malformed (Text.natText b.requirements.length ++
          " requirement lines but requirement_count is " ++ Text.natText c.requirements.length))
      else .ok { c with requirements := b.requirements, notes := Text.trim ("\n".intercalate b.notes) } := by
  have hread : Card.FrontMatter.read c.matterText = .ok (some c.frontMatter) := by
    unfold Card.FrontMatter.read
    rw [Yaml.Node.ofText_of_readsAs hyaml]
    exact ofNode_matterNode hc.count
  unfold parse
  simp only [hf, hparts, hread, hb, Bool.not_true, Bool.false_eq_true, if_false, pure_bind,
    frontMatter, hc.stage, gt_iff_lt, nonEmpty_of_stampForm hc.created,
    nonEmpty_of_stampForm hc.started, nonEmpty_of_stampForm hc.completed,
    readSignals_codes hc.signalsNodup hc.signals]
  split_ifs <;> rfl

/-! ### Reading a start of a line -/

/-- A start of a line that opens no section opens none either: its trimmed text starts as the
line's does. -/
theorem heading_of_start {q l : String} (hq : q.toList <+: l.toList)
    (hl : ¬ ['#', '#', ' '] <+: (Text.trim l).toList) : heading q = none :=
  heading_eq_none fun h => hl (h.trans (Text.trim_mono hq))

/-- A checklist line, trimmed, starts with its dash, so no start of it opens a section. -/
theorem heading_prefix_lineText (r : Requirement) {q : String} (hq : q.toList <+: (lineText r).toList) :
    heading q = none := by
  apply heading_of_start hq
  rintro ⟨t, ht⟩
  have hhead : (Text.trim (lineText r)).toList.head? = some '-' :=
    Text.trim_head_of (by simp [lineText, String.toList_append]) (by decide)
  rw [← ht] at hhead
  simp at hhead

/-- A line that starts with a character that is neither blank nor a dash nor a star is no
checklist entry. -/
theorem checkbox_eq_none_of_head {q : String} {ch : Char} (hq : q.toList.head? = some ch)
    (hblank : Text.isBlank ch = false) (hdash : ch ≠ '-') (hstar : ch ≠ '*') : checkbox q = none := by
  obtain ⟨rest, hrest⟩ := List.head?_eq_some_iff.1 hq
  unfold checkbox
  rw [hrest, Text.dropBlanks_of_head (by simpa using hblank)]
  simp [hdash, hstar]

/-- A start of a checklist line reads as no entry, or, once its closing bracket is there, as the
line's requirement with a start of its text. -/
theorem checkbox_prefix_lineText {r : Requirement} (ht : Text.trim r.text = r.text) {q : String}
    (hq : q.toList <+: (lineText r).toList) :
    checkbox q = none ∨ ∃ t : String, t.toList <+: r.text.toList ∧ checkbox q = some ⟨t, r.done⟩ := by
  obtain ⟨text, done⟩ := r
  have hchars : (lineText ⟨text, done⟩).toList =
      '-' :: ' ' :: '[' :: (if done then 'x' else ' ') :: ']' :: ' ' :: text.toList := by
    cases done <;> simp [lineText, String.toList_append]
  have hspace : Text.isBlank ' ' = true := by decide
  have hbracket : Text.isBlank '[' = false := by decide
  have hdash : Text.isBlank '-' = false := by decide
  rw [hchars, List.prefix_iff_eq_take] at hq
  unfold checkbox
  rw [hq]
  generalize q.toList.length = k
  -- the entry is read once the five characters up to the closing bracket are there
  rcases k with _ | _ | _ | _ | _ | k
  iterate 5
    · left
      cases done <;> simp [Text.dropBlanks, hspace, hbracket, hdash]
  right
  refine ⟨Text.trim (String.ofList (List.take k (' ' :: text.toList))), ?_, ?_⟩
  · cases k with
    | zero => simp [Text.trim, Text.dropBlanks]
    | succ k =>
      rw [List.take_succ_cons, Text.trim_blank_cons hspace, ← ht]
      simpa using Text.trim_mono (q := String.ofList (text.toList.take k))
        (by simpa using List.take_prefix k text.toList)
  · cases done <;> simp [Text.dropBlanks, hspace, hbracket, hdash]

/-! ### Reading the body of a start -/

/-- `rs'` is what is read of the checklist `rs` from a start of its lines: some first entries
whole, then possibly the next one with a start of its text. -/
inductive ReqCut : List Requirement → List Requirement → Prop
  | stop (rs : List Requirement) : ReqCut rs []
  | part (r : Requirement) (rs : List Requirement) {t : String} (ht : t.toList <+: r.text.toList) :
      ReqCut (r :: rs) [⟨t, r.done⟩]
  | whole (r : Requirement) {rs rs' : List Requirement} : ReqCut rs rs' → ReqCut (r :: rs) (r :: rs')

/-- The checklist `rs'` is `rs` with the text of its last entry cut to a start of it. -/
inductive LastCut : List Requirement → List Requirement → Prop
  | nil : LastCut [] []
  | last (r : Requirement) {t : String} (ht : t.toList <+: r.text.toList) :
      LastCut [r] [⟨t, r.done⟩]
  | cons (r : Requirement) {rs rs' : List Requirement} : LastCut rs rs' → LastCut (r :: rs) (r :: rs')

namespace ReqCut

theorem refl : ∀ rs : List Requirement, ReqCut rs rs
  | [] => .stop []
  | r :: rs => .whole r (refl rs)

theorem length_le {rs rs' : List Requirement} (h : ReqCut rs rs') : rs'.length ≤ rs.length := by
  induction h with
  | stop => simp
  | part => simp
  | whole _ _ ih => simpa using ih

/-- A cut that kept as many entries as there are cut at most the text of the last one. -/
theorem lastCut {rs rs' : List Requirement} (h : ReqCut rs rs') (hlen : rs'.length = rs.length) :
    LastCut rs rs' := by
  induction h with
  | stop rs =>
    cases rs with
    | nil => exact .nil
    | cons => simp at hlen
  | part r rs ht =>
    cases rs with
    | nil => exact .last r ht
    | cons => simp at hlen
  | whole r _ ih => exact .cons r (ih (by simpa using hlen))

end ReqCut

/-- Lines that open no section and hold no checklist entry leave the checklist as it is. -/
theorem foldl_unread {zs : List String} (h : ∀ z ∈ zs, heading z = none ∧ checkbox z = none)
    (rs : List Requirement) (ns : List String) :
    zs.foldl Body.step ⟨.requirements, rs, ns⟩ = ⟨.requirements, rs, ns⟩ := by
  induction zs with
  | nil => rfl
  | cons z zs ih =>
    obtain ⟨hh, hc⟩ := h z List.mem_cons_self
    rw [List.foldl_cons, show Body.step ⟨.requirements, rs, ns⟩ z = ⟨.requirements, rs, ns⟩ by
      simp [Body.step, hh, hc]]
    exact ih fun x hx => h x (List.mem_cons_of_mem _ hx)

/-- A cut of checklist lines read in the requirements section adds a cut of their
requirements. -/
theorem foldl_lineText_cut : ∀ {rs : List Requirement}, (∀ r ∈ rs, Text.trim r.text = r.text) →
    ∀ {zs : List String}, Text.LinesCut (rs.map lineText) zs →
    ∀ (acc : List Requirement) (ns : List String),
      ∃ rs', ReqCut rs rs' ∧
        zs.foldl Body.step ⟨.requirements, acc, ns⟩ = ⟨.requirements, acc ++ rs', ns⟩
  | [], _, _, .stop _, acc, ns => ⟨[], .stop [], by simp⟩
  | r :: rs, _, _, .stop _, acc, ns => ⟨[], .stop _, by simp⟩
  | r :: rs, h, _, .part _ _ hq _, acc, ns => by
    have ht := h r List.mem_cons_self
    have hh := heading_prefix_lineText r hq
    rcases checkbox_prefix_lineText ht hq with hc | ⟨t, hpre, hc⟩
    · exact ⟨[], .stop _, by simp [Body.step, hh, hc]⟩
    · exact ⟨[⟨t, r.done⟩], .part r rs hpre, by simp [Body.step, hh, hc]⟩
  | r :: rs, h, _, .whole _ hz, acc, ns => by
    have hstep : Body.step ⟨.requirements, acc, ns⟩ (lineText r) = ⟨.requirements, acc ++ [r], ns⟩ := by
      simp [Body.step, heading_lineText, checkbox_lineText (h r List.mem_cons_self)]
    obtain ⟨rs', hcut, hfold⟩ :=
      foldl_lineText_cut (fun x hx => h x (List.mem_cons_of_mem _ hx)) hz (acc ++ [r]) ns
    exact ⟨r :: rs', .whole r hcut, by rw [List.foldl_cons, hstep, hfold]; simp⟩

/-- Outside the notes, a line that starts with `#` adds nothing: it is a heading, or no
checklist entry. -/
theorem step_hash {b : Body} (hb : b.part ≠ .notes) {q : String} (hq : q.toList.head? = some '#') :
    (Body.step b q).requirements = b.requirements ∧ (Body.step b q).notes = b.notes := by
  have hc := checkbox_eq_none_of_head hq (by decide) (by decide) (by decide)
  unfold Body.step
  cases heading q with
  | some s => exact ⟨rfl, rfl⟩
  | none =>
    cases hp : b.part with
    | notes => exact absurd hp hb
    | requirements => simp [hc]
    | preamble | other => exact ⟨rfl, rfl⟩

/-- After the checklist, a cut of the blank line, the notes heading and the notes lines adds
nothing to the checklist and, as notes, a cut of the notes lines. -/
theorem foldl_tail_cut {notes : String} (hn : NotesForm notes) {zs : List String}
    (hz : Text.LinesCut ("" :: "## Notes" :: Text.lines notes) zs) (rs : List Requirement) :
    ∃ ns, Text.LinesCut (Text.lines notes) ns ∧
      (zs.foldl Body.step ⟨.requirements, rs, []⟩).requirements = rs ∧
      (zs.foldl Body.step ⟨.requirements, rs, []⟩).notes = ns := by
  cases hz with
  | stop => exact ⟨[], .stop _, rfl, rfl⟩
  | part _ _ hq hne => exact absurd (String.toList_eq_nil_iff.1 (by simpa using hq)) hne
  | whole _ hz =>
    have hgap : Body.step ⟨.requirements, rs, []⟩ "" = ⟨.requirements, rs, []⟩ := by
      simp [Body.step, show heading "" = none by decide, show checkbox "" = none by decide]
    rw [List.foldl_cons, hgap]
    cases hz with
    | stop => exact ⟨[], .stop _, rfl, rfl⟩
    | part _ _ hq hne =>
      -- a start of the notes heading is a heading of another section, or no entry
      have hstep := step_hash (b := ⟨.requirements, rs, []⟩) (by simp)
        ((Text.head?_of_start hq hne).trans (by decide))
      exact ⟨[], .stop _, by simpa using hstep.1, by simpa using hstep.2⟩
    | whole _ hz =>
      have hnotes : Body.step ⟨.requirements, rs, []⟩ "## Notes" = ⟨.notes, rs, []⟩ := by
        simp [Body.step, show heading "## Notes" = some .notes by decide]
      have hopen : ∀ z ∈ _, heading z = none :=
        hz.forall_mem fun l hl q hq => heading_of_start hq (hn.noHeading l hl)
      rw [List.foldl_cons, hnotes, foldl_notes hopen]
      exact ⟨_, hz, rfl, by simp⟩

/-- A cut of a checklist under its heading, followed by the lines `T`, reads as a cut of the
checklist and no notes, or as the whole checklist followed by a cut of `T`. -/
theorem foldl_checklist_cut {rs : List Requirement} (h : ∀ r ∈ rs, Text.trim r.text = r.text)
    {T zs : List String} (hz : Text.LinesCut ("## Requirements" :: rs.map lineText ++ T) zs) :
    (∃ rs', ReqCut rs rs' ∧ (zs.foldl Body.step {}).requirements = rs' ∧
        (zs.foldl Body.step {}).notes = []) ∨
      ∃ zs', Text.LinesCut T zs' ∧
        zs.foldl Body.step {} = zs'.foldl Body.step ⟨.requirements, rs, []⟩ := by
  cases hz with
  | stop => exact .inl ⟨[], .stop _, rfl, rfl⟩
  | part _ _ hq hne =>
    -- a start of the checklist heading opens another section, or none
    have hstep := step_hash (b := {}) (by decide) ((Text.head?_of_start hq hne).trans (by decide))
    exact .inl ⟨[], .stop _, by simpa using hstep.1, by simpa using hstep.2⟩
  | whole _ hz =>
    have hreq : Body.step {} "## Requirements" = ⟨.requirements, [], []⟩ := by
      simp [Body.step, show heading "## Requirements" = some .requirements by decide]
    rw [List.foldl_cons, hreq]
    rcases Text.LinesCut.of_append hz with hz | ⟨zs', rfl, hT⟩
    · obtain ⟨rs', hcut, hfold⟩ := foldl_lineText_cut h hz [] []
      exact .inl ⟨rs', hcut, by simp [hfold], by simp [hfold]⟩
    · refine .inr ⟨zs', hT, ?_⟩
      rw [List.foldl_append, foldl_lineText h, List.nil_append]

/-- The lines of a start of a card's body read as a cut of its checklist and a cut of its notes'
lines. -/
theorem foldl_body_cut {c : TaskCard} (hc : c.Canonical) {zs : List String}
    (hz : Text.LinesCut c.bodyLines zs) :
    ∃ rs ns, ReqCut c.requirements rs ∧ Text.LinesCut (Text.lines c.notes) ns ∧
      (zs.foldl Body.step {}).requirements = rs ∧ (zs.foldl Body.step {}).notes = ns := by
  rw [bodyLines] at hz
  rcases foldl_checklist_cut (fun r hr => (hc.texts r hr).1) hz with
    ⟨rs, hcut, hreq, hnotes⟩ | ⟨zs', hT, hfold⟩
  · exact ⟨rs, [], hcut, .stop _, hreq, hnotes⟩
  · obtain ⟨ns, hns, hreq, hnotes⟩ := foldl_tail_cut hc.notes hT c.requirements
    exact ⟨c.requirements, ns, ReqCut.refl _, hns, by rw [hfold, hreq], by rw [hfold, hnotes]⟩

/-! ### Reading a start of a card's text -/

/-- Joining a cut of lines that start with a line that is not empty drops no leading empty
line. -/
theorem joinBody_cut {l : String} {B zs : List String} (h : Text.LinesCut (l :: B) zs)
    (hl : l ≠ "") : Card.joinBody zs = "\n".intercalate zs := by
  unfold Card.joinBody
  cases h with
  | stop => rfl
  | part _ _ _ hne =>
    have he : _ = false := Bool.eq_false_iff.2 fun h => hne (String.isEmpty_iff.1 h)
    simp [List.dropWhile, he]
  | whole _ _ =>
    have he : l.isEmpty = false := Bool.eq_false_iff.2 fun h => hl (String.isEmpty_iff.1 h)
    simp [List.dropWhile, he]

/-- A start of the text of a card's front matter followed by the lines `B` is torn, or it holds
the card's front matter whole and a body whose lines are a cut of `B`. -/
theorem reads_cut_of_start {c : TaskCard} {l : String} {B : List String}
    (hB : ∀ x ∈ l :: B, Text.IsLine x) (hl : l ≠ "") {p : String}
    (hp : p.toList <+: (c.withBody (l :: B)).toList) :
    (∃ m, parse p = .error (.torn m)) ∨
      ∃ body zs, fenced p = true ∧ Card.Parts.ofText p = ⟨some c.matterText, body⟩ ∧
        Text.lines body = zs ∧ Text.LinesCut (l :: B) zs := by
  cases hf : fenced p with
  | false => exact .inl ⟨_, parse_unfenced hf⟩
  | true =>
    rcases parts_of_start hB hp with hnone | ⟨zs, hz, hparts⟩
    · exact .inl ⟨_, parse_no_matter hf hnone⟩
    · refine .inr ⟨_, _, rfl, hparts, rfl, ?_⟩
      rw [joinBody_cut hz hl]
      exact hz.lines_intercalate hB

/-- What reading a start of the text of `c` may answer besides torn: `c` itself, except that its
last requirement may keep only a start of its text, and its notes only a start of them,
trimmed. -/
def CutShort (c c' : TaskCard) : Prop :=
  ∃ rs n, LastCut c.requirements rs ∧ n.toList <+: c.notes.toList ∧
    c' = { c with requirements := rs, notes := Text.trim n }

/-- A start of a card's text reads as torn, or as the card cut short. -/
theorem parse_prefix_cases {c : TaskCard} (hc : c.Canonical)
    (hyaml : Yaml.Node.readsAs c.matterText c.matterNode = true) {p : String}
    (hp : p.toList <+: c.render.toList) :
    (∃ m, parse p = .error (.torn m)) ∨ ∃ c', parse p = .ok c' ∧ CutShort c c' := by
  have hbody : c.bodyLines =
      "## Requirements" :: (c.requirements.map lineText ++ "" :: "## Notes" :: Text.lines c.notes) :=
    rfl
  rw [render_withBody hc, hbody] at hp
  rcases reads_cut_of_start (hbody ▸ bodyLines_isLine hc) (by decide) hp with
    htorn | ⟨body, zs, hf, hparts, hlines, hz⟩
  · exact .inl htorn
  rw [← hbody] at hz
  obtain ⟨rs, ns, hcut, hns, hreq, hnotes⟩ := foldl_body_cut hc hz
  rw [parse_of_parts hc hyaml hf hparts (by rw [hlines]), hreq, hnotes]
  have hle := hcut.length_le
  split_ifs with hlt hgt
  · exact .inl ⟨_, rfl⟩
  · omega
  · -- every requirement was read: only the last one's text and the notes can be cut
    have hpre : ("\n".intercalate ns).toList <+: c.notes.toList := by
      simpa [Text.intercalate_lines hc.notes.noReturn hc.notes.not_ends_newline] using
        hns.prefix_intercalate
    exact .inr ⟨_, rfl, rs, _, hcut.lastCut (by omega), hpre, rfl⟩

/-! ### Starts that are torn -/

/-- A card's text up to the end of its closing fence. -/
def headText (c : TaskCard) : String := "---" ++ "\n" ++ c.matterText ++ "\n" ++ "---"

/-- A card's text up to the closing bracket of its last checkbox, that bracket left out, when its
checklist is `rs` followed by `r`. -/
def boxText (c : TaskCard) (rs : List Requirement) (r : Requirement) : String :=
  c.headText ++ "\n" ++ "## Requirements" ++ "\n" ++ String.join (rs.map Requirement.line) ++ "- [" ++
    (if r.done then "x" else " ")

/-- The opening fence and the field lines, each ended by a line break, are the opening fence and
the front matter. -/
theorem join_open (c : TaskCard) (T : List String) :
    String.join (("---" :: c.fieldLines ++ T).map (· ++ "\n")) =
      "---" ++ "\n" ++ c.matterText ++ "\n" ++ String.join (T.map (· ++ "\n")) := by
  have hne : c.fieldLines ≠ [] := by simp [fieldLines]
  simp only [List.cons_append, List.map_cons, List.map_append, String.join_cons,
    String.join_append, Text.join_terminated hne, matterText, String.append_assoc]

theorem withBody_eq (c : TaskCard) (B : List String) :
    c.withBody B = c.headText ++ "\n" ++ String.join (B.map (· ++ "\n")) := by
  simp only [withBody, join_open, headText, List.map_cons, String.join_cons, String.append_assoc]

/-- A text whose lines are a cut of an opening fence followed by lines that hold no fence, even
in part, is not closed. -/
theorem fenced_of_cut {M : List String}
    (hM : ∀ l ∈ M, ∀ q : String, q.toList <+: l.toList → Card.isFence q = false) {p : String}
    (h : Text.LinesCut ("---" :: M) (Text.lines p)) : fenced p = false := by
  unfold fenced
  generalize Text.lines p = ls at h
  cases h with
  | stop => rfl
  | part => simp
  | whole _ h =>
    have hno := h.forall_mem hM
    simp only [Bool.and_eq_false_iff, List.any_eq_false]
    exact .inr fun z hz => by simpa [fenced.isFenceLine, Card.isFence] using hno z hz

/-- A start of a card's text that stops before its closing fence is whole is torn: it is not
closed. -/
theorem parse_before_fence {c : TaskCard} (hc : c.Canonical) {p : String}
    (hp : p.toList <+: c.render.toList) (hlen : p.toList.length < c.headText.toList.length) :
    ∃ m, parse p = .error (.torn m) := by
  -- the start stops before the last dash of the fence
  obtain ⟨short, hshort_def⟩ : ∃ s : String, s = "---" ++ "\n" ++ c.matterText ++ "\n" ++ "--" :=
    ⟨_, rfl⟩
  have hhead : c.headText = short ++ "-" := by
    rw [hshort_def]
    simp only [headText, String.append_assoc]
    rfl
  have hshort : short.toList <+: c.render.toList := by
    rw [render_withBody hc, withBody_eq, hhead]
    simp [String.toList_append]
  have hpre : p.toList <+: short.toList := by
    refine List.prefix_of_prefix_length_le hp hshort ?_
    rw [hhead, String.toList_append, List.length_append,
      show "-".toList.length = 1 from rfl] at hlen
    omega
  have hlines : ∀ l ∈ "---" :: c.fieldLines ++ ["--"], Text.IsLine l := by
    intro l hl
    simp only [List.cons_append, List.mem_cons, List.mem_append, List.not_mem_nil, or_false] at hl
    rcases hl with rfl | hl | rfl
    · decide
    · exact fieldLines_isLine c l hl
    · decide
  have hcut := Text.lines_of_start hlines (p := p) (by
    rw [join_open]
    exact hpre.trans (by simp [hshort_def, String.toList_append]))
  refine ⟨_, parse_unfenced (fenced_of_cut ?_ hcut)⟩
  intro l hl q hq
  simp only [List.append_eq, List.mem_append, List.mem_singleton] at hl
  rcases hl with hl | rfl
  · exact fieldLines_prefix_not_fence c l hl q hq
  · exact Card.isFence_prefix_fence (hq.trans (by decide))
      fun h => by simpa [h] using hq.length_le

theorem map_line (rs : List Requirement) :
    rs.map Requirement.line = rs.map fun r => lineText r ++ "\n" := rfl

/-- The text up to the last checkbox's bracket, with a line break, is the front matter followed by
the checklist heading, the first checklist lines and the open box. -/
theorem boxText_newline (c : TaskCard) (rs : List Requirement) (r : Requirement) :
    c.boxText rs r ++ "\n" =
      c.withBody ("## Requirements" :: (rs.map lineText ++ ["- [" ++ (if r.done then "x" else " ")])) := by
  rw [withBody_eq]
  simp only [boxText, map_line, List.map_cons, List.map_append, List.map_map, Function.comp_def,
    List.map_nil, String.join_cons, String.join_append, String.join_nil, String.append_empty,
    String.append_assoc]

/-- The text up to the last checkbox's bracket is a start of the card's text. -/
theorem boxText_prefix_render {c : TaskCard} (hc : c.Canonical) {rs : List Requirement} {r : Requirement}
    (hreq : c.requirements = rs ++ [r]) : (c.boxText rs r).toList <+: c.render.toList := by
  have htext : c.render = c.boxText rs r ++ ("] " ++ r.text ++ "\n" ++
      String.join (("" :: "## Notes" :: Text.lines c.notes).map (· ++ "\n"))) := by
    rw [render_withBody hc, withBody_eq, bodyLines, hreq]
    simp only [boxText, map_line, lineText, List.map_cons, List.map_append, List.map_map,
      Function.comp_def, List.map_nil, String.join_cons, String.join_append, String.join_nil,
      String.append_empty, String.append_assoc]
  rw [htext, String.toList_append]
  exact List.prefix_append _ _

/-- No start of an open box, before its closing bracket, opens a section or holds an entry. -/
theorem boxOpen_prefix_unread (done : Bool) {z : String}
    (hz : z.toList <+: ("- [" ++ (if done then "x" else " ")).toList) :
    heading z = none ∧ checkbox z = none := by
  have hchars : ("- [" ++ (if done then "x" else " ")).toList =
      ['-', ' ', '[', if done then 'x' else ' '] := by
    cases done <;> rfl
  rw [hchars, List.prefix_iff_eq_take] at hz
  have hz' : z = String.ofList (List.take z.toList.length
      ['-', ' ', '[', if done then 'x' else ' ']) := by
    rw [← hz, String.ofList_toList]
  rw [hz']
  generalize z.toList.length = k
  rcases k with _ | _ | _ | _ | k
  iterate 4 (cases done <;> decide)
  rw [List.take_of_length_le (by simp)]
  cases done <;> decide

/-- A start of a card's text that stops before the closing bracket of its last checkbox is torn:
it holds fewer checklist entries than the card announces. -/
theorem parse_before_last_box {c : TaskCard} (hc : c.Canonical)
    (hyaml : Yaml.Node.readsAs c.matterText c.matterNode = true) {p : String}
    (hp : p.toList <+: c.render.toList) {rs : List Requirement} {r : Requirement}
    (hreq : c.requirements = rs ++ [r]) (hlen : p.toList.length ≤ (c.boxText rs r).toList.length) :
    ∃ m, parse p = .error (.torn m) := by
  have hmem : ∀ x ∈ rs, x ∈ c.requirements := fun x hx => by simp [hreq, hx]
  have htexts : ∀ x ∈ rs, Text.trim x.text = x.text := fun x hx => (hc.texts x (hmem x hx)).1
  have hpre := (List.prefix_of_prefix_length_le hp (boxText_prefix_render hc hreq) hlen).trans
    (List.prefix_append _ ("\n".toList))
  rw [← String.toList_append, boxText_newline] at hpre
  have hlines : ∀ l ∈ "## Requirements" :: (rs.map lineText ++ ["- [" ++ (if r.done then "x" else " ")]),
      Text.IsLine l := by
    intro l hl
    simp only [List.mem_cons, List.mem_append, List.mem_map, List.not_mem_nil, or_false] at hl
    rcases hl with rfl | ⟨x, hx, rfl⟩ | rfl
    · decide
    · exact lineText_isLine (htexts x hx) (hc.texts x (hmem x hx)).2
    · cases r.done <;> decide
  rcases reads_cut_of_start hlines (by decide) hpre with htorn | ⟨body, zs, hf, hparts, hbody, hz⟩
  · exact htorn
  -- at most the entries before the last one are read
  have hfold : (zs.foldl Body.step {}).requirements.length ≤ rs.length := by
    rcases foldl_checklist_cut htexts hz with ⟨rs', hcut, hr, -⟩ | ⟨zs', hT, hfold⟩
    · rw [hr]
      exact hcut.length_le
    · have hunread := hT.forall_mem fun l hl q hq => by
        rw [List.mem_singleton] at hl
        subst hl
        exact boxOpen_prefix_unread r.done hq
      rw [hfold, foldl_unread hunread]
  rw [parse_of_parts hc hyaml hf hparts (by rw [hbody]),
    if_pos (by rw [hreq, List.length_append, List.length_singleton]; omega)]
  exact ⟨_, rfl⟩

/-! ### Every start of a card's text -/

/-- Reading any start of the text of a card in form never answers malformed: it answers torn, or
the card with at most its last requirement's text and its notes cut short; and a start that stops
before the closing fence is whole, or before the closing bracket of the last checkbox, is torn. -/
theorem parse_prefix_render (c : TaskCard) (hc : c.Canonical)
    (hyaml : Yaml.Node.readsAs c.matterText c.matterNode = true) (p : String)
    (hp : p.toList <+: c.render.toList) :
    ((∃ m, parse p = .error (.torn m)) ∨ ∃ c', parse p = .ok c' ∧ CutShort c c') ∧
      (p.toList.length < c.headText.toList.length → ∃ m, parse p = .error (.torn m)) ∧
      (∀ rs r, c.requirements = rs ++ [r] → p.toList.length ≤ (c.boxText rs r).toList.length →
        ∃ m, parse p = .error (.torn m)) :=
  ⟨parse_prefix_cases hc hyaml hp, parse_before_fence hc hp,
    fun _ _ hreq hlen => parse_before_last_box hc hyaml hp hreq hlen⟩

/-- The text of a fresh card of a build stage, cut inside the text of its one requirement. -/
theorem build_card_copy_cut :
    ((∃ m, parse (String.ofList ((CardBook.fresh "card-1" "epic-1" ⟨"BUILD"⟩ "add feature X" ["Tests pass"] "" "2024-01-01").render.toList.take 200)) = .error (.torn m)) ∨ ∃ c', parse (String.ofList ((CardBook.fresh "card-1" "epic-1" ⟨"BUILD"⟩ "add feature X" ["Tests pass"] "" "2024-01-01").render.toList.take 200)) = .ok c' ∧ CutShort (CardBook.fresh "card-1" "epic-1" ⟨"BUILD"⟩ "add feature X" ["Tests pass"] "" "2024-01-01") c') ∧
      ((String.ofList ((CardBook.fresh "card-1" "epic-1" ⟨"BUILD"⟩ "add feature X" ["Tests pass"] "" "2024-01-01").render.toList.take 200)).toList.length < (CardBook.fresh "card-1" "epic-1" ⟨"BUILD"⟩ "add feature X" ["Tests pass"] "" "2024-01-01").headText.toList.length → ∃ m, parse (String.ofList ((CardBook.fresh "card-1" "epic-1" ⟨"BUILD"⟩ "add feature X" ["Tests pass"] "" "2024-01-01").render.toList.take 200)) = .error (.torn m)) ∧
      (∀ rs r, (CardBook.fresh "card-1" "epic-1" ⟨"BUILD"⟩ "add feature X" ["Tests pass"] "" "2024-01-01").requirements = rs ++ [r] → (String.ofList ((CardBook.fresh "card-1" "epic-1" ⟨"BUILD"⟩ "add feature X" ["Tests pass"] "" "2024-01-01").render.toList.take 200)).toList.length ≤ ((CardBook.fresh "card-1" "epic-1" ⟨"BUILD"⟩ "add feature X" ["Tests pass"] "" "2024-01-01").boxText rs r).toList.length →
        ∃ m, parse (String.ofList ((CardBook.fresh "card-1" "epic-1" ⟨"BUILD"⟩ "add feature X" ["Tests pass"] "" "2024-01-01").render.toList.take 200)) = .error (.torn m)) :=
  parse_prefix_render _
    (CardBook.fresh_canonical (by decide) (by decide) (by decide) (by decide) (by decide) (by decide)
      (by decide))
    (by decide +kernel) _ (by simpa using List.take_prefix _ _)

end TaskCard

end EpicFlow
