import EpicFlow.Proofs.TextLines
import EpicFlow.Card.Matter

/-!
# A card's text reads back as the card

`TaskCard.render` writes a card as a fenced YAML front matter (texts quoted, the requirement
count, the timestamps, the signals' codes) followed by a markdown body (a checklist under
`## Requirements`, then the notes under `## Notes`); `TaskCard.parse` reads it back. For a card
in the form the text keeps (`TaskCard.Canonical`: trimmed texts without line breaks, notes that
open no section, timestamps that are absent or not blank, distinct signals that read as
themselves), reading its text gives the card back (`parse_render`).

The YAML reader is the one part taken as given: the round trip asks of it that it read the
card's front matter as the mapping of its fields (`Yaml.Node.readsAs`, a check that runs on any
given card). Everything after it is shown here: the front matter is split off at the first
fence; its mapping reads as the card's fields; every line of the text is a line, quoted texts
included; the body lines are read back, each checklist line as its requirement and the notes
line by line; blank timestamps and repeated signals, which the reader drops, do not occur.

Main statements:

* `TaskCard.lines_render`: the lines of a card's text are its text lines.
* `TaskCard.parts_render`: the text splits into its front matter and its body.
* `TaskCard.foldl_bodyLines`: the body reads back as the requirements and the notes' lines.
* `TaskCard.parse_render`: a card in form reads back from its text.
-/

set_option autoImplicit false

namespace EpicFlow

namespace Yaml

mutual

/-- Structural equality of nodes is equality. -/
theorem Node.eq_of_same : ∀ {a b : Node}, a.same b = true → a = b
  | .seq xs, b, h => by
    cases b with
    | seq ys => exact congrArg Node.seq (Node.eq_of_sameItems h)
    | _ => simp [Node.same] at h
  | .map xs, b, h => by
    cases b with
    | map ys => exact congrArg Node.map (Node.eq_of_sameEntries h)
    | _ => simp [Node.same] at h
  | .null, b, h | .bool _, b, h | .int _, b, h | .real _, b, h | .str _, b, h | .bad, b, h => by
    cases b <;> simp_all [Node.same]

theorem Node.eq_of_sameItems : ∀ {xs ys : List Node}, Node.sameItems xs ys = true → xs = ys
  | [], [], _ => rfl
  | x :: xs, y :: ys, h => by
    simp only [Node.sameItems, Bool.and_eq_true] at h
    rw [Node.eq_of_same h.1, Node.eq_of_sameItems h.2]
  | [], _ :: _, h => by simp [Node.sameItems] at h
  | _ :: _, [], h => by simp [Node.sameItems] at h

theorem Node.eq_of_sameEntries :
    ∀ {xs ys : List (Node × Node)}, Node.sameEntries xs ys = true → xs = ys
  | [], [], _ => rfl
  | (a, b) :: xs, (c, d) :: ys, h => by
    simp only [Node.sameEntries, Bool.and_eq_true] at h
    rw [Node.eq_of_same h.1.1, Node.eq_of_same h.1.2, Node.eq_of_sameEntries h.2]
  | [], _ :: _, h => by simp [Node.sameEntries] at h
  | _ :: _, [], h => by simp [Node.sameEntries] at h

end

/-- The text reads as the node: its first document is that node. -/
def Node.readsAs (text : String) (n : Node) : Bool :=
  match Node.ofText text with
  | .ok (some m) => m.same n
  | _ => false

theorem Node.ofText_of_readsAs {text : String} {n : Node} (h : Node.readsAs text n = true) :
    Node.ofText text = .ok (some n) := by
  unfold Node.readsAs at h
  split at h
  · rename_i m hm
    rw [hm, Node.eq_of_same h]
  · cases h

end Yaml

namespace Card

/-- A line that starts with a character neither blank nor a dash is not a fence. -/
theorem isFence_eq_false (ch : Char) {s : String} (hs : s.toList.head? = some ch)
    (hch : Text.isBlank ch = false) (hne : ch ≠ '-') : isFence s = false := by
  have h := Text.trimEnd_head hs hch
  unfold isFence
  rw [beq_eq_false_iff_ne]
  intro heq
  rw [heq] at h
  exact hne (by simpa using h.symm)

/-- The matter runs to the first fence. -/
theorem matterLines_fence : ∀ (ls : List String), (∀ l ∈ ls, isFence l = false) →
    ∀ (rest acc : List String), matterLines (ls ++ "---" :: rest) acc = some (acc.reverse ++ ls, rest)
  | [], _, rest, acc => by simp [matterLines, show isFence "---" = true by decide]
  | l :: ls, h, rest, acc => by
    rw [List.cons_append, matterLines, if_neg (by simp [h l List.mem_cons_self]),
      matterLines_fence ls (fun x hx => h x (List.mem_cons_of_mem _ hx))]
    simp

end Card

namespace TaskCard

/-! ### The lines of a card's text -/

/-- A `name: "value"` line without its line break, or `name:` when absent. -/
def stampText (name : String) : Option String → String
  | some v => name ++ ": " ++ Json.quote v
  | none => name ++ ":"

theorem optionalLine_eq (name : String) (v : Option String) :
    optionalLine name v = stampText name v ++ "\n" := by
  cases v with
  | some v => rfl
  | none => simp only [optionalLine, stampText, String.append_assoc]; rfl

/-- A checklist line without its line break. -/
def lineText (r : Requirement) : String := "- [" ++ (if r.done then "x" else " ") ++ "] " ++ r.text

/-- The lines of a card's front matter. -/
def fieldLines (c : TaskCard) : List String :=
  ["card_id: " ++ Json.quote c.cardId, "epic_id: " ++ Json.quote c.epicId,
    "stage: " ++ Json.quote c.stage.val, "objective: " ++ Json.quote c.objective,
    "requirement_count: " ++ Text.natText c.requirements.length, stampText "created" c.created,
    stampText "started" c.started, stampText "completed" c.completed,
    "signals: [" ++ ", ".intercalate (c.signals.map fun s => Json.quote s.code) ++ "]"]

/-- A card's front matter: its field lines, without the fences around them. -/
def matterText (c : TaskCard) : String := "\n".intercalate c.fieldLines

/-- The lines of a card's body: its checklist, then its notes. -/
def bodyLines (c : TaskCard) : List String :=
  "## Requirements" :: c.requirements.map lineText ++ "" :: "## Notes" :: Text.lines c.notes

/-- The lines of a card's text: the front matter between its fences, then the body. -/
def textLines (c : TaskCard) : List String := "---" :: c.fieldLines ++ "---" :: c.bodyLines

/-- A card's notes are one text of lines: trimmed, without carriage returns, and no line opens
a section (`## `, once trimmed). -/
structure NotesForm (notes : String) : Prop where
  trimmed : Text.trim notes = notes
  noReturn : '\r' ∉ notes.toList
  noHeading : ∀ l ∈ Text.lines notes, ¬ ['#', '#', ' '] <+: (Text.trim l).toList

theorem NotesForm.not_ends_newline {notes : String} (h : NotesForm notes) :
    notes.toList.getLast? ≠ some '\n' := by
  intro hl
  have := Text.trim_getLast h.trimmed '\n' hl
  simp [Text.isBlank] at this

/-- A timestamp as a card's text keeps it: absent, or a trimmed text that is not empty. -/
def StampForm (v : Option String) : Prop := ∀ s, v = some s → Text.trim s = s ∧ s ≠ ""

/-- A card in the form its text keeps: its stage reads as itself; each requirement text is
trimmed and has no line break; it has fewer requirements than a 64-bit count holds; its notes
are in form; its timestamps are absent or trimmed and not empty; and its signals are distinct,
each the signal its own code reads as. -/
structure Canonical (c : TaskCard) : Prop where
  stage : StageName.parse c.stage.val = .ok c.stage
  texts : ∀ r ∈ c.requirements, Text.trim r.text = r.text ∧ '\n' ∉ r.text.toList
  count : c.requirements.length < Nat.pow 2 64
  notes : NotesForm c.notes
  created : StampForm c.created
  started : StampForm c.started
  completed : StampForm c.completed
  signalsNodup : c.signals.Nodup
  signals : ∀ s ∈ c.signals, Signal.parse s.code = .ok s

/-! ### The text is its lines -/

/-- The notes part of the text, line by line. -/
theorem notesText_eq {notes : String} (h : NotesForm notes) :
    (if notes.isEmpty then "" else Text.trimEnd notes ++ "\n") =
      String.join ((Text.lines notes).map (· ++ "\n")) := by
  by_cases he : notes = ""
  · subst he
    rfl
  · have hlines : Text.lines notes ≠ [] := by
      intro hl
      apply he
      rw [← Text.intercalate_lines h.noReturn h.not_ends_newline, hl, String.intercalate_nil]
    rw [if_neg (by simpa using he), Text.trimEnd_eq_self h.trimmed, Text.join_terminated hlines,
      Text.intercalate_lines h.noReturn h.not_ends_newline]

/-- With its notes in form, a card's text is its lines, each ended by a line break. -/
theorem render_eq (c : TaskCard) (h : NotesForm c.notes) :
    c.render = String.join (c.textLines.map (· ++ "\n")) := by
  have hreq : c.requirements.map Requirement.line = (c.requirements.map lineText).map (· ++ "\n") := by
    simp only [List.map_map, Function.comp_def]
    rfl
  unfold render
  rw [notesText_eq h, textLines, fieldLines, bodyLines, hreq]
  simp only [List.map_cons, List.map_append, String.join_cons, String.join_append, optionalLine_eq,
    List.cons_append, List.nil_append]
  apply String.toList_injective
  simp [String.toList_append]

/-- Every line of the front matter is a line: its texts are quoted, so their line breaks are
escaped. -/
theorem fieldLines_isLine (c : TaskCard) : ∀ l ∈ c.fieldLines, Text.IsLine l := by
  have hstamp : ∀ (name : String), '\n' ∉ name.toList → Text.IsLine (name ++ ":") →
      ∀ v, Text.IsLine (stampText name v) := by
    intro name hname hbare v
    cases v with
    | some v =>
      exact Text.IsLine.append (by simpa [String.toList_append] using hname) (Json.isLine_quote v)
        (Json.quote_ne_empty v)
    | none => exact hbare
  have hsignals : '\n' ∉ (", ".intercalate (c.signals.map fun s => Json.quote s.code)).toList :=
    Text.newline_not_mem_intercalate (by decide) (by simp [Json.newline_not_mem_quote])
  simp only [fieldLines, List.mem_cons, List.not_mem_nil, or_false]
  rintro l (rfl | rfl | rfl | rfl | rfl | rfl | rfl | rfl | rfl)
  · exact Text.IsLine.append (by decide) (Json.isLine_quote _) (Json.quote_ne_empty _)
  · exact Text.IsLine.append (by decide) (Json.isLine_quote _) (Json.quote_ne_empty _)
  · exact Text.IsLine.append (by decide) (Json.isLine_quote _) (Json.quote_ne_empty _)
  · exact Text.IsLine.append (by decide) (Json.isLine_quote _) (Json.quote_ne_empty _)
  · exact Text.IsLine.append (by decide) (Text.isLine_natText _) (Text.natText_ne_empty _)
  · exact hstamp _ (by decide) (by decide) _
  · exact hstamp _ (by decide) (by decide) _
  · exact hstamp _ (by decide) (by decide) _
  · exact Text.IsLine.append (by simpa [String.toList_append] using hsignals) (by decide) (by decide)

/-- A checklist line of a trimmed text without line breaks is a line. -/
theorem lineText_isLine {r : Requirement} (ht : Text.trim r.text = r.text) (hn : '\n' ∉ r.text.toList) :
    Text.IsLine (lineText r) := by
  have hbox : Text.IsLine ("- [" ++ (if r.done then "x" else " ") ++ "] ") := by
    cases r.done <;> decide
  by_cases he : r.text = ""
  · rw [lineText, he, String.append_empty]
    exact hbox
  · -- a trimmed text ends with a character that is not blank, so not with a carriage return
    have hlast : r.text.toList.getLast? ≠ some '\r' := fun h => by
      simpa [Text.isBlank] using Text.trim_getLast ht '\r' h
    exact Text.IsLine.append hbox.1 ⟨hn, hlast⟩ he

theorem bodyLines_isLine {c : TaskCard} (hc : c.Canonical) : ∀ l ∈ c.bodyLines, Text.IsLine l := by
  intro l hl
  simp only [bodyLines, List.mem_cons, List.mem_append, List.mem_map] at hl
  rcases hl with (rfl | ⟨r, hr, rfl⟩) | rfl | rfl | hl
  · decide
  · exact lineText_isLine (hc.texts r hr).1 (hc.texts r hr).2
  · decide
  · decide
  · exact Text.lines_isLine hc.notes.noReturn l hl

theorem textLines_isLine {c : TaskCard} (hc : c.Canonical) : ∀ l ∈ c.textLines, Text.IsLine l := by
  intro l hl
  simp only [textLines, List.mem_cons, List.mem_append] at hl
  rcases hl with (rfl | hl) | rfl | hl
  · decide
  · exact fieldLines_isLine c l hl
  · decide
  · exact bodyLines_isLine hc l hl

/-- The lines of a card's text in form are its text lines. -/
theorem lines_render {c : TaskCard} (hc : c.Canonical) : Text.lines c.render = c.textLines := by
  rw [render_eq c hc.notes]
  exact Text.lines_terminated (textLines_isLine hc)

/-! ### Splitting off the front matter -/

theorem fieldLines_not_fence (c : TaskCard) : ∀ l ∈ c.fieldLines, Card.isFence l = false := by
  simp only [fieldLines, List.mem_cons, List.not_mem_nil, or_false]
  rintro l (rfl | rfl | rfl | rfl | rfl | rfl | rfl | rfl | rfl)
  · exact Card.isFence_eq_false 'c' (by simp [String.toList_append]) (by decide) (by decide)
  · exact Card.isFence_eq_false 'e' (by simp [String.toList_append]) (by decide) (by decide)
  · exact Card.isFence_eq_false 's' (by simp [String.toList_append]) (by decide) (by decide)
  · exact Card.isFence_eq_false 'o' (by simp [String.toList_append]) (by decide) (by decide)
  · exact Card.isFence_eq_false 'r' (by simp [String.toList_append]) (by decide) (by decide)
  · exact Card.isFence_eq_false 'c' (by cases c.created <;> simp [stampText, String.toList_append])
      (by decide) (by decide)
  · exact Card.isFence_eq_false 's' (by cases c.started <;> simp [stampText, String.toList_append])
      (by decide) (by decide)
  · exact Card.isFence_eq_false 'c' (by cases c.completed <;> simp [stampText, String.toList_append])
      (by decide) (by decide)
  · exact Card.isFence_eq_false 's' (by simp [String.toList_append]) (by decide) (by decide)

/-- The front matter starts with the card id's field and ends with the closing bracket of the
signals, so there is nothing to trim. -/
theorem matterText_head (c : TaskCard) : c.matterText.toList.head? = some 'c' := by
  simp only [matterText, fieldLines, String.intercalate_cons_cons, String.toList_append,
    List.head?_append]
  rw [show "card_id: ".toList.head? = some 'c' from rfl]
  simp only [Option.some_or]

theorem trim_matterText (c : TaskCard) : Text.trim c.matterText = c.matterText := by
  apply Text.trim_eq_self
  · rw [matterText_head]
    simp only [Option.mem_def, Option.some.injEq, forall_eq']
    decide
  · simp only [matterText, fieldLines, String.intercalate_cons_cons, String.intercalate_singleton,
      String.toList_append, List.getLast?_append]
    rw [show "]".toList.getLast? = some ']' from rfl]
    simp only [Option.some_or, Option.mem_def, Option.some.injEq, forall_eq']
    decide

/-- A card's text in form splits into its front matter and its body lines joined. -/
theorem parts_render {c : TaskCard} (hc : c.Canonical) :
    Card.Parts.ofText c.render = ⟨some c.matterText, "\n".intercalate c.bodyLines⟩ := by
  have hjoin := render_eq c hc.notes
  simp only [textLines, List.cons_append, List.map_cons, String.join_cons] at hjoin
  -- the text is the opening fence, a line break, and the lines after it
  have hsize : ¬ c.render.utf8ByteSize ≤ 3 := by
    rw [hjoin, String.utf8ByteSize_append, String.utf8ByteSize_append,
      show "---".utf8ByteSize = 3 by decide, show "\n".utf8ByteSize = 1 by decide]
    omega
  have hrest : Text.lines (String.join ((c.fieldLines ++ "---" :: c.bodyLines).map (· ++ "\n"))) =
      c.fieldLines ++ "---" :: c.bodyLines :=
    Text.lines_terminated fun l hl => textLines_isLine hc l (by
      rw [textLines, List.cons_append]
      exact List.mem_cons_of_mem _ hl)
  unfold Card.Parts.ofText
  rw [if_neg hsize, hjoin, Text.splitOnce_line (by decide)]
  dsimp only
  rw [if_pos (by decide), hrest, Card.matterLines_fence _ (fieldLines_not_fence c)]
  have hne : c.matterText.isEmpty = false := by
    rw [Bool.eq_false_iff]
    intro he
    have := matterText_head c
    rw [String.isEmpty_iff.1 he] at this
    cases this
  have hbody : Card.joinBody c.bodyLines = "\n".intercalate c.bodyLines := by
    simp [Card.joinBody, bodyLines]
  simp only [List.reverse_nil, List.nil_append, ← matterText.eq_1, trim_matterText, hne, hbody,
    Bool.false_eq_true, if_false]

/-! ### Reading the front matter -/

/-- An optional timestamp as a YAML node: a text, or null. -/
def stampNode : Option String → Yaml.Node
  | some s => .str s
  | none => .null

/-- A card's front matter as a YAML mapping: its texts as strings, its requirement count as an
integer, its timestamps as strings or null, and its signals' codes as a sequence. -/
def matterNode (c : TaskCard) : Yaml.Node :=
  .map [(.str "card_id", .str c.cardId), (.str "epic_id", .str c.epicId),
    (.str "stage", .str c.stage.val), (.str "objective", .str c.objective),
    (.str "requirement_count", .int c.requirements.length), (.str "created", stampNode c.created),
    (.str "started", stampNode c.started), (.str "completed", stampNode c.completed),
    (.str "signals", .seq (c.signals.map fun s => .str s.code))]

/-- The front matter fields of a card. -/
def frontMatter (c : TaskCard) : Card.FrontMatter :=
  { cardId := c.cardId, epicId := c.epicId, stage := c.stage.val, objective := c.objective
    requirementCount := c.requirements.length, created := c.created, started := c.started
    completed := c.completed, signals := c.signals.map Signal.code }

theorem asOptText_stampNode (v : Option String) : Card.asOptText (stampNode v) = .ok v := by
  cases v <;> rfl

/-- The mapping of a card's front matter reads as its fields, when the count fits 64 bits. -/
theorem ofNode_matterNode {c : TaskCard} (hcount : c.requirements.length < Nat.pow 2 64) :
    Card.FrontMatter.ofNode c.matterNode = .ok (some c.frontMatter) := by
  have hwrap : Card.wrapCount c.requirements.length = c.requirements.length := by
    rw [Card.wrapCount_nonneg _ (Int.natCast_nonneg _) (by
      have : ((Nat.pow 2 64 : Nat) : Int) = Int.pow 2 64 := by decide
      omega)]
    rfl
  have hsig : c.signals.mapM (Card.asText ∘ fun s => Yaml.Node.str s.code) =
      .ok (c.signals.map Signal.code) := by
    rw [show (Card.asText ∘ fun s => Yaml.Node.str s.code) = fun s : Signal => pure s.code from rfl,
      List.mapM_pure]
    rfl
  simp [Card.FrontMatter.ofNode, matterNode, Card.namedEntries, Card.checkField, Card.asText,
    Card.asCount, Card.asTexts, asOptText_stampNode, hwrap, frontMatter, hsig, Except.map, bind,
    Except.bind, pure, Except.pure]

/-! ### Reading the body -/

/-- The last body line is not empty: it is the notes heading, or the last line of trimmed
notes. -/
theorem bodyLines_getLast {c : TaskCard} (h : NotesForm c.notes) :
    ∀ l ∈ c.bodyLines.getLast?, l ≠ "" := by
  intro l hl
  rw [bodyLines, List.cons_append, List.getLast?_cons, List.getLast?_append] at hl
  cases hn : Text.lines c.notes with
  | nil =>
    rw [hn] at hl
    simp at hl
    rw [← hl]
    decide
  | cons a as =>
    have hlast := Text.lines_getLast_ne h.noReturn h.not_ends_newline
    rw [hn] at hlast hl
    simp only [List.getLast?_cons, Option.some_or, Option.getD_some, Option.mem_def,
      Option.some.injEq] at hl
    exact hlast l (by rw [List.getLast?_cons, hl]; rfl)

theorem lines_body {c : TaskCard} (hc : c.Canonical) :
    Text.lines ("\n".intercalate c.bodyLines) = c.bodyLines :=
  Text.lines_intercalate c.bodyLines (bodyLines_isLine hc) (bodyLines_getLast hc.notes)

/-- A line whose trimmed text does not start with `## ` opens no section. -/
theorem heading_eq_none {l : String} (h : ¬ ['#', '#', ' '] <+: (Text.trim l).toList) :
    heading l = none := by
  unfold heading
  split
  · rename_i rest heq
    exact absurd ⟨rest, heq.symm⟩ h
  · rfl

/-- A checklist line opens no section: it starts with a dash. -/
theorem heading_lineText (r : Requirement) : heading (lineText r) = none := by
  apply heading_eq_none
  rintro ⟨t, ht⟩
  have hhead : (Text.trim (lineText r)).toList.head? = some '-' :=
    Text.trim_head_of (by simp [lineText, String.toList_append]) (by decide)
  rw [← ht] at hhead
  simp at hhead

/-- A checklist line of a trimmed text reads back as its requirement. -/
theorem checkbox_lineText {r : Requirement} (ht : Text.trim r.text = r.text) :
    checkbox (lineText r) = some r := by
  obtain ⟨text, done⟩ := r
  have hchars : (lineText ⟨text, done⟩).toList =
      '-' :: ' ' :: '[' :: (if done then 'x' else ' ') :: ']' :: ' ' :: text.toList := by
    cases done <;> simp [lineText, String.toList_append]
  have htext : Text.trim (" " ++ text) = text := by
    have h := @Text.trim_blank_cons ' ' (by decide) text.toList
    rw [String.ofList_toList, ht] at h
    simpa using h
  have hspace : Text.isBlank ' ' = true := by decide
  have hbracket : Text.isBlank '[' = false := by decide
  have hdash : Text.isBlank '-' = false := by decide
  unfold checkbox
  rw [hchars]
  cases done <;> simp [Text.dropBlanks, hspace, hbracket, hdash, htext]

/-- Checklist lines read in the requirements section add their requirements, in order. -/
theorem foldl_lineText {rs : List Requirement} (h : ∀ r ∈ rs, Text.trim r.text = r.text)
    (acc : List Requirement) (ns : List String) :
    (rs.map lineText).foldl Body.step ⟨.requirements, acc, ns⟩ = ⟨.requirements, acc ++ rs, ns⟩ := by
  induction rs generalizing acc with
  | nil => simp
  | cons r rs ih =>
    have hstep : Body.step ⟨.requirements, acc, ns⟩ (lineText r) = ⟨.requirements, acc ++ [r], ns⟩ := by
      simp [Body.step, heading_lineText, checkbox_lineText (h r List.mem_cons_self)]
    rw [List.map_cons, List.foldl_cons, hstep, ih (fun x hx => h x (List.mem_cons_of_mem _ hx))]
    simp

/-- Lines read in the notes section that open no section are kept as notes, in order. -/
theorem foldl_notes {ls : List String} (h : ∀ l ∈ ls, heading l = none) (rs : List Requirement)
    (acc : List String) : ls.foldl Body.step ⟨.notes, rs, acc⟩ = ⟨.notes, rs, acc ++ ls⟩ := by
  induction ls generalizing acc with
  | nil => simp
  | cons l ls ih =>
    have hstep : Body.step ⟨.notes, rs, acc⟩ l = ⟨.notes, rs, acc ++ [l]⟩ := by
      simp [Body.step, h l List.mem_cons_self]
    rw [List.foldl_cons, hstep, ih (fun x hx => h x (List.mem_cons_of_mem _ hx))]
    simp

/-- The body of a card in form reads back as its requirements and the lines of its notes. -/
theorem foldl_bodyLines {c : TaskCard} (hc : c.Canonical) :
    c.bodyLines.foldl Body.step {} = ⟨.notes, c.requirements, Text.lines c.notes⟩ := by
  have hreq : Body.step {} "## Requirements" = ⟨.requirements, [], []⟩ := by
    simp [Body.step, show heading "## Requirements" = some .requirements by decide]
  have hgap : Body.step ⟨.requirements, c.requirements, []⟩ "" = ⟨.requirements, c.requirements, []⟩ := by
    simp [Body.step, show heading "" = none by decide, show checkbox "" = none by decide]
  have hnotes : Body.step ⟨.requirements, c.requirements, []⟩ "## Notes" = ⟨.notes, c.requirements, []⟩ := by
    simp [Body.step, show heading "## Notes" = some .notes by decide]
  rw [bodyLines, List.cons_append, List.foldl_cons, hreq, List.foldl_append,
    foldl_lineText (fun r hr => (hc.texts r hr).1), List.nil_append, List.foldl_cons, hgap,
    List.foldl_cons, hnotes,
    foldl_notes (fun l hl => heading_eq_none (hc.notes.noHeading l hl)), List.nil_append]

/-! ### The round trip -/

theorem nonEmpty_of_stampForm {v : Option String} (h : StampForm v) : nonEmpty v = v := by
  cases v with
  | none => rfl
  | some s =>
    obtain ⟨ht, hne⟩ := h s rfl
    have he : s.isEmpty = false := by simpa [String.isEmpty_iff] using hne
    simp [nonEmpty, ht, he]

/-- Codes of distinct signals, each reading as itself, are added one by one. -/
theorem foldl_addSignal {ss : List Signal} (hp : ∀ s ∈ ss, Signal.parse s.code = .ok s) :
    ∀ acc : List Signal, (acc ++ ss).Nodup → (ss.map Signal.code).foldl addSignal acc = acc ++ ss := by
  induction ss with
  | nil => simp
  | cons s ss ih =>
    intro acc hnd
    have hnew : s ∉ acc := fun h => (List.nodup_append.1 hnd).2.2 s h s List.mem_cons_self rfl
    have hadd : addSignal acc s.code = acc ++ [s] := by
      simp [addSignal, hp s List.mem_cons_self, hnew]
    rw [List.map_cons, List.foldl_cons, hadd,
      ih (fun x hx => hp x (List.mem_cons_of_mem _ hx)) (acc ++ [s]) (by simpa using hnd)]
    simp

theorem readSignals_codes {ss : List Signal} (hnd : ss.Nodup)
    (hp : ∀ s ∈ ss, Signal.parse s.code = .ok s) : readSignals (ss.map Signal.code) = ss := by
  unfold readSignals
  simpa using foldl_addSignal hp [] (by simpa using hnd)

/-- A card in form is fenced: its text opens with a fence and has another after the matter. -/
theorem fenced_render {c : TaskCard} (hc : c.Canonical) : fenced c.render = true := by
  unfold fenced
  rw [lines_render hc, textLines]
  simp [fenced.isFenceLine, show Text.trimEnd "---" = "---" by decide]

/-- A card in form reads back from its text as itself, when the YAML reader reads its front
matter as the mapping of its fields. -/
theorem parse_render (c : TaskCard) (hc : c.Canonical)
    (hyaml : Yaml.Node.readsAs c.matterText c.matterNode = true) : parse c.render = .ok c := by
  have hread : Card.FrontMatter.read c.matterText = .ok (some c.frontMatter) := by
    unfold Card.FrontMatter.read
    rw [Yaml.Node.ofText_of_readsAs hyaml]
    exact ofNode_matterNode hc.count
  have hnotes : Text.trim ("\n".intercalate (Text.lines c.notes)) = c.notes := by
    rw [Text.intercalate_lines hc.notes.noReturn hc.notes.not_ends_newline, hc.notes.trimmed]
  unfold parse
  simp only [fenced_render hc, parts_render hc, hread, lines_body hc, foldl_bodyLines hc,
    Bool.not_true, Bool.false_eq_true, if_false, pure_bind, frontMatter, hc.stage, Nat.lt_irrefl,
    gt_iff_lt, nonEmpty_of_stampForm hc.created, nonEmpty_of_stampForm hc.started,
    nonEmpty_of_stampForm hc.completed, readSignals_codes hc.signalsNodup hc.signals, hnotes]
  rfl

/-- A card with a quoted objective, a checked box, a timestamp, two lines of notes and a signal
reads back from its text. -/
theorem sample_card_reads_back :
    parse
        { cardId := "card-1", epicId := "epic-1", stage := ⟨"BUILD"⟩, objective := "Ship \"it\": now"
          requirements := [⟨"Tests pass", true⟩, ⟨"Docs updated", false⟩]
          created := some "2024-01-01", started := none, completed := none
          notes := "first line\nsecond line", signals := [.allTestsPass] : TaskCard}.render =
      .ok { cardId := "card-1", epicId := "epic-1", stage := ⟨"BUILD"⟩, objective := "Ship \"it\": now"
            requirements := [⟨"Tests pass", true⟩, ⟨"Docs updated", false⟩]
            created := some "2024-01-01", started := none, completed := none
            notes := "first line\nsecond line", signals := [.allTestsPass] } :=
  parse_render _
    { stage := by decide
      texts := by decide
      count := by decide
      notes := ⟨by decide, by decide, by decide⟩
      created := fun s h => by cases h; exact ⟨by decide, by decide⟩
      started := fun _ h => by cases h
      completed := fun _ h => by cases h
      signalsNodup := by decide
      signals := by decide }
    (by decide +kernel)

end TaskCard

end EpicFlow
