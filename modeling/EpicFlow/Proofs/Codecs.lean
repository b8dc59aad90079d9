import EpicFlow.Proofs.TextLines
import EpicFlow.Escalation

/-!
# Names kept as text read back

Stage names, route targets, outcome signals and operators' answers are kept as text: in the
store's columns, in task cards and in stage tables. Each is read by trimming the text, folding
its case and checking its shape. Writing a value and reading it back gives the value, and
reading a text gives a value whose text is the input trimmed and folded.

A stage name is valid when it has the shape the reader checks (`StageName.Valid`): an
upper-case letter, then at most 31 upper-case letters, digits or underscores. Every name that
is read is valid, and every valid name reads back as itself. A route target to a stage reads
back unless the stage is named by one of the three reserved words, which read as the other
targets; an answer that routes to a valid stage reads back, its `route:` prefix included.

Main statements:

* `StageName.parse_val`: a valid name reads back as itself.
* `Signal.parse_code_of_parse`: the code of a signal that was read reads back as the signal.
* `Target.parse_name_of_valid`: a target reads back from its name.
* `Resolution.parse_text`: an answer reads back from its text.
* `names_read_back`: all of these, and the lists of signals and answers that the store keeps.
-/

set_option autoImplicit false

namespace EpicFlow

/-! ### Characters of names -/

namespace StageName

/-- A character of a stage name after the first, by its code point: a letter, a digit or `_`. -/
theorem isTailChar_toNat {c : Char} (h : isTailChar c = true) :
    (65 ≤ c.toNat ∧ c.toNat ≤ 90) ∨ (48 ≤ c.toNat ∧ c.toNat ≤ 57) ∨ c.toNat = 95 := by
  simp only [isTailChar, Char.isDigit, Bool.or_eq_true, Bool.and_eq_true, decide_eq_true_eq,
    beq_iff_eq] at h
  rcases h with ((⟨h1, h2⟩ | ⟨h1, h2⟩) | rfl)
  · exact Or.inl ⟨h1, h2⟩
  · exact Or.inr (Or.inl ⟨h1, h2⟩)
  · exact Or.inr (Or.inr rfl)

theorem isBlank_of_isTailChar {c : Char} (h : isTailChar c = true) : Text.isBlank c = false := by
  have hn := isTailChar_toNat h
  simp only [Text.isBlank, Bool.or_eq_false_iff, Bool.and_eq_false_imp, decide_eq_true_eq,
    decide_eq_false_iff_not, beq_eq_false_iff_ne, ne_eq, Nat.not_le]
  omega

/-- Upper case keeps a character of a stage name: none is a lower-case letter. -/
theorem toUpper_of_isTailChar {c : Char} (h : isTailChar c = true) : c.toUpper = c := by
  have hn := isTailChar_toNat h
  unfold Char.toUpper
  rw [dif_neg]
  rintro ⟨h1, h2⟩
  have hlo : 97 ≤ c.toNat := h1
  have hhi : c.toNat ≤ 122 := h2
  omega

end StageName

namespace Text

/-- A text with no blank character is its own trim. -/
theorem trim_of_no_blank {s : String} (h : ∀ c ∈ s.toList, isBlank c = false) : trim s = s :=
  trim_eq_self (fun c hc => h c (List.mem_of_mem_head? hc))
    (fun c hc => h c (List.mem_of_mem_getLast? hc))

/-- A text of the characters of stage names is its own trimmed, upper-cased form. -/
theorem asciiUpper_trim_of_tail {s : String} (h : ∀ c ∈ s.toList, StageName.isTailChar c = true) :
    asciiUpper (trim s) = s := by
  rw [trim_of_no_blank fun c hc => StageName.isBlank_of_isTailChar (h c hc)]
  unfold asciiUpper
  rw [List.map_congr_left fun c hc => StageName.toUpper_of_isTailChar (h c hc), List.map_id',
    String.ofList_toList]

end Text

/-! ### Stage names -/

namespace StageName

/-- A name of the shape the reader checks. -/
def Valid (n : StageName) : Prop := wellFormed n.val = true

instance (n : StageName) : Decidable n.Valid := inferInstanceAs (Decidable (_ = _))

/-- Every character of a well-formed name is a letter, a digit or `_`. -/
theorem tail_of_wellFormed {s : String} (h : wellFormed s = true) :
    ∀ c ∈ s.toList, isTailChar c = true := by
  unfold wellFormed at h
  split at h
  · rename_i c rest hcs
    simp only [Bool.and_eq_true, decide_eq_true_eq] at h
    obtain ⟨⟨⟨hA, hZ⟩, -⟩, hrest⟩ := h
    rw [hcs]
    intro d hd
    rcases List.mem_cons.1 hd with rfl | hd
    · simp [isTailChar, hA, hZ]
    · exact List.all_eq_true.1 hrest d hd
  · cases h

/-- A well-formed text reads as the name it spells. -/
theorem parse_of_wellFormed {s : String} (h : wellFormed s = true) : parse s = .ok ⟨s⟩ := by
  unfold parse
  rw [Text.asciiUpper_trim_of_tail (tail_of_wellFormed h), if_pos h]

/-- Every name that is read is valid. -/
theorem valid_of_parse {raw : String} {n : StageName} (h : parse raw = .ok n) : n.Valid := by
  unfold parse at h
  generalize Text.asciiUpper (Text.trim raw) = up at h
  by_cases hw : wellFormed up = true
  · rw [if_pos hw] at h
    obtain rfl : (⟨up⟩ : StageName) = n := by simpa using h
    exact hw
  · rw [if_neg hw] at h
    simp at h

/-- A valid name reads back as itself. -/
theorem parse_val {n : StageName} (h : n.Valid) : parse n.val = .ok n :=
  parse_of_wellFormed h

end StageName

/-! ### Outcome signals -/

namespace Signal

/-- The characters of codes are those of stage names. -/
theorem isCodeChar_eq_isTailChar : isCodeChar = StageName.isTailChar := rfl

/-- The code of a signal that was read reads back as the signal. -/
theorem parse_code_of_parse {raw : String} {v : Signal} (h : parse raw = .ok v) :
    parse v.code = .ok v := by
  unfold parse at h
  dsimp only at h
  generalize Text.asciiUpper (Text.trim raw) = c at h
  by_cases hne : c.isEmpty = true
  · rw [if_pos hne] at h
    simp at h
  by_cases hall : (!c.toList.all isCodeChar) = true
  · rw [if_neg hne, if_pos hall] at h
    simp at h
  rw [if_neg hne, if_neg hall] at h
  obtain rfl : ofCode c = v := by simpa using h
  -- the code is made of the characters of stage names, so reading changes nothing
  have htail : ∀ d ∈ c.toList, StageName.isTailChar d = true := by
    simpa [isCodeChar_eq_isTailChar] using hall
  unfold parse
  rw [code_ofCode, Text.asciiUpper_trim_of_tail htail, if_neg hne, if_neg hall]

end Signal

/-! ### Route targets -/

namespace Target

/-- A target reads back from its name, unless it is a stage named by a reserved word. -/
theorem parse_name_of_valid {t : Target}
    (h : ∀ s, t = .stage s → s.Valid ∧ s.val ∉ reserved) : parse t.name = .ok t := by
  cases t with
  | human => rfl
  | completed => rfl
  | failed => rfl
  | stage s =>
    obtain ⟨hvalid, hfree⟩ := h s rfl
    simp only [reserved, List.mem_cons, List.not_mem_nil, or_false, not_or] at hfree
    obtain ⟨hh, hc, hf⟩ := hfree
    unfold parse
    simp only [name, Text.asciiUpper_trim_of_tail (StageName.tail_of_wellFormed hvalid),
      beq_iff_eq, hh, hc, hf, if_false, StageName.parse_val hvalid]
    rfl

end Target

/-! ### Answers to escalations -/

namespace Resolution

/-- The text of an answer that routes splits at the colon after `route`, whatever follows. -/
theorem splitOnce_route (v : String) :
    Text.splitOnce ("route:" ++ v) ':' = some ("route", v) := by
  unfold Text.splitOnce
  rw [String.toList_append, show "route:".toList = ['r', 'o', 'u', 't', 'e', ':'] from rfl]
  simp [List.span_eq_takeWhile_dropWhile]

/-- An answer reads back from its text, when it routes to a valid stage if it routes. -/
theorem parse_text {o : Resolution} (h : ∀ s, o = .route s → s.Valid) : parse o.text = .ok o := by
  cases o with
  | resume => rfl
  | retry => rfl
  | complete => rfl
  | abandon => rfl
  | pause => rfl
  | route s =>
    have hvalid := h s rfl
    have htrim : Text.trim ("route:" ++ s.val) = "route:" ++ s.val := by
      refine Text.trim_of_no_blank fun c hc => ?_
      rw [String.toList_append, List.mem_append] at hc
      rcases hc with hc | hc
      · have hall : "route:".toList.all (fun c => !Text.isBlank c) = true := by decide
        simpa using List.all_eq_true.1 hall c hc
      · exact StageName.isBlank_of_isTailChar (StageName.tail_of_wellFormed hvalid c hc)
    unfold parse
    simp only [text, htrim, splitOnce_route]
    rw [if_pos (by decide), StageName.parse_val hvalid]
    rfl

end Resolution

/-! ### What the store keeps -/

/-- A list of values whose texts each read back reads back as a whole, in order. -/
theorem mapM_read_back {α : Type} {write : α → String} {read : String → Except String α} :
    ∀ {xs : List α}, (∀ x ∈ xs, read (write x) = .ok x) → (xs.map write).mapM read = .ok xs
  | [], _ => rfl
  | x :: xs, h => by
    have hx := h x List.mem_cons_self
    have hxs := mapM_read_back fun y hy => h y (List.mem_cons_of_mem x hy)
    simp only [List.map_cons, List.mapM_cons, hx, hxs]
    rfl

/-- Stage names, signals, targets and answers read back from the text they are written as,
and reading normalises: a valid stage name reads as itself, and every name read is valid and
spelled as the input trimmed and upper-cased; a signal that was read reads back from its code,
which is the input trimmed and upper-cased; a target reads back unless it is a stage named by a
reserved word; an answer reads back when its stage, if it routes, is valid. So do the lists of
signals of a run and of answers offered by an escalation. -/
theorem names_read_back :
    (∀ n : StageName, n.Valid → StageName.parse n.val = .ok n) ∧
    (∀ raw n, StageName.parse raw = .ok n → n.Valid ∧ n.val = Text.asciiUpper (Text.trim raw)) ∧
    (∀ raw v, Signal.parse raw = .ok v →
      Signal.parse v.code = .ok v ∧ v.code = Text.asciiUpper (Text.trim raw)) ∧
    (∀ t : Target, (∀ s, t = .stage s → s.Valid ∧ s.val ∉ Target.reserved) →
      Target.parse t.name = .ok t) ∧
    (∀ o : Resolution, (∀ s, o = .route s → s.Valid) → Resolution.parse o.text = .ok o) ∧
    (∀ vs : List Signal, (∀ v ∈ vs, ∃ raw, Signal.parse raw = .ok v) →
      (vs.map Signal.code).mapM Signal.parse = .ok vs) ∧
    (∀ os : List Resolution, (∀ o ∈ os, ∀ s, o = .route s → s.Valid) →
      (os.map Resolution.text).mapM Resolution.parse = .ok os) := by
  refine ⟨fun _ => StageName.parse_val, fun raw n h => ⟨StageName.valid_of_parse h,
    StageName.parse_ok_val raw n h⟩, fun raw v h => ⟨Signal.parse_code_of_parse h,
    Signal.parse_code raw v h⟩, fun _ => Target.parse_name_of_valid, fun _ => Resolution.parse_text,
    fun _ hvs => ?_, fun _ hos => ?_⟩
  · -- a run's signals, each read from some text
    refine mapM_read_back fun v hv => ?_
    obtain ⟨raw, hraw⟩ := hvs v hv
    exact Signal.parse_code_of_parse hraw
  · exact mapM_read_back fun o ho => Resolution.parse_text (hos o ho)

/-- The stage `BUILD` read from ` build ` and from its own name, the custom signal `SHIPPED` read
from ` shipped `, the target `BUILD`, the answer `route:BUILD`, and the lists of a run's signals
and of an escalation's answers all read back. -/
theorem build_names_read_back :
    StageName.parse "BUILD" = .ok ⟨"BUILD"⟩ ∧
    (StageName.Valid ⟨"BUILD"⟩ ∧ "BUILD" = Text.asciiUpper (Text.trim " build ")) ∧
    Signal.parse "SHIPPED" = .ok (.custom "SHIPPED") ∧
    Target.parse "BUILD" = .ok (.stage ⟨"BUILD"⟩) ∧
    Resolution.parse "route:BUILD" = .ok (.route ⟨"BUILD"⟩) ∧
    ([Signal.testsFailed, .custom "SHIPPED"].map Signal.code).mapM Signal.parse =
      .ok [.testsFailed, .custom "SHIPPED"] ∧
    ([Resolution.resume, .route ⟨"BUILD"⟩, .pause].map Resolution.text).mapM Resolution.parse =
      .ok [.resume, .route ⟨"BUILD"⟩, .pause] := by
  obtain ⟨hname, hread, hsignal, htarget, hanswer, hsignals, hanswers⟩ := names_read_back
  have hvalid : StageName.Valid ⟨"BUILD"⟩ := by decide
  have hshipped : Signal.parse " shipped " = .ok (.custom "SHIPPED") := by rfl
  have hfailed : Signal.parse "tests_failed" = .ok .testsFailed := by rfl
  refine ⟨hname _ hvalid, hread " build " _ (by rfl), (hsignal _ _ hshipped).1,
    htarget (.stage ⟨"BUILD"⟩) fun s hs => by cases hs; decide,
    hanswer (.route ⟨"BUILD"⟩) fun s hs => by cases hs; exact hvalid,
    hsignals _ fun v hv => ?_, hanswers _ fun o ho s hs => ?_⟩
  · simp only [List.mem_cons, List.not_mem_nil, or_false] at hv
    rcases hv with rfl | rfl
    · exact ⟨_, hfailed⟩
    · exact ⟨_, hshipped⟩
  · simp only [List.mem_cons, List.not_mem_nil, or_false] at ho
    rcases ho with rfl | rfl | rfl
    · cases hs
    · cases hs
      exact hvalid
    · cases hs

end EpicFlow
