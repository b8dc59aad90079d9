import Mathlib.Data.List.Forall2
import EpicFlow.Worker.Command
import EpicFlow.Proofs.Redaction

/-!
# Quoted values read back as one word

`Shell.quote` wraps a value in single quotes and writes each single quote of it as `'\''`. The
command lines of agents and sandboxes are built from such quoted values and fixed flags. This
module reads those command lines back the way a POSIX shell does and shows that every quoted
value comes back as exactly one word, equal to the value, at both quoting levels of a sandbox.

The reader (`Sh.lex`) follows the token rules of the POSIX shell: blanks separate words, a
newline is a token, operators are read by longest match, a word of digits just before `<` or `>`
is the number of a redirection, `#` at the start of a token opens a comment, and quote removal
is done on the way: single quotes keep everything, double quotes keep everything but the
backslash escapes of `$`, the backquote, `"`, `\` and newline, and an unquoted backslash keeps
the next character or, before a newline, joins the lines. The reader is strict: it refuses a
command line with an unquoted `$`, backquote, `*`, `?`, `[` or `~`, and with `$` or the
backquote inside double quotes, since the shell might expand them; and one that ends inside
quotes or after a backslash. So a command line that it reads is taken word for word by the
shell, with nothing expanded.

The reader is a transducer over the characters (`Sh.step`); a stretch of command line is read
piece by piece (`Sh.feed_append`), and a piece that ends inside a word closes at the next blank
(`Sh.piece_blank`), so a command line joined by blanks reads as its pieces one after another
(`Sh.piece_intercalate`).

Main statements:

* `Sh.piece_quote`: a quoted value reads as one word, the value.
* `quoted_words_read_back`: agent command lines and sandbox command lines read as their flags,
  with the prompt, the result file, the workspace mount and each environment value one word, and
  the command run in the sandbox reads as the install command, `;`, and the agent's command.
-/

set_option autoImplicit false

namespace EpicFlow.Sh

/-! ### The reader -/

/-- A token of a command line, after quote removal. -/
inductive Token where
  | word (text : String)
  /-- the number of the file a redirection acts on, as in `2>&1` -/
  | ioNumber (digits : String)
  | op (text : String)
  | newline
deriving DecidableEq, Repr

/-- Where the reader stands. Words under construction keep their characters in reverse. -/
inductive Mode where
  | gap
  /-- inside a word; `quoted` once any part of it was quoted -/
  | word (cur : List Char) (quoted : Bool)
  | single (cur : List Char)
  | double (cur : List Char)
  /-- after a backslash inside double quotes -/
  | doubleEscape (cur : List Char)
  /-- after a backslash between words -/
  | escapeGap
  /-- after a backslash inside a word -/
  | escape (cur : List Char) (quoted : Bool)
  | op (text : List Char)
  | comment
deriving DecidableEq, Repr

/-- A blank separates words. -/
def isBlank (c : Char) : Bool := c == ' ' || c == '\t'

/-- A character that starts an operator. -/
def isOpChar (c : Char) : Bool := "&|;<>()".toList.contains c

/-- The operators of the shell. -/
def operators : List String :=
  ["&", "|", ";", "<", ">", "(", ")", "&&", "||", ";;", "<<", ">>", "<&", ">&", "<>", "<<-", ">|"]

/-- Whether the characters are an operator. -/
def isOperator (cs : List Char) : Bool := (operators.map String.toList).contains cs

/-- An unquoted character the shell may expand, which the reader refuses. -/
def isExpansion (c : Char) : Bool :=
  c == '$' || c.toNat == 96 || c == '*' || c == '?' || c == '[' || c == '~'

/-- A character that stands for itself inside an unquoted word. -/
def isLiteral (c : Char) : Bool :=
  !isBlank c && c != '\n' && !isOpChar c && c != '\'' && c != '"' && c != '\\' && !isExpansion c

/-- The token a word ends as, before the next character: unquoted digits right before a
redirection name the file it acts on. -/
def wordEnd (cur : List Char) (quoted : Bool) (next : Char) : Token :=
  if !quoted && cur.all Char.isDigit && (next == '<' || next == '>') then
    .ioNumber (String.ofList cur.reverse)
  else .word (String.ofList cur.reverse)

/-- Read a character between tokens. -/
def begin (c : Char) : Option (Mode × List Token) :=
  if isBlank c then some (.gap, [])
  else if c == '\n' then some (.gap, [.newline])
  else if isOpChar c then some (.op [c], [])
  else if c == '\'' then some (.single [], [])
  else if c == '"' then some (.double [], [])
  else if c == '\\' then some (.escapeGap, [])
  else if c == '#' then some (.comment, [])
  else if isExpansion c then none
  else some (.word [c] false, [])

/-- Read a character inside an unquoted part of a word. -/
def extend (cur : List Char) (quoted : Bool) (c : Char) : Option (Mode × List Token) :=
  if isBlank c then some (.gap, [.word (String.ofList cur.reverse)])
  else if c == '\n' then some (.gap, [.word (String.ofList cur.reverse), .newline])
  else if isOpChar c then some (.op [c], [wordEnd cur quoted c])
  else if c == '\'' then some (.single cur, [])
  else if c == '"' then some (.double cur, [])
  else if c == '\\' then some (.escape cur quoted, [])
  else if isExpansion c then none
  else some (.word (c :: cur) quoted, [])

/-- Read one character: the new place and the tokens it ends, or `none` when the command line
is refused. -/
def step : Mode → Char → Option (Mode × List Token)
  | .gap, c => begin c
  | .word cur quoted, c => extend cur quoted c
  | .single cur, c => if c == '\'' then some (.word cur true, []) else some (.single (c :: cur), [])
  | .double cur, c =>
    if c == '"' then some (.word cur true, [])
    else if c == '\\' then some (.doubleEscape cur, [])
    else if c == '$' || c.toNat == 96 then none
    else some (.double (c :: cur), [])
  | .doubleEscape cur, c =>
    if c == '\n' then some (.double cur, [])
    else if c == '$' || c.toNat == 96 || c == '"' || c == '\\' then some (.double (c :: cur), [])
    else some (.double (c :: '\\' :: cur), [])
  | .escapeGap, c => if c == '\n' then some (.gap, []) else some (.word [c] true, [])
  | .escape cur quoted, c => if c == '\n' then some (.word cur quoted, []) else some (.word (c :: cur) true, [])
  | .op s, c =>
    if isOperator (s ++ [c]) then some (.op (s ++ [c]), [])
    else (begin c).map fun r => (r.1, .op (String.ofList s) :: r.2)
  | .comment, c => if c == '\n' then some (.gap, [.newline]) else some (.comment, [])

/-- Read characters from a place: where the reader ends and the tokens it ended on the way. -/
def feed : Mode → List Char → Option (Mode × List Token)
  | m, [] => some (m, [])
  | m, c :: cs =>
    match step m c with
    | none => none
    | some (m', ts) => (feed m' cs).map fun r => (r.1, ts ++ r.2)

/-- The tokens still open at the end of the command line. -/
def finish : Mode → Option (List Token)
  | .gap | .comment => some []
  | .word cur _ => some [.word (String.ofList cur.reverse)]
  | .op s => some [.op (String.ofList s)]
  | _ => none

/-- The tokens of a command line, or `none` when it is refused. -/
def lex (s : String) : Option (List Token) :=
  match feed .gap s.toList with
  | none => none
  | some (m, ts) => (finish m).map (ts ++ ·)

example : lex "claude -p 'it'\\''s' > 'out file' 2>&1" =
    some [.word "claude", .word "-p", .word "it's", .op ">", .word "out file", .ioNumber "2",
      .op ">&", .word "1"] := by decide

/-! ### Reading stretch by stretch -/

theorem feed_cons {m m' : Mode} {c : Char} {ts : List Token} (cs : List Char)
    (h : step m c = some (m', ts)) :
    feed m (c :: cs) = (feed m' cs).map fun r => (r.1, ts ++ r.2) := by
  rw [feed, h]

/-- A command line is read stretch by stretch: the second from where the first ended. -/
theorem feed_append {m m' : Mode} {ts : List Token} (ys : List Char) :
    ∀ {xs : List Char}, feed m xs = some (m', ts) →
      feed m (xs ++ ys) = (feed m' ys).map fun r => (r.1, ts ++ r.2)
  | [], h => by
    simp only [feed, Option.some.injEq, Prod.mk.injEq] at h
    obtain ⟨rfl, rfl⟩ := h
    simp
  | c :: xs, h => by
    rw [feed] at h
    split at h
    · cases h
    · rename_i m₁ ts₁ hstep
      obtain ⟨⟨m₂, ts₂⟩, hxs, hr⟩ := Option.map_eq_some_iff.1 h
      simp only [Prod.mk.injEq] at hr
      obtain ⟨rfl, rfl⟩ := hr
      rw [List.cons_append, feed_cons _ hstep, feed_append ys hxs, Option.map_map]
      simp [Function.comp_def]

/-- Literal characters go on with the word. -/
theorem feed_literal {q : Bool} : ∀ {cur cs : List Char}, (∀ c ∈ cs, isLiteral c = true) →
    feed (.word cur q) cs = some (.word (cs.reverse ++ cur) q, [])
  | _, [], _ => rfl
  | cur, c :: cs, h => by
    have hc := h c List.mem_cons_self
    simp only [isLiteral, Bool.and_eq_true, Bool.not_eq_true', bne_iff_ne, ne_eq] at hc
    obtain ⟨⟨⟨⟨⟨⟨hb, hn⟩, ho⟩, hq⟩, hd⟩, hs⟩, he⟩ := hc
    have hstep : step (.word cur q) c = some (.word (c :: cur) q, []) := by
      simp [step, extend, hb, hn, ho, hq, hd, hs, he]
    rw [feed_cons _ hstep, feed_literal fun x hx => h x (List.mem_cons_of_mem c hx)]
    simp

/-! ### Quoted values -/

/-- A character of a value, as `Shell.quote` writes it between its single quotes. -/
theorem replaceList_quote_cons (c : Char) (cs : List Char) :
    Text.replaceList ['\''] "'\\''".toList (c :: cs) =
      (if c = '\'' then "'\\''".toList else [c]) ++ Text.replaceList ['\''] "'\\''".toList cs := by
  by_cases hc : c = '\''
  · subst hc
    rw [Text.replaceList_match (by simp [List.isPrefixOf]), if_pos rfl]
    rfl
  · rw [Text.replaceList_skip (by simp [List.isPrefixOf, Ne.symm hc]), if_neg hc]
    rfl

/-- Inside single quotes, the written value reads back as the value, and the reader is inside
single quotes again: each single quote of the value closes the quotes, is read escaped, and
opens them again. -/
theorem feed_quoted : ∀ (cur cs : List Char),
    feed (.single cur) (Text.replaceList ['\''] "'\\''".toList cs) = some (.single (cs.reverse ++ cur), [])
  | cur, [] => by rw [Text.replaceList_nil]; rfl
  | cur, c :: cs => by
    rw [replaceList_quote_cons]
    by_cases hc : c = '\''
    · subst hc
      rw [if_pos rfl]
      have hread : feed (.single cur) "'\\''".toList = some (.single ('\'' :: cur), []) := rfl
      rw [feed_append _ hread, feed_quoted]
      simp
    · rw [if_neg hc]
      have hread : feed (.single cur) [c] = some (.single (c :: cur), []) := by
        simp [feed, step, hc]
      rw [feed_append _ hread, feed_quoted]
      simp

theorem quote_toList (v : String) :
    (Shell.quote v).toList =
      '\'' :: (Text.replaceList ['\''] "'\\''".toList v.toList ++ ['\'']) := by
  simp [Shell.quote, Text.replaceAll, String.toList_append]

/-- A quoted value goes on with the word the reader is in, as quoted text. -/
theorem feed_quote_word (v : String) (cur : List Char) (q : Bool) :
    feed (.word cur q) (Shell.quote v).toList = some (.word (v.toList.reverse ++ cur) true, []) := by
  rw [quote_toList, feed_cons _ (show step (.word cur q) '\'' = some (.single cur, []) from rfl),
    feed_append _ (feed_quoted cur v.toList)]
  rfl

/-- A quoted value between words starts a word of its own. -/
theorem feed_quote_gap (v : String) :
    feed .gap (Shell.quote v).toList = some (.word v.toList.reverse true, []) := by
  rw [quote_toList, feed_cons _ (show step .gap '\'' = some (.single [], []) from rfl),
    feed_append _ (feed_quoted [] v.toList)]
  simp
  rfl

/-! ### Pieces joined by blanks -/

/-- The tokens of a stretch of command line that starts between tokens and ends inside a word,
that word included. -/
def piece (cs : List Char) : Option (List Token) :=
  match feed .gap cs with
  | some (.word cur _, ts) => some (ts ++ [.word (String.ofList cur.reverse)])
  | _ => none

theorem piece_of_feed {cs cur : List Char} {q : Bool} {ts : List Token}
    (h : feed .gap cs = some (.word cur q, ts)) :
    piece cs = some (ts ++ [.word (String.ofList cur.reverse)]) := by
  rw [piece, h]

theorem piece_eq_some {cs : List Char} {ts : List Token} (h : piece cs = some ts) :
    ∃ cur q ts₀, feed .gap cs = some (.word cur q, ts₀) ∧ ts = ts₀ ++ [.word (String.ofList cur.reverse)] := by
  unfold piece at h
  split at h
  · rename_i cur q ts₀ hfeed
    exact ⟨cur, q, ts₀, hfeed, (Option.some.inj h).symm⟩
  · cases h

/-- A command line that is one piece reads as the piece. -/
theorem lex_of_piece {s : String} {ts : List Token} (h : piece s.toList = some ts) : lex s = some ts := by
  obtain ⟨cur, q, ts₀, hfeed, rfl⟩ := piece_eq_some h
  rw [lex, hfeed]
  rfl

/-- A blank after a piece ends its last word, and the reader is between tokens again. -/
theorem feed_piece_blank {xs : List Char} {ts : List Token} (h : piece xs = some ts) :
    feed .gap (xs ++ [' ']) = some (.gap, ts) := by
  obtain ⟨cur, q, ts₀, hfeed, rfl⟩ := piece_eq_some h
  rw [feed_append _ hfeed]
  rfl

/-- Two pieces joined by a blank read as the first piece and then the second. -/
theorem piece_blank {xs ys : List Char} {ts us : List Token} (hx : piece xs = some ts)
    (hy : piece ys = some us) : piece (xs ++ ' ' :: ys) = some (ts ++ us) := by
  obtain ⟨cur, q, us₀, hfeed, rfl⟩ := piece_eq_some hy
  have hall : feed .gap ((xs ++ [' ']) ++ ys) = some (.word cur q, ts ++ us₀) := by
    rw [feed_append _ (feed_piece_blank hx), hfeed]
    rfl
  rw [← List.append_cons xs ' ' ys] at hall
  rw [piece_of_feed hall, List.append_assoc]

/-- Command-line pieces that read as the token lists, one by one. -/
abbrev Pieces (parts : List String) (tss : List (List Token)) : Prop :=
  List.Forall₂ (fun p ts => piece p.toList = some ts) parts tss

theorem Pieces.nil : Pieces [] [] := List.Forall₂.nil

theorem Pieces.cons {p : String} {ts : List Token} {ps : List String} {tss : List (List Token)}
    (h : piece p.toList = some ts) (hs : Pieces ps tss) : Pieces (p :: ps) (ts :: tss) :=
  List.Forall₂.cons h hs

theorem Pieces.append {ps qs : List String} {tss uss : List (List Token)} (h : Pieces ps tss)
    (h' : Pieces qs uss) : Pieces (ps ++ qs) (tss ++ uss) :=
  List.rel_append h h'

/-- Pieces joined by blanks read as their pieces one after another. -/
theorem piece_intercalate {parts : List String} {tss : List (List Token)} (h : Pieces parts tss)
    (hne : parts ≠ []) :
    piece (" ".intercalate parts).toList = some tss.flatten := by
  induction h with
  | nil => exact absurd rfl hne
  | @cons p ts parts tss hp hrest ih =>
    cases parts with
    | nil =>
      cases hrest
      simpa using hp
    | cons p' parts =>
      rw [String.intercalate_cons_cons, String.toList_append, String.toList_append,
        show " ".toList = [' '] from rfl, List.append_assoc, List.singleton_append, List.flatten_cons,
        piece_blank hp (ih (List.cons_ne_nil _ _))]

/-- A nonempty word of literal characters that does not start a comment. -/
def isPlainWord : List Char → Bool
  | [] => false
  | c :: cs => c != '#' && isLiteral c && cs.all isLiteral

/-- Text the shell reads as one word, itself. -/
def Plain (s : String) : Prop := isPlainWord s.toList = true

instance (s : String) : Decidable (Plain s) := inferInstanceAs (Decidable (_ = true))

theorem feed_plain {cs : List Char} (h : isPlainWord cs = true) :
    feed .gap cs = some (.word cs.reverse false, []) := by
  cases cs with
  | nil => cases h
  | cons c cs =>
    simp only [isPlainWord, Bool.and_eq_true, bne_iff_ne, ne_eq, List.all_eq_true] at h
    obtain ⟨⟨hhash, hc⟩, hcs⟩ := h
    have hc' := hc
    simp only [isLiteral, Bool.and_eq_true, Bool.not_eq_true', bne_iff_ne, ne_eq] at hc'
    obtain ⟨⟨⟨⟨⟨⟨hb, hn⟩, ho⟩, hq⟩, hd⟩, hs⟩, he⟩ := hc'
    have hstep : step .gap c = some (.word [c] false, []) := by
      simp [step, begin, hb, hn, ho, hq, hd, hs, hhash, he]
    rw [feed_cons _ hstep, feed_literal hcs]
    simp

theorem piece_plain {s : String} (h : Plain s) : piece s.toList = some [.word s] := by
  rw [piece_of_feed (feed_plain h)]
  simp

theorem piece_quote (v : String) : piece (Shell.quote v).toList = some [.word v] := by
  rw [piece_of_feed (feed_quote_gap v)]
  simp

/-- A plain word with a quoted value right after it reads as one word. -/
theorem piece_plain_quote {k : String} (hk : Plain k) (v : String) :
    piece (k ++ Shell.quote v).toList = some [.word (k ++ v)] := by
  rw [String.toList_append, piece_of_feed (by rw [feed_append _ (feed_plain hk), feed_quote_word]; rfl)]
  simp

/-- A quoted value with literal characters right after it reads as one word. -/
theorem piece_quote_literal (v : String) {s : String} (hs : ∀ c ∈ s.toList, isLiteral c = true) :
    piece (Shell.quote v ++ s).toList = some [.word (v ++ s)] := by
  rw [String.toList_append,
    piece_of_feed (by rw [feed_append _ (feed_quote_gap v), feed_literal hs]; rfl)]
  simp

/-! ### Pieces of agent and sandbox command lines -/

theorem isLiteral_of_isDigit {c : Char} (h : c.isDigit = true) : isLiteral c = true := by
  simp only [Char.isDigit, Bool.and_eq_true, decide_eq_true_eq] at h
  have hlo : 48 ≤ c.toNat := h.1
  have hhi : c.toNat ≤ 57 := h.2
  -- a digit is one of ten characters, each of them literal
  have hc : c = Char.ofNat (48 + (c.toNat - 48)) := by
    rw [Nat.add_sub_cancel' hlo, Char.ofNat_toNat]
  have hk : c.toNat - 48 < 10 := by omega
  rw [hc]
  generalize c.toNat - 48 = k at hk
  revert k
  decide

theorem plain_natText (n : Nat) : Plain (Text.natText n) := by
  obtain ⟨c, cs, hcs⟩ := List.exists_cons_of_ne_nil (Nat.toDigits_ne_nil (n := n) (b := 10))
  have hdigit : ∀ x ∈ Nat.toDigits 10 n, isLiteral x = true := fun x hx =>
    isLiteral_of_isDigit (Nat.isDigit_of_mem_toDigits (by decide) (by decide) hx)
  have hc : c ≠ '#' := by
    intro hc
    have hd := Nat.isDigit_of_mem_toDigits (b := 10) (n := n) (c := c) (by decide) (by decide)
      (by rw [hcs]; exact List.mem_cons_self)
    rw [hc] at hd
    exact absurd hd (by decide)
  rw [Plain, Text.natText, String.toList_ofList]
  rw [hcs] at hdigit ⊢
  simp only [isPlainWord, Bool.and_eq_true, bne_iff_ne, ne_eq, List.all_eq_true]
  exact ⟨⟨hc, hdigit c List.mem_cons_self⟩, fun x hx => hdigit x (List.mem_cons_of_mem c hx)⟩

/-- A plain word with `=` after it is still a plain word. -/
theorem plain_assign {k : String} (hk : Plain k) : Plain (k ++ "=") := by
  unfold Plain at hk ⊢
  rw [String.toList_append, show "=".toList = ['='] from rfl]
  cases hks : k.toList with
  | nil => rw [hks] at hk; cases hk
  | cons c cs =>
    rw [hks] at hk
    simp only [isPlainWord, Bool.and_eq_true, List.all_eq_true] at hk
    simp only [List.cons_append, isPlainWord, Bool.and_eq_true, List.all_eq_true, List.mem_append,
      List.mem_singleton]
    refine ⟨hk.1, fun x hx => ?_⟩
    rcases hx with hx | rfl
    · exact hk.2 x hx
    · decide

theorem pieces_flag (b : Bool) {w : String} (hw : Plain w) :
    Pieces (if b = true then [w] else []) (if b = true then [[.word w]] else []) := by
  cases b
  · exact .nil
  · exact .cons (piece_plain hw) .nil

theorem pieces_map {α : Type} {f : α → String} {g : α → List Token} (xs : List α)
    (h : ∀ x ∈ xs, piece (f x).toList = some (g x)) : Pieces (xs.map f) (xs.map g) := by
  induction xs with
  | nil => exact .nil
  | cons x xs ih =>
    exact .cons (h x List.mem_cons_self) (ih fun y hy => h y (List.mem_cons_of_mem x hy))

/-- A stretch that ends between tokens, then a piece: the stretch's tokens, then the piece's. -/
theorem piece_after (pre : String) (ts : List Token) (hpre : feed .gap pre.toList = some (.gap, ts))
    {s : String} {us : List Token} (hs : piece s.toList = some us) :
    piece (pre ++ s).toList = some (ts ++ us) := by
  obtain ⟨cur, q, us₀, hfeed, rfl⟩ := piece_eq_some hs
  have hall : feed .gap (pre ++ s).toList = some (.word cur q, ts ++ us₀) := by
    rw [String.toList_append, feed_append _ hpre, hfeed]
    rfl
  rw [piece_of_feed hall, List.append_assoc]

theorem lex_append {pre : String} {ts : List Token} (hpre : feed .gap pre.toList = some (.gap, ts))
    (s : String) : lex (pre ++ s) = (lex s).map (ts ++ ·) := by
  unfold lex
  rw [String.toList_append, feed_append _ hpre]
  rcases feed .gap s.toList with _ | ⟨m, us⟩
  · rfl
  · cases finish m <;> simp [Function.comp_def]

end EpicFlow.Sh

namespace EpicFlow

open Sh

namespace AgentCommand

/-- The words an agent's command line stands for: the agent's flags, with the prompt as one
word and the result file after a redirection. -/
def argv (c : AgentCommand) : List Token :=
  let flag (b : Bool) (w : String) : List Token := if b then [.word w] else []
  match Text.asciiLower c.agentType with
  | "claude" =>
    [.word "claude"] ++ flag c.resume "--continue" ++
      flag c.autoAccept "--dangerously-skip-permissions" ++
      [.word "--max-turns", .word (Text.natText c.maxTurns), .word "--output-format", .word "json",
        .word "-p", .word c.prompt] ++
      (match c.resultFile with | some f => [.op ">", .word f] | none => [])
  | "aider" =>
    [.word "aider"] ++ flag c.autoAccept "--yes-always" ++ flag c.resume "--restore-chat-history" ++
      [.word "--message", .word c.prompt]
  | "codex" | "openai" => [.word "codex", .word "exec", .word c.prompt]
  | "gemini" => [.word "gemini", .word "-p", .word c.prompt]
  | "manual" =>
    [.word "echo", .word "Manual stage session. Update the task card, then press Enter.", .op "&&",
      .word "read", .word "-r", .word "_"]
  | _ => []

theorem flatten_flag (b : Bool) (w : String) :
    (if b = true then [[Token.word w]] else []).flatten = if b = true then [.word w] else [] := by
  cases b <;> rfl

/-- An agent's command line reads as its flags, with the prompt one word and the result file
one word after a redirection. -/
theorem lex_render {c : AgentCommand} {cmd : String} (h : c.render = .ok cmd) : lex cmd = some c.argv := by
  unfold render at h
  split at h
  · -- claude: fixed flags, the turn limit, the prompt, and the result file if there is one
    rename_i hk
    dsimp only at h
    cases Except.ok.inj h
    have hhead := Pieces.append (Pieces.append (Pieces.append
      (Pieces.cons (piece_plain (by decide : Plain "claude")) Pieces.nil)
      (pieces_flag c.resume (by decide : Plain "--continue")))
      (pieces_flag c.autoAccept (by decide : Plain "--dangerously-skip-permissions")))
      (Pieces.cons (piece_after "--max-turns " [.word "--max-turns"] (by decide)
          (piece_plain (plain_natText c.maxTurns)))
        (Pieces.cons (by decide : piece "--output-format json".toList =
            some [.word "--output-format", .word "json"])
          (Pieces.cons (piece_after "-p " [.word "-p"] (by decide) (piece_quote c.prompt)) Pieces.nil)))
    unfold argv
    rw [hk]
    cases hf : c.resultFile with
    | none =>
      rw [lex_of_piece (piece_intercalate (Pieces.append hhead Pieces.nil) (by simp))]
      simp [flatten_flag]
    | some f =>
      rw [lex_of_piece (piece_intercalate (Pieces.append hhead
        (Pieces.cons (piece_after "> " [.op ">"] (by decide) (piece_quote f)) Pieces.nil)) (by simp))]
      simp [flatten_flag]
  · -- aider: fixed flags and the prompt
    rename_i hk
    dsimp only at h
    cases Except.ok.inj h
    have hparts := Pieces.append (Pieces.append
      (Pieces.append (Pieces.cons (piece_plain (by decide : Plain "aider")) Pieces.nil)
        (pieces_flag c.autoAccept (by decide : Plain "--yes-always")))
      (pieces_flag c.resume (by decide : Plain "--restore-chat-history")))
      (Pieces.cons (piece_after "--message " [.word "--message"] (by decide) (piece_quote c.prompt))
        Pieces.nil)
    unfold argv
    rw [hk, lex_of_piece (piece_intercalate hparts (by simp))]
    simp [flatten_flag]
  · -- codex
    rename_i hk
    cases Except.ok.inj h
    unfold argv
    rw [hk, lex_of_piece (piece_after "codex exec " [.word "codex", .word "exec"] (by decide)
      (piece_quote c.prompt))]
    rfl
  · -- openai, run as codex
    rename_i hk
    cases Except.ok.inj h
    unfold argv
    rw [hk, lex_of_piece (piece_after "codex exec " [.word "codex", .word "exec"] (by decide)
      (piece_quote c.prompt))]
    rfl
  · -- gemini
    rename_i hk
    cases Except.ok.inj h
    unfold argv
    rw [hk, lex_of_piece (piece_after "gemini -p " [.word "gemini", .word "-p"] (by decide)
      (piece_quote c.prompt))]
    rfl
  · -- manual: a quoted notice, then a wait for the operator
    rename_i hk
    cases Except.ok.inj h
    have hecho := piece_after "echo " [.word "echo"] (by decide)
      (piece_quote "Manual stage session. Update the task card, then press Enter.")
    have hwait : piece "&& read -r _".toList = some [.op "&&", .word "read", .word "-r", .word "_"] := by
      decide
    have hall := piece_blank hecho hwait
    rw [← show " && read -r _".toList = ' ' :: "&& read -r _".toList from rfl, ← String.toList_append] at hall
    unfold argv
    rw [hk, lex_of_piece hall]
    rfl
  · cases h

end AgentCommand

/-- The words a sandbox command line stands for: the docker flags, each environment value one
word after its name, the image, and the command the container runs as one word. -/
def sandboxArgv (container workspace image : String) (env : List (String × String)) (inner : String) :
    List Token :=
  ["docker", "run", "-it", "--name", container, "-v", workspace ++ ":/workspace", "-w", "/workspace",
      "-e", "GH_TOKEN", "-e", "GITHUB_TOKEN", "-e", "ANTHROPIC_API_KEY"].map .word ++
    env.flatMap (fun kv => [.word "-e", .word (kv.1 ++ "=" ++ kv.2)]) ++
    [.word image, .word "sh", .word "-c",
      .word ("npm install -g @anthropic-ai/claude-code >/dev/null 2>&1; " ++ inner)]

/-- The tokens of the install command a sandbox runs first, up to the `;` after it. -/
def installArgv : List Token :=
  [.word "npm", .word "install", .word "-g", .word "@anthropic-ai/claude-code", .op ">",
    .word "/dev/null", .ioNumber "2", .op ">&", .word "1", .op ";"]

/-- A sandbox command line reads as its flags, for a plain container name, image and
environment names: the workspace mount, each environment value and the command to run are one
word each. -/
theorem lex_sandboxCommand {container workspace image : String} {env : List (String × String)}
    (inner : String) (hcontainer : Plain container) (himage : Plain image)
    (henv : ∀ kv ∈ env, Plain kv.1) :
    lex (sandboxCommand container workspace image env inner) =
      some (sandboxArgv container workspace image env inner) := by
  have hmount : piece ("-v " ++ Shell.quote workspace ++ ":/workspace").toList =
      some [.word "-v", .word (workspace ++ ":/workspace")] := by
    rw [String.append_assoc]
    exact piece_after "-v " [.word "-v"] (by decide)
      (piece_quote_literal workspace (List.all_eq_true.1 (by decide)))
  have hfixed := Pieces.cons
    (by decide : piece "docker run -it".toList = some [.word "docker", .word "run", .word "-it"])
    (Pieces.cons (piece_after "--name " [.word "--name"] (by decide) (piece_plain hcontainer))
    (Pieces.cons hmount
    (Pieces.cons (by decide : piece "-w /workspace".toList = some [.word "-w", .word "/workspace"])
    (Pieces.cons (by decide : piece "-e GH_TOKEN".toList = some [.word "-e", .word "GH_TOKEN"])
    (Pieces.cons (by decide : piece "-e GITHUB_TOKEN".toList = some [.word "-e", .word "GITHUB_TOKEN"])
    (Pieces.cons
      (by decide : piece "-e ANTHROPIC_API_KEY".toList = some [.word "-e", .word "ANTHROPIC_API_KEY"])
      Pieces.nil))))))
  -- each environment value is quoted right after its name and `=`
  have hassign := pieces_map (f := fun kv : String × String => "-e " ++ kv.1 ++ "=" ++ Shell.quote kv.2)
    (g := fun kv => [.word "-e", .word (kv.1 ++ "=" ++ kv.2)]) env fun kv hkv => by
      rw [show "-e " ++ kv.1 ++ "=" ++ Shell.quote kv.2 = "-e " ++ (kv.1 ++ "=" ++ Shell.quote kv.2) by
        simp only [String.append_assoc]]
      exact piece_after "-e " [.word "-e"] (by decide) (piece_plain_quote (plain_assign (henv kv hkv)) kv.2)
  have hlast := Pieces.cons (piece_plain himage)
    (Pieces.cons (by decide : piece "sh -c".toList = some [.word "sh", .word "-c"])
    (Pieces.cons (piece_quote ("npm install -g @anthropic-ai/claude-code >/dev/null 2>&1; " ++ inner))
      Pieces.nil))
  unfold sandboxCommand
  rw [lex_of_piece (piece_intercalate (Pieces.append (Pieces.append hfixed hassign) hlast) (by simp))]
  simp [sandboxArgv, List.flatMap]

/-- The command a sandbox runs reads as the install command, `;`, and the inner command. -/
theorem lex_install (inner : String) :
    lex ("npm install -g @anthropic-ai/claude-code >/dev/null 2>&1; " ++ inner) =
      (lex inner).map (installArgv ++ ·) :=
  lex_append (by decide) inner

/-- **Quoted values read back.** A quoted value reads as one word, the value. An agent's command
line reads as its flags with the prompt and the result file one word each. A sandbox command
line, for a plain container name, image and environment names, reads as the docker flags with
the workspace mount and each environment value one word, and the command the container runs one
word; that command reads in turn as the install command, `;`, and the agent's command, so
nothing quoted is read as shell syntax at either level. -/
theorem quoted_words_read_back :
    (∀ v : String, lex (Shell.quote v) = some [.word v]) ∧
    (∀ (c : AgentCommand) (cmd : String), c.render = .ok cmd → lex cmd = some c.argv) ∧
    (∀ (container workspace image : String) (env : List (String × String)) (inner : String),
      Plain container → Plain image → (∀ kv ∈ env, Plain kv.1) →
      lex (sandboxCommand container workspace image env inner) =
        some (sandboxArgv container workspace image env inner)) ∧
    (∀ inner : String, lex ("npm install -g @anthropic-ai/claude-code >/dev/null 2>&1; " ++ inner) =
      (lex inner).map (installArgv ++ ·)) :=
  ⟨fun v => lex_of_piece (piece_quote v), fun _ _ h => AgentCommand.lex_render h,
    fun _ _ _ _ inner hc hi he => lex_sandboxCommand inner hc hi he, lex_install⟩

/-- A sandboxed claude stage whose prompt and workspace hold single quotes, and whose run id
reads like a command: the agent's command line, the sandbox command line around it and the
command the container runs all read back word for word. -/
theorem sandboxed_claude_reads_back :
    lex (Shell.quote "it's") = some [.word "it's"] ∧
    lex (" ".intercalate ["claude", "--continue", "--dangerously-skip-permissions", "--max-turns 40",
        "--output-format json", "-p " ++ Shell.quote "fix the parser's tests",
        "> " ++ Shell.quote ".handy/runs/r.json"]) =
      some [.word "claude", .word "--continue", .word "--dangerously-skip-permissions",
        .word "--max-turns", .word "40", .word "--output-format", .word "json", .word "-p",
        .word "fix the parser's tests", .op ">", .word ".handy/runs/r.json"] ∧
    lex (sandboxCommand "handy-sandbox-epic-1_BUILD_1" "/home/dev/it's mine" defaultAgentImage
        [("HANDY_EPIC", "epic-1"), ("HANDY_STAGE", "BUILD"), ("HANDY_RUN", "run-1; rm -rf ~")]
        "claude -p 'x'") =
      some (sandboxArgv "handy-sandbox-epic-1_BUILD_1" "/home/dev/it's mine" defaultAgentImage
        [("HANDY_EPIC", "epic-1"), ("HANDY_STAGE", "BUILD"), ("HANDY_RUN", "run-1; rm -rf ~")]
        "claude -p 'x'") ∧
    lex ("npm install -g @anthropic-ai/claude-code >/dev/null 2>&1; " ++ "claude -p 'x'") =
      some (installArgv ++ [.word "claude", .word "-p", .word "x"]) := by
  have h := quoted_words_read_back
  have hrender : AgentCommand.render
      { agentType := "claude", prompt := "fix the parser's tests", maxTurns := 40, resume := true,
        autoAccept := true, resultFile := some ".handy/runs/r.json" } =
      .ok (" ".intercalate ["claude", "--continue", "--dangerously-skip-permissions", "--max-turns 40",
        "--output-format json", "-p " ++ Shell.quote "fix the parser's tests",
        "> " ++ Shell.quote ".handy/runs/r.json"]) := by
    rfl
  refine ⟨h.1 _, (h.2.1 _ _ hrender).trans (by decide),
    h.2.2.1 _ _ _ _ _ (by decide) (by decide) (by decide), ?_⟩
  rw [h.2.2.2]
  decide

end EpicFlow
