import EpicFlow.Text.Blank
import EpicFlow.Text.Basic

/-!
# Redacting credentials

Text shown to people (logs, escalations, error messages) has its credentials
replaced by `[REDACTED]`: Anthropic keys (`sk-ant-…`), GitHub tokens
(`ghp_…`, `gho_…`, `github_pat_…`), assignments of `ANTHROPIC_API_KEY`,
`GH_TOKEN` and `GITHUB_TOKEN`, and bearer tokens. Prefixes match without regard
to case, each secret runs as far as its characters allow and must have at
least one, and the text is scanned left to right without overlaps. Then the
home directory, unless it is empty or the root, is written `~`.

Main statement:

* `redactChars_keep`: a character where no secret starts is kept.
-/

set_option autoImplicit false

namespace EpicFlow.Redact

/-- `c` matches the lower-case letter or symbol `lit` when case is ignored;
the Kelvin sign folds to `k` and the long s to `s`. -/
def foldsTo (c lit : Char) : Bool :=
  c.toLower == lit || (lit == 'k' && c.toNat == 0x212A) || (lit == 's' && c.toNat == 0x17F)

/-- Match a literal (written in lower case) at the front, case ignored. -/
def matchLit : List Char → List Char → Option (List Char)
  | [], cs => some cs
  | _ :: _, [] => none
  | l :: ls, c :: cs => if foldsTo c l then matchLit ls cs else none

/-- A letter or digit, case ignored. -/
def isAlnumFolded (c : Char) : Bool :=
  (c.isAlphanum && c.toNat < 128) || c.toNat == 0x212A || c.toNat == 0x17F

/-- The body of a secret: the characters of a class, at least one. -/
def run (p : Char → Bool) (cs : List Char) : Option (List Char) :=
  let n := (cs.takeWhile p).length
  if n == 0 then none else some (cs.drop n)

/-- The text after a secret that starts here, if one does. -/
def secretAt (cs : List Char) : Option (List Char) :=
  let keyChar := fun c => isAlnumFolded c || c == '-' || c == '_'
  let token := fun c => isAlnumFolded c
  let patChar := fun c => isAlnumFolded c || c == '_'
  let value := fun c => !Text.isBlank c
  let bearerChar := fun c => isAlnumFolded c || c == '-' || c == '_' || c == '.'
  (matchLit "sk-ant-".toList cs).bind (run keyChar) <|>
  (matchLit "ghp_".toList cs).bind (run token) <|>
  (matchLit "gho_".toList cs).bind (run token) <|>
  (matchLit "github_pat_".toList cs).bind (run patChar) <|>
  (matchLit "anthropic_api_key=".toList cs).bind (run value) <|>
  (matchLit "gh_token=".toList cs).bind (run value) <|>
  (matchLit "github_token=".toList cs).bind (run value) <|>
  ((matchLit "bearer".toList cs).bind (run Text.isBlank)).bind (run bearerChar)

/-- Replace each secret, scanning left to right. -/
def redactChars : Nat → List Char → List Char
  | 0, cs => cs
  | _ + 1, [] => []
  | n + 1, c :: cs =>
    match secretAt (c :: cs) with
    | some rest => "[REDACTED]".toList ++ redactChars n rest
    | none => c :: redactChars n cs

/-- Redact credentials, then write the home directory as `~`. -/
def sanitize (home : Option String) (text : String) : String :=
  let cs := text.toList
  let out := String.ofList (redactChars (cs.length + 1) cs)
  match home with
  | some h => if h.isEmpty || h == "/" then out else Text.replaceAll out h "~"
  | none => out

theorem redactChars_keep (n : Nat) (c : Char) (cs : List Char) (h : secretAt (c :: cs) = none) :
    redactChars (n + 1) (c :: cs) = c :: redactChars n cs := by
  simp [redactChars, h]

end EpicFlow.Redact
