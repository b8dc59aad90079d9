import EpicFlow.Yaml.Token

/-!
# The YAML lexer

A `Lexer` holds the text, the place reached, and the tokens made so far. It
makes tokens on demand: `Lexer.peekToken` produces tokens until the next one
is settled, which is when no pending simple key could still turn into the key
of a mapping. A simple key is a scalar or collection that might be followed
by `:`; when the `:` comes, a `key` token (and, at a deeper indent, a
`blockMappingStart`) is slipped in before it. Outside flow collections a
simple key cannot span lines or more than 1024 characters.

Indentation is a stack of levels. A block collection opens a level when a
line starts deeper than the current one, and closing it gives a `blockEnd`.
After `:` or a `-` that ends its line, a level one column deeper is opened
that closes no collection: the content that follows must stand to the right
of the indicator. Inside a flow collection the levels stay as they are, and
content further left than the enclosing level is badly indented.

Tabs may not indent: a tab in the indentation of a block is allowed only on
a line with no content. After `:` or `-` a tab alone does not separate the
value when a word or another `-` follows.

Inside a flow sequence a `key: value` pair makes a one-pair mapping, marked
with its own `flowMappingStart` and `flowMappingEnd`; its key must stand on
the line of its `:`.

Problems carry the place where they were found, with the messages the YAML
1.2 reader of the engine's card format uses.

Main statements:

* `unrollFrom_stack_length`: closing levels only shortens the stack.
* `dropOneCol_top`: after the one-column levels are dropped, the innermost
  level, if any, closes a block.
-/

set_option autoImplicit false

namespace EpicFlow.Yaml

/-- A space or a tab. -/
def isBlank (c : Char) : Bool := c == ' ' || c == '\t'
/-- A line feed or a carriage return. -/
def isLineBreak (c : Char) : Bool := c == '\n' || c == '\r'
/-- The end of the text (read as a NUL character). -/
def isEnd (c : Char) : Bool := c.toNat == 0
/-- A line break or the end. -/
def isBreakOrEnd (c : Char) : Bool := isLineBreak c || isEnd c
/-- A blank, a line break or the end. -/
def isBlankOrEnd (c : Char) : Bool := isBlank c || isBreakOrEnd c
/-- A character that shapes a flow collection. -/
def isFlowMark (c : Char) : Bool := c == ',' || c == '[' || c == ']' || c == '{' || c == '}'
/-- A hexadecimal digit. -/
def isHexChar (c : Char) : Bool := c.isDigit || ('a' ≤ c && c ≤ 'f') || ('A' ≤ c && c ≤ 'F')
/-- The value of a hexadecimal digit. -/
def hexValue (c : Char) : Nat :=
  if c.isDigit then c.toNat - 48 else if 'a' ≤ c && c ≤ 'f' then c.toNat - 87 else c.toNat - 55
/-- An ASCII letter or digit, `_` or `-`: the characters of directive names
and tag handles. -/
def isNameChar (c : Char) : Bool := c.isDigit || c.isAlpha || c == '_' || c == '-'
/-- A character that may stand in a URI. -/
def isUriChar (c : Char) : Bool :=
  (isNameChar c && c != '_') ||
    ['#', ';', '/', '?', ':', '@', '&', '=', '+', '$', ',', '_', '.', '!', '~', '*', '\'', '(', ')',
      '[', ']', '%'].contains c
/-- A character of a tag suffix: a URI character other than `!` and the flow
indicators. -/
def isTagChar (c : Char) : Bool := isUriChar c && !isFlowMark c && c != '!'
/-- A character YAML lets a document hold. -/
def isPrintable (c : Char) : Bool :=
  let n := c.toNat
  n == 9 || n == 10 || n == 13 || (0x20 ≤ n && n ≤ 0x7E) || n == 0x85 || (0xA0 ≤ n && n ≤ 0xD7FF) ||
    (0xE000 ≤ n && n ≤ 0xFFFD) || (0x10000 ≤ n && n ≤ 0x10FFFF)
/-- A character of an anchor name: printable, not white, not a byte order
mark, not a flow indicator. -/
def isAnchorChar (c : Char) : Bool :=
  isPrintable c && !isBlankOrEnd c && c.toNat != 0xFEFF && !isFlowMark c

/-- A level of indentation, with the level it hides. -/
structure Indent where
  /-- the indentation before this level opened -/
  outer : Int
  /-- closing the level ends a block collection -/
  block : Bool

/-- A place where the key of a mapping may start. -/
structure SimpleKey where
  possible : Bool
  /-- a block key at the indent column must be followed by `:` -/
  required : Bool
  /-- the number of the token it would become -/
  tokenNumber : Nat
  mark : Mark

/-- No pending key. -/
def SimpleKey.unset : SimpleKey := ⟨false, false, 0, ⟨0, 0, 0⟩⟩

/-- The state of the lexer. -/
structure Lexer where
  cs : Array Char
  pos : Nat := 0
  mark : Mark := ⟨0, 1, 0⟩
  /-- every token made so far, taken or not -/
  tokens : Array Token := #[]
  /-- how many tokens the reader has taken -/
  taken : Nat := 0
  indent : Int := -1
  /-- the hidden levels, innermost first -/
  indents : List Indent := []
  flowLevel : Nat := 0
  /-- pending simple keys, innermost flow level first -/
  keys : List SimpleKey := []
  keyAllowed : Bool := true
  /-- where a `:` may follow a quoted key or a flow collection directly -/
  adjacentAt : Nat := 0
  /-- nothing but blanks since the last line break -/
  lineStart : Bool := true
  /-- a flow mapping was opened by `\x7b` or an explicit key -/
  mapOpened : Bool := false
  /-- for each open flow sequence, innermost first: a one-pair mapping is open in it -/
  pairs : List Bool := []
  started : Bool := false
  ended : Bool := false

/-- Lexing: state with failure. -/
abbrev Lex := StateT Lexer (Except Problem)

/-- Close the levels deeper than `col`; those that end a block give a
`blockEnd` at `m`. -/
def unrollFrom (m : Mark) (col : Int) : Int → List Indent → Array Token → Int × List Indent × Array Token
  | ind, [], ts => (ind, [], ts)
  | ind, i :: rest, ts =>
    if ind > col then unrollFrom m col i.outer rest (if i.block then ts.push ⟨m, .blockEnd⟩ else ts)
    else (ind, i :: rest, ts)

theorem unrollFrom_stack_length (m : Mark) (col : Int) (ind : Int) (stack : List Indent)
    (ts : Array Token) : (unrollFrom m col ind stack ts).2.1.length ≤ stack.length := by
  induction stack generalizing ind ts with
  | nil => simp [unrollFrom]
  | cons i rest ih =>
    simp only [unrollFrom]
    split
    · exact Nat.le_succ_of_le (ih i.outer _)
    · exact Nat.le_refl _

/-- Drop the one-column levels above the innermost block level. -/
def dropOneCol : Int → List Indent → Int × List Indent
  | ind, [] => (ind, [])
  | ind, i :: rest => if i.block then (ind, i :: rest) else dropOneCol i.outer rest

theorem dropOneCol_top (ind : Int) (stack : List Indent) :
    ∀ i ∈ (dropOneCol ind stack).2.head?, i.block = true := by
  induction stack generalizing ind with
  | nil => simp [dropOneCol]
  | cons i rest ih =>
    simp only [dropOneCol]
    split
    · rename_i h
      simpa using h
    · exact ih i.outer

namespace Lexer

/-- The innermost hidden level ends a block. -/
def topIsBlock (s : Lexer) : Bool :=
  match s.indents with
  | i :: _ => i.block
  | [] => false

/-- The character `k` places ahead (NUL past the end). -/
def peek (k : Nat) : Lex Char := do
  let s ← get
  pure (s.cs.getD (s.pos + k) (Char.ofNat 0))

/-- The place reached. -/
def here : Lex Mark := do pure (← get).mark

/-- Fail at a place. -/
def fail {α : Type} (m : Mark) (msg : String) : Lex α := throw ⟨m, msg⟩

/-- How many characters are left, and two more: a bound for every loop. -/
def room : Lex Nat := do
  let s ← get
  pure (s.cs.size - s.pos + 2)

/-- Step over a blank (or a character of a comment or block scalar line). -/
def skipBlank : Lex Unit := modify fun s =>
  { s with pos := s.pos + 1, mark := { s.mark with index := s.mark.index + 1, col := s.mark.col + 1 } }

/-- Step over a character of content: the line is no longer only blanks. -/
def skip : Lex Unit := modify fun s =>
  { s with pos := s.pos + 1, mark := { s.mark with index := s.mark.index + 1, col := s.mark.col + 1 },
           lineStart := false }

/-- Step over `n` characters that end a line. -/
def breakLine (n : Nat) : Lex Unit := modify fun s =>
  { s with pos := s.pos + n, mark := ⟨s.mark.index + n, s.mark.line + 1, 0⟩, lineStart := true }

/-- Step over one line break, `\r\n` counting as one. -/
def skipLine : Lex Unit := do
  let c ← peek 0
  if c == '\r' && (← peek 1) == '\n' then breakLine 2
  else if isLineBreak c then breakLine 1

/-- Step over `k` characters of content. -/
def skipN : Nat → Lex Unit
  | 0 => pure ()
  | k + 1 => do skip; skipN k

/-- Append a token. -/
def push (m : Mark) (k : TokenKind) : Lex Unit :=
  modify fun s => { s with tokens := s.tokens.push ⟨m, k⟩ }

/-- Slip a token in at a given number. -/
def insertAt (n : Nat) (t : Token) : Lex Unit := modify fun s =>
  { s with tokens := s.tokens.extract 0 n ++ #[t] ++ s.tokens.extract n s.tokens.size }

/-- A simple key may start here. -/
def allowKey : Lex Unit := modify fun s => { s with keyAllowed := true }
/-- No simple key may start here. -/
def disallowKey : Lex Unit := modify fun s => { s with keyAllowed := false }

/-- Close the levels deeper than a column (block context only). -/
def unrollIndent (col : Int) : Lex Unit := modify fun s =>
  if s.flowLevel > 0 then s
  else
    let r := unrollFrom s.mark col s.indent s.indents s.tokens
    { s with indent := r.1, indents := r.2.1, tokens := r.2.2 }

/-- Drop the one-column levels above the innermost block level. -/
def dropOneCols : Lex Unit := modify fun s =>
  let r := dropOneCol s.indent s.indents
  { s with indent := r.1, indents := r.2 }

/-- Open a one-column level above a block level (block context only). -/
def rollOneCol : Lex Unit := modify fun s =>
  if s.flowLevel == 0 && s.topIsBlock then
    { s with indents := ⟨s.indent, false⟩ :: s.indents, indent := s.indent + 1 }
  else s

/-- Open a block at a deeper column with the given token, appended or slipped
in at a token number; a one-column level not deeper than the column gives
way first. -/
def rollIndent (col : Nat) (number : Option Nat) (kind : TokenKind) (m : Mark) : Lex Unit := do
  let s ← get
  if s.flowLevel == 0 then
    let s := if s.indent ≤ (col : Int) then
        match s.indents with
        | i :: rest => if i.block then s else { s with indent := i.outer, indents := rest }
        | [] => s
      else s
    set s
    if s.indent < (col : Int) then
      set { s with indents := ⟨s.indent, true⟩ :: s.indents, indent := (col : Int) }
      match number with
      | some n => insertAt n ⟨m, kind⟩
      | none => push m kind

/-- Drop the pending key of this level; a required one is an error. -/
def removeKey : Lex Unit := do
  let s ← get
  match s.keys with
  | k :: rest =>
    if k.possible && k.required then fail s.mark "simple key expected"
    else set { s with keys := { k with possible := false } :: rest }
  | [] => pure ()

/-- Note that the next token may be a simple key. -/
def saveKey : Lex Unit := modify fun s =>
  if s.keyAllowed then
    let required := s.flowLevel == 0 && s.indent == (s.mark.col : Int) && s.topIsBlock
    { s with keys := ⟨true, required, s.tokens.size, s.mark⟩ :: s.keys.drop 1 }
  else s

/-- Outside flow collections a key cannot span lines or more than 1024
characters. -/
def staleKeys : Lex Unit := do
  let s ← get
  if s.flowLevel == 0 then
    let keys ← s.keys.mapM fun k =>
      if k.possible && (decide (k.mark.line < s.mark.line) || decide (k.mark.index + 1024 < s.mark.index)) then
        if k.required then (fail s.mark "simple key expect ':'" : Lex SimpleKey)
        else pure { k with possible := false }
      else pure k
    set { s with keys }

/-- Skip to the end of the line. -/
def skipComment : Nat → Lex Unit
  | 0 => pure ()
  | n + 1 => do
    if isBreakOrEnd (← peek 0) then pure () else do skipBlank; skipComment n

/-- Skip spaces (and tabs when `tabs`) and a comment up to the end of the
line; a comment must follow a blank. Whether a tab and whether a space were
passed. -/
def skipToLineEnd (tabs : Bool) : Nat → Bool → Bool → Lex (Bool × Bool)
  | 0, t, sp => pure (t, sp)
  | n + 1, t, sp => do
    let c ← peek 0
    if c == ' ' then do skipBlank; skipToLineEnd tabs n t true
    else if c == '\t' && tabs then do skipBlank; skipToLineEnd tabs n true sp
    else if c == '#' then
      if !t && !sp then fail (← here) "comments must be separated from other tokens by whitespace"
      else do skipComment (← room); skipToLineEnd tabs n t sp
    else pure (t, sp)

/-- Skip blanks, comments and line breaks before a token. A tab in the
indentation of a block may only stand on a line without content. -/
def skipToToken : Nat → Lex Unit
  | 0 => pure ()
  | n + 1 => do
    let c ← peek 0
    let s ← get
    if c == '\t' && !s.indents.isEmpty && s.lineStart && (s.mark.col : Int) < s.indent then do
      let _ ← skipToLineEnd true (← room) false false
      if !isBreakOrEnd (← peek 0) then
        fail (← here) "tabs disallowed within this context (block indentation)"
      skipToToken n
    else if isBlank c then do skipBlank; skipToToken n
    else if isLineBreak c then do
      skipLine
      if s.flowLevel == 0 then allowKey
      skipToToken n
    else if c == '#' then do skipComment (← room); skipToToken n
    else pure ()

/-- Characters while a test holds, appended to `acc`. -/
def takeWhile (p : Char → Bool) : Nat → String → Lex String
  | 0, acc => pure acc
  | n + 1, acc => do
    let c ← peek 0
    if !isEnd c && p c then do skip; takeWhile p n (acc.push c) else pure acc

/-- Skip spaces and tabs. -/
def skipBlanks : Nat → Lex Unit
  | 0 => pure ()
  | n + 1 => do if isBlank (← peek 0) then do skipBlank; skipBlanks n else pure ()

def streamStart : Lex Unit := do
  modify fun s => { s with indent := -1, started := true, keyAllowed := true, keys := [SimpleKey.unset] }
  push (← here) .streamStart

/-- The end of the text: a key still required is missing its `:`. -/
def streamEnd : Lex Unit := do
  modify fun s =>
    if s.mark.col != 0 then { s with mark := { s.mark with col := 0, line := s.mark.line + 1 } } else s
  let s ← get
  if s.keys.any (fun k => k.required && k.possible) then fail s.mark "simple key expected"
  set { s with keys := s.keys.map fun (k : SimpleKey) => { k with possible := false } }
  unrollIndent (-1)
  removeKey
  disallowKey
  push (← here) .streamEnd
  modify fun s => { s with ended := true }

def documentIndicator (k : TokenKind) : Lex Unit := do
  unrollIndent (-1)
  removeKey
  disallowKey
  let m ← here
  skipN 3
  push m k

/-- A number of a `%YAML` directive: at most nine digits. -/
def versionNumber (m : Mark) : Nat → Nat → Nat → Lex Nat
  | 0, _, v => pure v
  | fuel + 1, len, v => do
    let c ← peek 0
    if c.isDigit then
      if len + 1 > 9 then fail m "while scanning a YAML directive, found extremely long version number"
      skip
      versionNumber m fuel (len + 1) (v * 10 + (c.toNat - 48))
    else if len == 0 then fail m "while scanning a YAML directive, did not find expected version number"
    else pure v

/-- The value of a `%YAML` directive, `major.minor`. -/
def versionValue (m : Mark) : Lex TokenKind := do
  skipBlanks (← room)
  let major ← versionNumber m (← room) 0 0
  if (← peek 0) != '.' then
    fail m "while scanning a YAML directive, did not find expected digit or '.' character"
  skip
  let minor ← versionNumber m (← room) 0 0
  pure (.versionDirective major minor)

/-- A character written as percent-escaped octets in a tag. The octets of a
character of several are joined as one big-endian number, which must be a
code point. -/
def uriEscapes (m : Mark) : Nat → Nat → Nat → Lex Char
  | 0, _, code => pure (Char.ofNat code)
  | fuel + 1, width, code => do
    let c1 ← peek 1
    let c2 ← peek 2
    if !((← peek 0) == '%' && isHexChar c1 && isHexChar c2) then
      fail m "while parsing a tag, did not find URI escaped octet"
    let byte := hexValue c1 * 16 + hexValue c2
    let lead :=
      if byte < 0x80 then 1 else if 0xC0 ≤ byte && byte < 0xE0 then 2
      else if 0xE0 ≤ byte && byte < 0xF0 then 3 else if 0xF0 ≤ byte && byte < 0xF8 then 4 else 0
    if width == 0 && lead == 0 then
      fail m "while parsing a tag, found an incorrect leading UTF-8 octet"
    if width != 0 && !(0x80 ≤ byte && byte < 0xC0) then
      fail m "while parsing a tag, found an incorrect trailing UTF-8 octet"
    let (width, code) := if width == 0 then (lead, byte) else (width, code * 256 + byte)
    skipN 3
    if width ≤ 1 then
      if code < 0xD800 || (0xDFFF < code && code < 0x110000) then pure (Char.ofNat code)
      else fail m "while parsing a tag, found an invalid UTF-8 codepoint"
    else uriEscapes m fuel (width - 1) code

/-- Characters while a test holds, percent escapes decoded. -/
def uriRun (m : Mark) (ok : Char → Bool) : Nat → String → Lex String
  | 0, acc => pure acc
  | n + 1, acc => do
    let c ← peek 0
    if isEnd c || !ok c then pure acc
    else if c == '%' then do
      let e ← uriEscapes m (← room) 0 0
      uriRun m ok n (acc.push e)
    else do skip; uriRun m ok n (acc.push c)

/-- A tag handle: `!`, `!!` or `!name!`; in a directive a bare `!name` is an
error, in a tag it is the start of a suffix. -/
def tagHandle (directive : Bool) (m : Mark) : Lex String := do
  if (← peek 0) != '!' then fail m "while scanning a tag, did not find expected '!'"
  skip
  let word ← takeWhile isNameChar (← room) "!"
  if (← peek 0) == '!' then do
    skip
    pure (word.push '!')
  else if directive && word != "!" then fail m "while parsing a tag directive, did not find expected '!'"
  else pure word

/-- The prefix of a `%TAG` directive: local (from `!`) or global. -/
def tagPrefix (m : Mark) : Lex String := do
  let c ← peek 0
  let first ← if c == '!' then do skip; pure "!"
    else if !isTagChar c then fail m "invalid global tag character"
    else if c == '%' then do
      let e ← uriEscapes m (← room) 0 0
      pure (String.singleton e)
    else do skip; pure (String.singleton c)
  uriRun m isUriChar (← room) first

/-- The value of a `%TAG` directive: a handle and a prefix. -/
def tagValue (m : Mark) : Lex TokenKind := do
  skipBlanks (← room)
  let handle ← tagHandle true m
  skipBlanks (← room)
  let pfx ← tagPrefix m
  if isBlankOrEnd (← peek 0) then pure (.tagDirective handle pfx)
  else fail m "while scanning TAG, did not find expected whitespace or line break"

/-- A directive line: `%YAML`, `%TAG`, or another name whose line is passed
over. -/
def directive : Lex Unit := do
  unrollIndent (-1)
  removeKey
  disallowKey
  let start ← here
  skip
  let nameMark ← here
  let name ← takeWhile isNameChar (← room) ""
  if name.isEmpty then fail nameMark "while scanning a directive, could not find expected directive name"
  if !isBlankOrEnd (← peek 0) then
    fail nameMark "while scanning a directive, found unexpected non-alphabetical character"
  let tok ← match name with
    | "YAML" => versionValue start
    | "TAG" => tagValue start
    | _ => do
      let _ ← takeWhile (fun c => !isLineBreak c) (← room) ""
      pure (.tagDirective "" "")
  skipBlanks (← room)
  if (← peek 0) == '#' then skipComment (← room)
  if !isBreakOrEnd (← peek 0) then
    fail start "while scanning a directive, did not find expected comment or line break"
  skipLine
  push start tok

/-- Close the one-pair mapping open in the innermost flow sequence. -/
def endPair (m : Mark) : Lex Unit := do
  let s ← get
  match s.pairs with
  | true :: rest =>
    set { s with mapOpened := false, pairs := false :: rest }
    push m .flowMappingEnd
  | _ => pure ()

def flowStart (isMap : Bool) : Lex Unit := do
  saveKey
  rollOneCol
  let s ← get
  if s.flowLevel ≥ 255 then fail s.mark "recursion limit exceeded"
  set { s with keys := SimpleKey.unset :: s.keys, flowLevel := s.flowLevel + 1 }
  allowKey
  let m ← here
  skip
  if isMap then modify fun s => { s with mapOpened := true }
  else modify fun s => { s with pairs := false :: s.pairs }
  let _ ← skipToLineEnd true (← room) false false
  push m (if isMap then .flowMappingStart else .flowSequenceStart)

def flowEnd (isMap : Bool) : Lex Unit := do
  removeKey
  modify fun s => if s.flowLevel > 0 then { s with flowLevel := s.flowLevel - 1, keys := s.keys.drop 1 } else s
  disallowKey
  if isMap then modify fun s => { s with mapOpened := false }
  else do
    endPair (← here)
    modify fun s => { s with pairs := s.pairs.drop 1 }
  let m ← here
  skip
  let _ ← skipToLineEnd true (← room) false false
  let s ← get
  -- a collection that is a key may be followed by its `:` directly
  if s.flowLevel > 0 then set { s with adjacentAt := s.mark.index }
  push m (if isMap then .flowMappingEnd else .flowSequenceEnd)

def flowEntry : Lex Unit := do
  removeKey
  allowKey
  endPair (← here)
  let m ← here
  skip
  let _ ← skipToLineEnd true (← room) false false
  push m .flowEntry

def blockEntry : Lex Unit := do
  let s ← get
  if s.flowLevel > 0 then fail s.mark "\"-\" is only valid inside a block"
  if !s.keyAllowed then fail s.mark "block sequence entries are not allowed in this context"
  let m ← here
  skip
  rollIndent m.col none .blockSequenceStart m
  let (tabs, _) ← skipToLineEnd true (← room) false false
  if tabs && (← peek 0) == '-' && isBlankOrEnd (← peek 1) then
    fail (← here) "'-' must be followed by a valid YAML whitespace"
  let _ ← skipToLineEnd false (← room) false false
  let c ← peek 0
  if isLineBreak c || isFlowMark c then rollOneCol
  removeKey
  allowKey
  push m .blockEntry

/-- Spaces, comments and line breaks after an explicit key's `?`; at least
one is needed. -/
def keySpace : Nat → Bool → Lex Unit
  | 0, _ => pure ()
  | n + 1, seen => do
    let c ← peek 0
    if c == ' ' then do skipBlank; keySpace n true
    else if isLineBreak c then do
      skipLine
      if (← get).flowLevel == 0 then allowKey
      keySpace n true
    else if c == '#' then do skipComment (← room); keySpace n seen
    else if !seen then fail (← here) "expected whitespace"
    else pure ()

def explicitKey : Lex Unit := do
  let s ← get
  let m := s.mark
  if s.flowLevel == 0 then
    if !s.keyAllowed then fail m "mapping keys are not allowed in this context"
    rollIndent m.col none .blockMappingStart m
  else modify fun s => { s with mapOpened := true }
  removeKey
  if s.flowLevel == 0 then allowKey else disallowKey
  skip
  keySpace (← room) false
  if (← peek 0) == '\t' then fail (← here) "tabs disallowed in this context"
  push m .key

def value : Lex Unit := do
  let s ← get
  let m := s.mark
  let pair := !s.pairs.isEmpty && !s.mapOpened
  if pair then set { s with pairs := true :: s.pairs.drop 1 }
  skip
  if (← peek 0) == '\t' then
    let (_, spaced) ← skipToLineEnd true (← room) false false
    let c ← peek 0
    if !spaced && (c == '-' || isNameChar c) then
      fail (← here) "':' must be followed by a valid YAML whitespace"
  let s ← get
  match s.keys with
  | k :: _ =>
    if k.possible then
      insertAt k.tokenNumber ⟨k.mark, .key⟩
      if pair then
        if k.mark.line < m.line then fail m "illegal placement of ':' indicator"
        insertAt k.tokenNumber ⟨s.mark, .flowMappingStart⟩
      rollIndent k.mark.col (some k.tokenNumber) .blockMappingStart k.mark
      rollOneCol
      modify fun s => { s with keys := { k with possible := false } :: s.keys.drop 1 }
      disallowKey
    else
      if pair then push s.mark .flowMappingStart
      if s.flowLevel == 0 then
        if !s.keyAllowed then fail m "mapping values are not allowed in this context"
        rollIndent m.col none .blockMappingStart m
      rollOneCol
      if s.flowLevel == 0 then allowKey else disallowKey
  | [] => pure ()
  push m .value

/-- A `:` inside a flow collection not followed by a blank: a value comes
directly after a quoted key or a collection, or is empty. -/
def flowValue : Lex Unit := do
  let s ← get
  let c1 ← peek 1
  if s.mark.index != s.adjacentAt && (c1 == '[' || c1 == '\x7b') then
    fail s.mark "':' may not precede any of `[\x7b` in flow mapping"
  value

def anchorOrAlias (isAlias : Bool) : Lex Unit := do
  saveKey
  disallowKey
  let m ← here
  skip
  let name ← takeWhile isAnchorChar (← room) ""
  if name.isEmpty then
    fail m "while scanning an anchor or alias, did not find expected alphabetic or numeric character"
  push m (if isAlias then .alias name else .anchor name)

/-- The suffix of a tag after its handle; `head` is a bare `!name` read as a
handle, whose name starts the suffix. -/
def shorthandSuffix (head : String) (m : Mark) : Lex String := do
  let s ← uriRun m isTagChar (← room) (String.ofList (head.toList.drop 1))
  if head.isEmpty && s.isEmpty then fail m "while parsing a tag, did not find expected tag URI"
  pure s

/-- A tag `!<uri>` written out in full. -/
def verbatimTag (m : Mark) : Lex String := do
  skipN 2
  let s ← uriRun m isUriChar (← room) ""
  if (← peek 0) != '>' then fail m "while scanning a verbatim tag, did not find the expected '>'"
  skip
  pure s

/-- A tag: handle and suffix. A lone `!` has the empty handle and suffix `!`;
a named handle `!name!` is resolved when the document is read. -/
def tag : Lex Unit := do
  saveKey
  disallowKey
  let m ← here
  let (handle, suffix) ← if (← peek 1) == '<' then do
      let s ← verbatimTag m
      pure ("", s)
    else do
      let h ← tagHandle false m
      if h.length ≥ 2 && h.endsWith "!" then do
        let s ← shorthandSuffix "" m
        pure (h, s)
      else do
        let s ← shorthandSuffix h m
        pure (if s.isEmpty then ("", "!") else ("!", s))
  let c ← peek 0
  let s ← get
  if isBlankOrEnd c || (s.flowLevel > 0 && isFlowMark c) then push m (.tag handle suffix)
  else fail m "while scanning a tag, did not find expected whitespace or line break"

/-- The accumulators of a scalar that folds lines. -/
structure Folding where
  text : String := ""
  leadingBreak : String := ""
  trailingBreaks : String := ""
  spaces : String := ""
  leadingBlanks : Bool := false

/-- Join what stood between two runs of a flow scalar: blanks are kept, one
line break becomes a space, more line breaks are kept less one. -/
def Folding.join (f : Folding) : Folding :=
  if f.leadingBlanks then
    if f.leadingBreak.isEmpty || !f.trailingBreaks.isEmpty then
      { f with text := f.text ++ f.trailingBreaks, trailingBreaks := "", leadingBreak := "",
               leadingBlanks := false }
    else { f with text := f.text.push ' ', leadingBreak := "", leadingBlanks := false }
  else { f with text := f.text ++ f.spaces, spaces := "" }

/-- The character of an escape code, if it names one. -/
def escapeCode (v : Nat) : Option Char :=
  if v < 0xD800 || (0xDFFF < v && v < 0x110000) then some (Char.ofNat v) else none

/-- The character named by a one-letter escape. -/
def escapeLetter (c : Char) : Option Char :=
  match c with
  | '0' => some (Char.ofNat 0) | 'a' => some (Char.ofNat 7) | 'b' => some (Char.ofNat 8)
  | 't' => some '\t' | '\t' => some '\t' | 'n' => some '\n' | 'v' => some (Char.ofNat 11)
  | 'f' => some (Char.ofNat 12) | 'r' => some '\r' | 'e' => some (Char.ofNat 27)
  | ' ' => some ' ' | '"' => some '"' | '/' => some '/' | '\\' => some '\\'
  | 'N' => some (Char.ofNat 0x85) | '_' => some (Char.ofNat 0xA0)
  | 'L' => some (Char.ofNat 0x2028) | 'P' => some (Char.ofNat 0x2029)
  | _ => none

/-- The value of `k` hexadecimal digits ahead, if they are digits. -/
def hexAhead (k : Nat) : Lex (Option Nat) := do
  let s ← get
  let ds := (List.range k).map fun i => s.cs.getD (s.pos + i) (Char.ofNat 0)
  if ds.all isHexChar then pure (some (ds.foldl (fun acc c => acc * 16 + hexValue c) 0))
  else pure none

/-- The non-blank characters of a quoted scalar, up to its closing quote, a
blank or an escaped line break. -/
def quotedChars (single : Bool) (start : Mark) : Nat → Folding → Lex Folding
  | 0, f => pure f
  | n + 1, f => do
    let c ← peek 0
    if isBlankOrEnd c then pure f
    else
      let c1 ← peek 1
      if single && c == '\'' && c1 == '\'' then do
        skipN 2
        quotedChars single start n { f with text := f.text.push '\'' }
      else if single && c == '\'' then pure f
      else if !single && c == '"' then pure f
      else if !single && c == '\\' && isLineBreak c1 then do
        skip
        skipLine
        pure { f with leadingBlanks := true }
      else if !single && c == '\\' then do
        let width := if c1 == 'x' then 2 else if c1 == 'u' then 4 else if c1 == 'U' then 8 else 0
        if width == 0 then
          match escapeLetter c1 with
          | some e => do
            skipN 2
            quotedChars single start n { f with text := f.text.push e }
          | none => fail start "while parsing a quoted scalar, found unknown escape character"
        else do
          skipN 2
          match ← hexAhead width with
          | none => fail start "while parsing a quoted scalar, did not find expected hexadecimal number"
          | some v =>
            match escapeCode v with
            | none => fail start "while parsing a quoted scalar, found invalid Unicode character escape code"
            | some e => do
              skipN width
              quotedChars single start n { f with text := f.text.push e }
      else do
        skip
        quotedChars single start n { f with text := f.text.push c }

/-- The blanks and line breaks inside a quoted scalar; a tab may not indent. -/
def quotedBlanks : Nat → Folding → Lex Folding
  | 0, f => pure f
  | n + 1, f => do
    let c ← peek 0
    let s ← get
    if isBlank c then do
      if f.leadingBlanks && c == '\t' && (s.mark.col : Int) < s.indent then
        fail s.mark "tab cannot be used as indentation"
      skipBlank
      quotedBlanks n (if f.leadingBlanks then f else { f with spaces := f.spaces.push c })
    else if isLineBreak c then do
      skipLine
      if f.leadingBlanks then quotedBlanks n { f with trailingBreaks := f.trailingBreaks.push '\n' }
      else quotedBlanks n { f with spaces := "", leadingBreak := f.leadingBreak.push '\n', leadingBlanks := true }
    else pure f

/-- The three characters ahead are `---` or `...` at the start of a line,
followed by a blank or the end. -/
def atDocumentMarker : Lex Bool := do
  let m ← here
  let c0 ← peek 0
  let c1 ← peek 1
  let c2 ← peek 2
  let c3 ← peek 3
  pure (m.col == 0 && ((c0 == '-' && c1 == '-' && c2 == '-') || (c0 == '.' && c1 == '.' && c2 == '.')) &&
    isBlankOrEnd c3)

/-- The body of a quoted scalar, its opening quote consumed. Its lines may not
stand left of the indentation. -/
def quotedBody (single : Bool) (start : Mark) : Nat → Folding → Lex Folding
  | 0, f => pure f
  | n + 1, f => do
    if ← atDocumentMarker then
      fail start "while scanning a quoted scalar, found unexpected document indicator"
    if isEnd (← peek 0) then fail start "while scanning a quoted scalar, found unexpected end of stream"
    let s ← get
    if (s.mark.col : Int) < s.indent then fail start "invalid indentation in quoted scalar"
    let f ← quotedChars single start (← room) { f with leadingBlanks := false }
    let c ← peek 0
    if (single && c == '\'') || (!single && c == '"') then pure f
    else
      let f ← quotedBlanks (← room) f
      quotedBody single start n f.join

/-- A quoted scalar. Only a comment, the end of the line, a `:` (on the same
line in a block) or, in a flow collection, `,` `]` `\x7d` may follow it. -/
def quoted (single : Bool) : Lex Unit := do
  saveKey
  disallowKey
  let start ← here
  skip
  let f ← quotedBody single start (← room) {}
  skip
  let _ ← skipToLineEnd true (← room) false false
  let s ← get
  let c ← peek 0
  let fine := (s.flowLevel > 0 && (c == ',' || c == '\x7d' || c == ']')) || isBreakOrEnd c ||
    (c == ':' && (s.flowLevel > 0 || start.line == s.mark.line))
  if !fine then fail s.mark "invalid trailing content after double-quoted scalar"
  skipToToken (← room)
  -- a quoted key may be followed by its `:` directly
  modify fun s => { s with adjacentAt := s.mark.index }
  push start (.scalar (if single then .singleQuoted else .doubleQuoted) f.text)

/-- The character may continue a plain scalar: `:` must not be followed by a
blank (or, in flow, a flow indicator), and in flow no flow indicator. -/
def plainGoesOn (inFlow : Bool) (c c1 : Char) : Bool :=
  if c == ':' && (isBlankOrEnd c1 || (inFlow && isFlowMark c1)) then false
  else !(inFlow && isFlowMark c)

/-- The non-blank characters of a plain scalar. -/
def plainChars : Nat → String → Lex String
  | 0, t => pure t
  | n + 1, t => do
    let c ← peek 0
    let c1 ← peek 1
    let s ← get
    if isBlankOrEnd c || !plainGoesOn (s.flowLevel > 0) c c1 then pure t
    else do skip; plainChars n (t.push c)

/-- The blanks and line breaks after a run of a plain scalar. A tab left of
the scalar's indentation may only stand on an empty line. -/
def plainBlanks (indent : Int) (start : Mark) : Nat → Folding → Lex Folding
  | 0, f => pure f
  | n + 1, f => do
    let c ← peek 0
    let s ← get
    if isBlank c then
      if !s.lineStart then do
        skipBlank
        plainBlanks indent start n { f with spaces := f.spaces.push c }
      else if (s.mark.col : Int) < indent && c == '\t' then do
        let _ ← skipToLineEnd true (← room) false false
        if !isBreakOrEnd (← peek 0) then fail start "while scanning a plain scalar, found a tab"
        plainBlanks indent start n f
      else do
        skipBlank
        plainBlanks indent start n f
    else if isLineBreak c then do
      skipLine
      if s.lineStart then plainBlanks indent start n { f with trailingBreaks := f.trailingBreaks.push '\n' }
      else plainBlanks indent start n { f with spaces := "", leadingBreak := f.leadingBreak.push '\n' }
    else pure f

/-- Join the blanks before a new run of a plain scalar, on the same line or
after line breaks. -/
def plainJoin (lineStart : Bool) (f : Folding) : Folding :=
  if lineStart then
    if f.leadingBreak.isEmpty then
      { f with text := f.text ++ f.trailingBreaks, trailingBreaks := "" }
    else if f.trailingBreaks.isEmpty then
      { f with text := f.text.push ' ', leadingBreak := "" }
    else
      { f with text := f.text ++ f.trailingBreaks, trailingBreaks := "", leadingBreak := "" }
  else { f with text := f.text ++ f.spaces, spaces := "" }

/-- The runs of a plain scalar, while lines stay deeper than the indent. -/
def plainBody (indent : Int) (start : Mark) : Nat → Folding → Lex Folding
  | 0, f => pure f
  | n + 1, f => do
    if ← atDocumentMarker then pure f
    else if (← peek 0) == '#' then pure f
    else
      let s ← get
      let c ← peek 0
      let c1 ← peek 1
      if s.flowLevel > 0 && c == '-' && isFlowMark c1 then
        fail s.mark "plain scalar cannot start with '-' followed by ,[]\x7b\x7d"
      let f ← if !isBlankOrEnd c && plainGoesOn (s.flowLevel > 0) c c1 then do
          let f := plainJoin s.lineStart f
          let t ← plainChars (← room) f.text
          pure { f with text := t }
        else pure f
      let c ← peek 0
      if !(isBlank c || isLineBreak c) then pure f
      else
        let f ← plainBlanks indent start (← room) f
        let s ← get
        if s.flowLevel == 0 && (s.mark.col : Int) < indent then pure f
        else plainBody indent start n f

/-- A plain scalar. In a flow collection it may not start left of the
enclosing block's content. -/
def plain : Lex Unit := do
  saveKey
  disallowKey
  dropOneCols
  let s ← get
  let indent := s.indent + 1
  let start := s.mark
  if s.flowLevel > 0 && (start.col : Int) < indent then fail start "invalid indentation in flow construct"
  let f ← plainBody indent start (← room) {}
  if (← get).lineStart then allowKey
  if f.text.isEmpty then fail start "unexpected end of plain scalar"
  push start (.scalar .plain f.text)

/-- Spaces up to the indent of a block scalar, and the empty lines. -/
def blockIndent (indent : Nat) : Nat → String → Lex String
  | 0, breaks => pure breaks
  | n + 1, breaks => do
    let col := (← here).col
    let _ ← takeWhile (· == ' ') (indent - col) ""
    if isLineBreak (← peek 0) then do
      skipLine
      blockIndent indent n (breaks.push '\n')
    else pure breaks

/-- The empty lines before a block scalar's first line; its indent is the
deepest of them and the first line, and at least one more than the
enclosing level. -/
def firstIndent : Nat → Nat → String → Lex (Nat × String)
  | 0, deepest, breaks => pure (deepest, breaks)
  | n + 1, deepest, breaks => do
    let _ ← takeWhile (· == ' ') (← room) ""
    let deepest := max deepest (← here).col
    if isLineBreak (← peek 0) then do
      skipLine
      firstIndent n deepest (breaks.push '\n')
    else
      let s ← get
      let least := (s.indent + 1).toNat
      pure (if s.indent > 0 then max (max deepest least) 1 else max deepest least, breaks)

/-- A content line of a block scalar, to its line break. -/
def blockLine : Nat → String → Lex String
  | 0, t => pure t
  | n + 1, t => do
    let c ← peek 0
    if isBreakOrEnd c then pure t else do skipBlank; blockLine n (t.push c)

/-- The lines of a block scalar at its indent. -/
def blockLines (literal : Bool) (indent : Nat) : Nat → Folding → Lex Folding
  | 0, f => pure f
  | n + 1, f => do
    let m ← here
    let c ← peek 0
    let c1 ← peek 1
    let c2 ← peek 2
    let c3 ← peek 3
    if !(m.col == indent && !isEnd c) then pure f
    else if indent == 0 && c == '.' && c1 == '.' && c2 == '.' && isBlankOrEnd c3 then pure f
    else
      let trailingBlank := isBlank c
      let f :=
        if !literal && !f.leadingBreak.isEmpty && !f.leadingBlanks && !trailingBlank then
          { f with text := if f.trailingBreaks.isEmpty then f.text.push ' ' else f.text, leadingBreak := "" }
        else { f with text := f.text ++ f.leadingBreak, leadingBreak := "" }
      let f := { f with text := f.text ++ f.trailingBreaks, trailingBreaks := "", leadingBlanks := trailingBlank }
      let t ← blockLine (← room) f.text
      let f := { f with text := t }
      if isEnd (← peek 0) then pure f
      else do
        skipLine
        let tb ← blockIndent indent (← room) ""
        blockLines literal indent n { f with leadingBreak := "\n", trailingBreaks := tb }

/-- How a block scalar treats its final line breaks. -/
inductive Chomping where
  | strip | clip | keep
deriving DecidableEq

/-- A literal (`|`) or folded (`>`) scalar. Its token stands at its first
content line. -/
def blockScalar (literal : Bool) : Lex Unit := do
  saveKey
  allowKey
  let start ← here
  skip
  dropOneCols
  let c ← peek 0
  let mut chomp := Chomping.clip
  let mut increment : Nat := 0
  if c == '+' || c == '-' then
    chomp := if c == '+' then .keep else .strip
    skip
    let d ← peek 0
    if d.isDigit then
      if d == '0' then
        fail start "while scanning a block scalar, found an indentation indicator equal to 0"
      increment := d.toNat - 48
      skip
  else if c.isDigit then
    if c == '0' then
      fail start "while scanning a block scalar, found an indentation indicator equal to 0"
    increment := c.toNat - 48
    skip
    let d ← peek 0
    if d == '+' || d == '-' then
      chomp := if d == '+' then .keep else .strip
      skip
  let _ ← skipToLineEnd true (← room) false false
  if !isBreakOrEnd (← peek 0) then
    fail start "while scanning a block scalar, did not find expected comment or line break"
  let chompBreak := if isLineBreak (← peek 0) then "\n" else ""
  skipLine
  if (← peek 0) == '\t' then fail start "a block scalar content cannot start with a tab"
  let s ← get
  let given : Nat :=
    if increment > 0 then (if s.indent ≥ 0 then (s.indent + increment).toNat else increment) else 0
  let (indent, breaks) ← if given == 0 then firstIndent (← room) 0 ""
    else do
      let b ← blockIndent given (← room) ""
      pure (given, b)
  let style := if literal then ScalarStyle.literal else .folded
  if isEnd (← peek 0) then
    let m ← here
    let text := match chomp with
      | .strip => ""
      | .clip => if m.line == start.line then "" else chompBreak
      | .keep => if m.line == start.line then "" else if breaks.isEmpty then chompBreak else breaks
    push start (.scalar style text)
  else
    let m ← here
    if m.col < indent && (m.col : Int) > (← get).indent then
      fail m "wrongly indented line in block scalar"
    let f ← blockLines literal indent (← room) { trailingBreaks := breaks }
    -- a last line cut by the end of the text still counts as ended
    let e ← here
    let cut := isEnd (← peek 0) && e.col ≥ max indent 1
    let text := if chomp != .strip then f.text ++ f.leadingBreak ++ (if cut then "\n" else "") else f.text
    let text := if chomp == .keep then text ++ f.trailingBreaks else text
    push m (.scalar style text)

/-- Make the next token (or tokens: closing blocks come first). -/
def fetchNext : Lex Unit := do
  if !(← get).started then streamStart
  else
    skipToToken (← room)
    staleKeys
    let m ← here
    unrollIndent m.col
    let c ← peek 0
    let c1 ← peek 1
    let c2 ← peek 2
    let c3 ← peek 3
    let s ← get
    if isEnd c then streamEnd
    else if m.col == 0 && c == '%' then directive
    else if m.col == 0 && c == '-' && c1 == '-' && c2 == '-' && isBlankOrEnd c3 then
      documentIndicator .documentStart
    else if m.col == 0 && c == '.' && c1 == '.' && c2 == '.' && isBlankOrEnd c3 then do
      documentIndicator .documentEnd
      let _ ← skipToLineEnd true (← room) false false
      if !isBreakOrEnd (← peek 0) then fail (← here) "invalid content after document end marker"
    else if (m.col : Int) < s.indent then fail m "invalid indentation"
    else if c == '[' then flowStart false
    else if c == '\x7b' then flowStart true
    else if c == ']' then flowEnd false
    else if c == '\x7d' then flowEnd true
    else if c == ',' then flowEntry
    else if c == '-' && isBlankOrEnd c1 then blockEntry
    else if c == '?' && isBlankOrEnd c1 then explicitKey
    else if c == ':' && isBlankOrEnd c1 then value
    else if c == ':' && s.flowLevel > 0 && (isFlowMark c1 || m.index == s.adjacentAt) then flowValue
    else if c == '*' then anchorOrAlias true
    else if c == '&' then anchorOrAlias false
    else if c == '!' then tag
    else if c == '|' && s.flowLevel == 0 then blockScalar true
    else if c == '>' && s.flowLevel == 0 then blockScalar false
    else if c == '\'' then quoted true
    else if c == '"' then quoted false
    else if c == '%' || c == '@' || c == '`' then
      fail m ("unexpected character: `" ++ String.ofList [c] ++ "'")
    else plain

/-- More tokens are needed before the next one is settled. -/
def needMore : Lex Bool := do
  let s ← get
  if s.tokens.size ≤ s.taken then pure true
  else
    staleKeys
    let s ← get
    pure (s.keys.any fun k => k.possible && k.tokenNumber == s.taken)

/-- Make tokens until the next one is settled. -/
def fetchMore : Nat → Lex Unit
  | 0 => pure ()
  | n + 1 => do
    if (← get).ended then pure ()
    else if ← needMore then do fetchNext; fetchMore n
    else pure ()

/-- The next token, made if need be. -/
def peekToken : Lex Token := do
  fetchMore ((← room) + 4)
  let s ← get
  pure (s.tokens.getD s.taken ⟨s.mark, .streamEnd⟩)

/-- Take the next token. -/
def takeToken : Lex Unit := modify fun s => { s with taken := s.taken + 1 }

end Lexer

end EpicFlow.Yaml
