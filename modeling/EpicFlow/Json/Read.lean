import EpicFlow.Json.Shape

/-!
# Reading JSON text

A reader over the characters of a document that reports the first fault it
meets, with its line and its column (counted in bytes from the start of the
line), in the wording a settings file's author sees:
`expected value at line 1 column 1`, `EOF while parsing an object at line 3
column 0`, `key must be a string at line 1 column 2`.

`Json.parse` reads any value. `Json.readAs` reads a document against a
`Shape` in one pass, so that the first problem in reading order is the one
reported, whether it is a syntax error or a value of the wrong kind; a fault
of a field's value is placed after that value.

Main statement:

* `Fault.render_positioned`: a positioned fault names its line and column.
* `position_zero`: the start of the text is line one, column zero.
-/

set_option autoImplicit false

namespace EpicFlow.Json

/-- A problem found while reading, when its place is known at a character
index and a number of bytes past it: a reader that takes a byte of a
character and stops places the fault inside that character. -/
structure Fault where
  msg : String
  at? : Option Nat
  past : Nat := 0
deriving Inhabited

/-- The number of bytes of some characters. -/
def bytesOf (cs : List Char) : Nat := cs.foldl (fun n c => n + c.utf8Size) 0

/-- The number of bytes before a character index. -/
def byteOffset (cs : Array Char) (i : Nat) : Nat := bytesOf (cs.toList.take i)

/-- The characters that lie wholly within the first `b` bytes. -/
def charsWithin : Nat → List Char → List Char
  | _, [] => []
  | b, c :: cs => if c.utf8Size ≤ b then c :: charsWithin (b - c.utf8Size) cs else []

/-- Line and column of a byte offset: lines from one, counting the line
breaks before the offset, and columns in bytes since the last of them. -/
def position (cs : Array Char) (b : Nat) : Nat × Nat :=
  let before := charsWithin b cs.toList
  let lastLine := before.reverse.takeWhile (· ≠ '\n')
  (1 + (before.filter (· == '\n')).length, bytesOf lastLine + (b - bytesOf before))

theorem charsWithin_zero (cs : List Char) : charsWithin 0 cs = [] := by
  cases cs with
  | nil => rfl
  | cons c rest =>
    have := Char.utf8Size_pos c
    rw [charsWithin, if_neg (by omega)]

/-- The start of the text is line one, column zero. -/
theorem position_zero (cs : Array Char) : position cs 0 = (1, 0) := by
  simp [position, charsWithin_zero, bytesOf]

/-- The byte offset of a fault. -/
def Fault.offset (cs : Array Char) (f : Fault) : Option Nat :=
  f.at?.map fun i => byteOffset cs i + f.past

/-- The text of a fault: the message, and where it is when known. -/
def Fault.render (cs : Array Char) (f : Fault) : String :=
  match f.offset cs with
  | some b =>
    let (l, c) := position cs b
    f.msg ++ " at line " ++ Text.natText l ++ " column " ++ Text.natText c
  | none => f.msg

theorem Fault.render_positioned (cs : Array Char) (f : Fault) (b : Nat) (h : f.offset cs = some b) :
    f.render cs = f.msg ++ " at line " ++ Text.natText (position cs b).1 ++ " column " ++
        Text.natText (position cs b).2 := by
  simp only [Fault.render, h]

/-- A reader of the characters `cs`, the state being the index of the next one. -/
abbrev Rd := StateT Nat (Except Fault)

section
variable (cs : Array Char)

/-- The next character, not consumed. -/
def peekC : Rd (Option Char) := do
  let i ← getThe Nat
  pure cs[i]?

/-- Consume one character. -/
def eat : Rd Unit := modify (· + 1)

/-- Fail at the current index. -/
def failHere {α : Type} (msg : String) : Rd α := do
  let i ← getThe Nat
  throw { msg, at? := some i }

/-- Fail a number of bytes past the current index. -/
def failInto {α : Type} (k : Nat) (msg : String) : Rd α := do
  let i ← getThe Nat
  throw { msg, at? := some i, past := k }

/-- Fail just after the first byte of the next character, or at the end. -/
def failPeek {α : Type} (msg : String) : Rd α := do
  let i ← getThe Nat
  if i < cs.size then throw { msg, at? := some i, past := 1 }
  else throw { msg, at? := some cs.size }

/-- Skip blanks and return the next character. -/
def skipBlanks : Nat → Rd (Option Char)
  | 0 => peekC cs
  | fuel + 1 => do
    match ← peekC cs with
    | some c =>
      if c == ' ' || c == '\n' || c == '\t' || c == '\r' then (do eat; skipBlanks fuel)
      else pure (some c)
    | none => pure none

/-- Skip blanks. -/
def ws : Rd (Option Char) := skipBlanks cs cs.size

/-- Consume the rest of a literal word such as `null`; a wrong character
is a fault just inside it. -/
def ident : List Char → Rd Unit
  | [] => pure ()
  | c :: rest => do
    match ← peekC cs with
    | none => failHere "EOF while parsing a value"
    | some d =>
      if d == c then do eat; ident rest else failPeek cs "expected ident"

/-- A significand may take one more digit within 64 bits. -/
def fitsDigit (sig d : Nat) : Bool := sig * 10 + d < Nat.pow 2 64

/-- Consume the digits of an integer part: while the significand fits 64
bits each digit joins it; once one does not, it and every later digit only
scale the value. The significand, the number of scaling digits, and whether
the significand overflowed. -/
def intDigits : Nat → Nat → Nat → Bool → Rd (Nat × Nat × Bool)
  | 0, sig, extra, overflowed => pure (sig, extra, overflowed)
  | fuel + 1, sig, extra, overflowed => do
    match ← peekC cs with
    | some c =>
      if c.isDigit then do
        eat
        let d := c.toNat - 48
        if !overflowed && fitsDigit sig d then intDigits fuel (sig * 10 + d) extra false
        else intDigits fuel sig (extra + 1) true
      else pure (sig, extra, overflowed)
    | none => pure (sig, extra, overflowed)

/-- Consume the digits of a fraction: they join the significand while it
fits 64 bits, and from the first that does not, the rest are dropped. The
significand, how many digits joined it, and whether any were dropped. -/
def fracDigits : Nat → Nat → Nat → Bool → Rd (Nat × Nat × Bool)
  | 0, sig, n, overflowed => pure (sig, n, overflowed)
  | fuel + 1, sig, n, overflowed => do
    match ← peekC cs with
    | some c =>
      if c.isDigit then
        let d := c.toNat - 48
        if !overflowed && fitsDigit sig d then do eat; fracDigits fuel (sig * 10 + d) (n + 1) false
        else do eat; fracDigits fuel sig n true
      else pure (sig, n, overflowed)
    | none => pure (sig, n, overflowed)

/-- Consume exponent digits; the value, or none once it passes `2 ^ 31 - 1`. -/
def expDigits : Nat → Option Nat → Rd (Option Nat)
  | 0, v => pure v
  | fuel + 1, v => do
    match ← peekC cs with
    | some c =>
      if c.isDigit then do
        eat
        let next := v.bind fun e =>
          let e' := e * 10 + (c.toNat - 48)
          if e' < Nat.pow 2 31 then some e' else none
        expDigits fuel next
      else pure v
    | none => pure v

end

/-- The double a JSON reader makes of a significand and a power of ten: the
significand rounded to a double, then multiplied or divided once by the
double nearest the power; a power below `-308` first divides by `1e308`. A
value too large for a double is none. -/
def scaleDecimal (significand : Nat) (exp : Int) : Option Float :=
  go (exp.natAbs / 308 + 1) (Float.ofNat significand) exp
where
  go : Nat → Float → Int → Option Float
    | 0, f, _ => some f
    | fuel + 1, f, e =>
      if e.natAbs ≤ 308 then
        let p := Float.ofScientific 1 false e.natAbs
        if e ≥ 0 then
          let r := f * p
          if r.isInf then none else some r
        else some (f / p)
      else if f == 0.0 then some f
      else if e ≥ 0 then none
      else go fuel (f / 1e308) (e + 308)

/-- An exponent kept within 32 signed bits. -/
def clampExp (e : Int) : Int := max (-(Int.pow 2 31)) (min e (Int.pow 2 31 - 1))

section
variable (cs : Array Char)

/-- A number whose sign is consumed. Integers that fit are kept exact; the
others, and numbers with a fraction or an exponent, become doubles by
`scaleDecimal`. -/
def number (positive : Bool) : Rd Json := do
  match ← peekC cs with
  | none => failHere "EOF while parsing a value"
  | some c =>
    if !c.isDigit then failPeek cs "invalid number" else
    eat
    if c == '0' then
      match ← peekC cs with
      | some d => if d.isDigit then failPeek cs "invalid number" else pure ()
      | none => pure ()
    let (sig, extra, overflowed) ← if c == '0' then pure (0, 0, false)
      else intDigits cs cs.size (c.toNat - 48) 0 false
    let mut sig := sig
    let mut scale : Int := extra
    let mut isFloat := overflowed
    if (← peekC cs) == some '.' then
      eat
      let (m, n, dropped) ← fracDigits cs cs.size sig 0 false
      if n == 0 && !dropped then
        match ← peekC cs with
        | some _ => failPeek cs "invalid number"
        | none => failPeek cs "EOF while parsing a value"
      sig := m
      scale := scale - n
      isFloat := true
    let e ← peekC cs
    if e == some 'e' || e == some 'E' then
      eat
      let sgn ← peekC cs
      let neg := sgn == some '-'
      if sgn == some '-' || sgn == some '+' then eat
      match ← peekC cs with
      | none => failHere "EOF while parsing a value"
      | some d =>
        if !d.isDigit then failPeek cs "invalid number" else
        eat
        match ← expDigits cs cs.size (some (d.toNat - 48)) with
        | none =>
          if sig != 0 && !neg then failHere "number out of range"
          else return .num (if positive then 0.0 else -0.0)
        | some ev =>
          scale := clampExp (scale + (if neg then -(ev : Int) else (ev : Int)))
          isFloat := true
    if isFloat then
      match scaleDecimal sig scale with
      | some x => pure (.num (if positive then x else -x))
      | none => failHere "number out of range"
    else if positive then pure (.int sig)
    else if sig == 0 then pure (.num (-0.0))
    else if sig ≤ Nat.pow 2 63 then pure (.int (-(sig : Int)))
    else pure (.num (-(Float.ofNat sig)))

/-- The value of a hexadecimal digit. -/
def hexDigit? (c : Char) : Option Nat :=
  if c.isDigit then some (c.toNat - 48)
  else if 'a' ≤ c && c ≤ 'f' then some (c.toNat - 87)
  else if 'A' ≤ c && c ≤ 'F' then some (c.toNat - 55)
  else none

/-- The value of four hexadecimal digits. The reader takes four bytes at
once: with fewer left the string has ended, and four that are not all digits
are a fault placed after them. -/
def hex4 : Rd Nat := do
  let i ← getThe Nat
  let w := (cs.extract i (i + 4)).toList
  if w.foldl (fun n c => n + c.utf8Size) 0 < 4 then do
    MonadStateOf.set cs.size
    failHere "EOF while parsing a string"
  else
    match w.mapM hexDigit? with
    | some [a, b, c, d] => do
      MonadStateOf.set (i + 4)
      pure (((a * 16 + b) * 16 + c) * 16 + d)
    | _ => failInto 4 "invalid escape"

/-- The character of a one-letter escape. -/
def simpleEscape? : Char → Option Char
  | '"' => some '"'
  | '\\' => some '\\'
  | '/' => some '/'
  | 'b' => some (Char.ofNat 8)
  | 'f' => some (Char.ofNat 12)
  | 'n' => some '\n'
  | 'r' => some '\r'
  | 't' => some '\t'
  | _ => none

/-- The second half of a surrogate pair after a leading surrogate `u`: an
escape must follow at once, and anything else is a fault just inside it. -/
def trailingSurrogate (u : Nat) : Rd Char := do
  match ← peekC cs with
  | none => failHere "EOF while parsing a string"
  | some '\\' =>
    eat
    match ← peekC cs with
    | none => failHere "EOF while parsing a string"
    | some 'u' =>
      eat
      let lo ← hex4 cs
      if 0xDC00 ≤ lo && lo < 0xE000 then
        pure (Char.ofNat (0x10000 + (u - 0xD800) * 0x400 + (lo - 0xDC00)))
      else failHere "lone leading surrogate in hex escape"
    | some _ => failPeek cs "unexpected end of hex escape"
  | some _ => failPeek cs "unexpected end of hex escape"

/-- The body of a string whose opening quote is consumed. -/
def strBody : Nat → List Char → Rd String
  | 0, acc => pure (String.ofList acc.reverse)
  | fuel + 1, acc => do
    match ← peekC cs with
    | none => failHere "EOF while parsing a string"
    | some '"' => do eat; pure (String.ofList acc.reverse)
    | some '\\' =>
      eat
      match ← peekC cs with
      | none => failHere "EOF while parsing a string"
      | some 'u' =>
        eat
        let u ← hex4 cs
        if 0xD800 ≤ u && u < 0xDC00 then strBody fuel ((← trailingSurrogate cs u) :: acc)
        else if 0xDC00 ≤ u && u < 0xE000 then failHere "lone leading surrogate in hex escape"
        else strBody fuel (Char.ofNat u :: acc)
      | some e =>
        match simpleEscape? e with
        | some c => do eat; strBody fuel (c :: acc)
        | none => failPeek cs "invalid escape"
    | some c =>
      if c.toNat < 0x20 then do eat; failHere "control character (\\u0000-\\u001F) found while parsing a string"
      else do eat; strBody fuel (c :: acc)

/-- A string whose opening quote is the next character. -/
def readStr : Rd String := do
  eat
  strBody cs cs.size []

/-- Whether another element follows in an array. -/
def nextElement (first : Bool) : Rd Bool := do
  match ← ws cs with
  | none => failPeek cs "EOF while parsing a list"
  | some ']' => pure false
  | some c =>
    if first then pure true
    else if c == ',' then do
      eat
      match ← ws cs with
      | some ']' => failPeek cs "trailing comma"
      | some _ => pure true
      | none => failPeek cs "EOF while parsing a value"
    else failPeek cs "expected `,` or `]`"

/-- Whether another key follows in an object. -/
def nextKey (first : Bool) : Rd Bool := do
  match ← ws cs with
  | none => failPeek cs "EOF while parsing an object"
  | some '}' => pure false
  | some c =>
    if first then (if c == '"' then pure true else failPeek cs "key must be a string")
    else if c == ',' then do
      eat
      match ← ws cs with
      | some '"' => pure true
      | some '}' => failPeek cs "trailing comma"
      | some _ => failPeek cs "key must be a string"
      | none => failPeek cs "EOF while parsing a value"
    else failPeek cs "expected `,` or `\x7d`"

/-- The colon after a key. -/
def colon : Rd Unit := do
  match ← ws cs with
  | some ':' => eat
  | some _ => failPeek cs "expected `:`"
  | none => failPeek cs "EOF while parsing an object"

/-- The end of an array. -/
def endSeq : Rd Unit := do
  match ← ws cs with
  | some ']' => eat
  | some ',' => do
    eat
    match ← ws cs with
    | some ']' => failPeek cs "trailing comma"
    | _ => failPeek cs "trailing characters"
  | some _ => failPeek cs "trailing characters"
  | none => failPeek cs "EOF while parsing a list"

/-- The end of an object. -/
def endMap : Rd Unit := do
  match ← ws cs with
  | some '}' => eat
  | some ',' => failPeek cs "trailing comma"
  | some _ => failPeek cs "trailing characters"
  | none => failPeek cs "EOF while parsing an object"

mutual

/-- Any value; `depth` bounds the nesting, `fuel` the length of the text. -/
def value : Nat → Nat → Rd Json
  | _, 0 => failHere "recursion limit exceeded"
  | depth, fuel + 1 => do
    match ← ws cs with
    | none => failPeek cs "EOF while parsing a value"
    | some c =>
      if c == 'n' then do eat; ident cs ['u', 'l', 'l']; pure .null
      else if c == 't' then do eat; ident cs ['r', 'u', 'e']; pure (.bool true)
      else if c == 'f' then do eat; ident cs ['a', 'l', 's', 'e']; pure (.bool false)
      else if c == '-' then do eat; number cs false
      else if c.isDigit then number cs true
      else if c == '"' then do pure (.str (← readStr cs))
      else if c == '[' then
        if depth ≤ 1 then failPeek cs "recursion limit exceeded" else do
        eat
        let xs ← elements (depth - 1) fuel true []
        endSeq cs
        pure (.arr xs)
      else if c == '{' then
        if depth ≤ 1 then failPeek cs "recursion limit exceeded" else do
        eat
        let kvs ← members (depth - 1) fuel true []
        endMap cs
        pure (.obj kvs)
      else failPeek cs "expected value"

/-- The elements of an array whose bracket is consumed. -/
def elements : Nat → Nat → Bool → List Json → Rd (List Json)
  | _, 0, _, acc => pure acc.reverse
  | depth, fuel + 1, first, acc => do
    if ← nextElement cs first then
      let v ← value depth fuel
      elements depth fuel false (v :: acc)
    else pure acc.reverse

/-- The members of an object whose brace is consumed. -/
def members : Nat → Nat → Bool → List (String × Json) → Rd (List (String × Json))
  | _, 0, _, acc => pure acc.reverse
  | depth, fuel + 1, first, acc => do
    if ← nextKey cs first then
      let k ← readStr cs
      colon cs
      let v ← value depth fuel
      members depth fuel false ((k, v) :: acc)
    else pure acc.reverse

end

end

section
variable (cs : Array Char)

/-- Skip the body of a string whose opening quote is consumed. Escapes are
checked for their form only, not for what they stand for, and a control
character is a fault at itself. -/
def skipStr : Nat → Rd Unit
  | 0 => pure ()
  | fuel + 1 => do
    match ← peekC cs with
    | none => failHere "EOF while parsing a string"
    | some '"' => eat
    | some '\\' =>
      eat
      match ← peekC cs with
      | none => failHere "EOF while parsing a string"
      | some 'u' => do eat; let _ ← hex4 cs; skipStr fuel
      | some e =>
        if (simpleEscape? e).isSome then do eat; skipStr fuel
        else failPeek cs "invalid escape"
    | some c =>
      if c.toNat < 0x20 then failHere "control character (\\u0000-\\u001F) found while parsing a string"
      else do eat; skipStr fuel

/-- Skip digits. -/
def skipDigits : Nat → Rd Unit
  | 0 => pure ()
  | fuel + 1 => do
    match ← peekC cs with
    | some c => if c.isDigit then do eat; skipDigits fuel else pure ()
    | none => pure ()

/-- Skip an exponent from its letter on; it needs a digit, and the end of
the text in its place is a fault there. -/
def skipExponent : Rd Unit := do
  eat
  match ← peekC cs with
  | some '+' => eat
  | some '-' => eat
  | _ => pure ()
  match ← peekC cs with
  | none => failHere "invalid number"
  | some d => if d.isDigit then do eat; skipDigits cs cs.size else failPeek cs "invalid number"

/-- Skip a number whose sign is consumed, checking its form but not its range. -/
def skipNumber : Rd Unit := do
  match ← peekC cs with
  | none => failHere "invalid number"
  | some c =>
    if !c.isDigit then failPeek cs "invalid number" else
    eat
    if c == '0' then
      match ← peekC cs with
      | some d => if d.isDigit then failPeek cs "invalid number" else pure ()
      | none => pure ()
    else skipDigits cs cs.size
    match ← peekC cs with
    | some '.' =>
      eat
      match ← peekC cs with
      | some d =>
        if d.isDigit then do
          skipDigits cs cs.size
          let e ← peekC cs
          if e == some 'e' || e == some 'E' then skipExponent cs
        else failPeek cs "invalid number"
      | none => failPeek cs "invalid number"
    | some 'e' => skipExponent cs
    | some 'E' => skipExponent cs
    | _ => pure ()

/-- The key and colon that open a member of a skipped object. -/
def skipKey : Rd Unit := do
  match ← ws cs with
  | some '"' => do eat; skipStr cs cs.size
  | some _ => failPeek cs "key must be a string"
  | none => failPeek cs "EOF while parsing an object"
  match ← ws cs with
  | some ':' => eat
  | some _ => failPeek cs "expected `:`"
  | none => failPeek cs "EOF while parsing an object"

/-- The fault at the end of the text inside an open bracket. -/
def eofInside (frame : Char) : String :=
  if frame == '[' then "EOF while parsing a list" else "EOF while parsing an object"

mutual

/-- Skip a value inside the open brackets `stack`, innermost first, and what
follows it up to the end of the outermost. Nesting has no limit here, as
nothing is built. -/
def skipValue : Nat → List Char → Rd Unit
  | 0, _ => pure ()
  | fuel + 1, stack => do
    match ← ws cs with
    | none => failPeek cs "EOF while parsing a value"
    | some c =>
      if c == 'n' then do eat; ident cs ['u', 'l', 'l']; afterSkipped fuel stack
      else if c == 't' then do eat; ident cs ['r', 'u', 'e']; afterSkipped fuel stack
      else if c == 'f' then do eat; ident cs ['a', 'l', 's', 'e']; afterSkipped fuel stack
      else if c == '-' then do eat; skipNumber cs; afterSkipped fuel stack
      else if c.isDigit then do skipNumber cs; afterSkipped fuel stack
      else if c == '"' then do eat; skipStr cs cs.size; afterSkipped fuel stack
      else if c == '[' || c == '\x7b' then do eat; afterOpened fuel (c :: stack)
      else failPeek cs "expected value"

/-- Just after an opening bracket: it closes at once, or a value (after a
key, in an object) follows. -/
def afterOpened : Nat → List Char → Rd Unit
  | 0, _ => pure ()
  | _ + 1, [] => pure ()
  | fuel + 1, frame :: rest => do
    match ← ws cs with
    | none => failPeek cs (eofInside frame)
    | some c =>
      if (c == ']' && frame == '[') || (c == '\x7d' && frame == '\x7b') then do
        eat
        afterSkipped fuel rest
      else do
        if frame == '\x7b' then skipKey cs
        skipValue fuel (frame :: rest)

/-- After a value inside the open brackets: a comma and the next value, or
the innermost bracket closes. -/
def afterSkipped : Nat → List Char → Rd Unit
  | 0, _ => pure ()
  | _ + 1, [] => pure ()
  | fuel + 1, frame :: rest => do
    match ← ws cs with
    | none => failPeek cs (eofInside frame)
    | some c =>
      if c == ',' then do
        eat
        if frame == '\x7b' then skipKey cs
        skipValue fuel (frame :: rest)
      else if (c == ']' && frame == '[') || (c == '\x7d' && frame == '\x7b') then do
        eat
        afterSkipped fuel rest
      else failPeek cs (if frame == '[' then "expected `,` or `]`" else "expected `,` or `\x7d`")

end

/-- Skip one value and check only its form. -/
def skip : Rd Unit := skipValue cs (2 * cs.size + 2) []

end

/-- The whole text is one value, with nothing but blanks after it. -/
def parseChars (cs : Array Char) : Except Fault Json :=
  let run : Rd Json := do
    let v ← value cs 128 (cs.size + 2)
    match ← ws cs with
    | some _ => failPeek cs "trailing characters"
    | none => pure v
  (run.run 0).map (·.1)

/-- Parse a JSON text, the fault rendered with its position. -/
def parse (s : String) : Except String Json :=
  let cs := s.toList.toArray
  (parseChars cs).mapError (Fault.render cs)

end EpicFlow.Json
