import EpicFlow.Json.Read

/-!
# Reading JSON text against a shape

`readAs shape text` reads a document in one pass and checks each value
against the shape as it goes, so the first problem in reading order is the
one reported. Where a problem is placed:

* a value of the wrong kind: just after a scalar, or at the bracket of an
  array or object (which is not read);
* a string that the domain's parser refuses: after the string and the blanks
  that follow it;
* a missing field: after the closing brace of its record;
* a repeated field: after its key and the blanks that follow it.

Members that a record does not know are skipped: their form is checked, but
not the range of their numbers or what their escapes stand for.
-/

set_option autoImplicit false

namespace EpicFlow.Json

section
variable (cs : Array Char)

/-- Fail at a character index. -/
def failAt {α : Type} (i : Nat) (msg : String) : Rd α := throw { msg, at? := some i }

/-- Read the token at the cursor to name it in a message; brackets are not
read. -/
def unexpectedHere : Rd String := do
  match ← peekC cs with
  | some 'n' => do eat; ident cs ['u', 'l', 'l']; pure "null"
  | some 't' => do eat; ident cs ['r', 'u', 'e']; pure "boolean `true`"
  | some 'f' => do eat; ident cs ['a', 'l', 's', 'e']; pure "boolean `false`"
  | some '-' => do eat; pure (unexpected (← number cs false))
  | some '"' => do pure (unexpected (.str (← readStr cs)))
  | some '[' => pure "sequence"
  | some '{' => pure "map"
  | some c =>
    if c.isDigit then do pure (unexpected (← number cs true))
    else failPeek cs "expected value"
  | none => failPeek cs "expected value"

/-- Fail with "invalid type", placed after what was read to name the value. -/
def invalidHere {α : Type} (s : Shape) : Rd α := do
  let found ← unexpectedHere cs
  failHere (invalidType found s)

/-- Check an integer against an unsigned width. -/
def unsignedValue (bits : Nat) (s : Shape) (j : Json) : Rd Json :=
  match decodeUnsigned bits s j with
  | .ok v => pure v
  | .error m => failHere m

mutual

/-- A value of the given shape. -/
def typed : Nat → Shape → Rd Json
  | 0, _ => failHere "recursion limit exceeded"
  | fuel + 1, s => do
    let c? ← ws cs
    match s with
    | .any => value cs 128 (fuel + 1)
    | .bool =>
      match c? with
      | none => failPeek cs "EOF while parsing a value"
      | some 't' => do eat; ident cs ['r', 'u', 'e']; pure (.bool true)
      | some 'f' => do eat; ident cs ['a', 'l', 's', 'e']; pure (.bool false)
      | some _ => invalidHere cs s
    | .unsigned bits _ =>
      match c? with
      | none => failPeek cs "EOF while parsing a value"
      | some '-' => do eat; unsignedValue bits s (← number cs false)
      | some c =>
        if c.isDigit then do unsignedValue bits s (← number cs true)
        else invalidHere cs s
    | .f64 =>
      match c? with
      | none => failPeek cs "EOF while parsing a value"
      | some c =>
        if c == '-' || c.isDigit then do
          if c == '-' then eat
          let j ← number cs (c != '-')
          pure (.num (j.float?.getD 0.0))
        else invalidHere cs s
    | .string | .path =>
      match c? with
      | none => failPeek cs "EOF while parsing a value"
      | some '"' => do pure (.str (← readStr cs))
      | some _ => invalidHere cs s
    | .checked p =>
      match c? with
      | none => failPeek cs "EOF while parsing a value"
      | some '"' => do
        let t ← readStr cs
        match p t with
        | .ok v => pure (.str v)
        | .error m => do let _ ← ws cs; failHere m
      | some _ => invalidHere cs .string
    | .opt inner =>
      match c? with
      | some 'n' => do eat; ident cs ['u', 'l', 'l']; pure .null
      | _ => typed fuel inner
    | .seq inner =>
      match c? with
      | none => failPeek cs "EOF while parsing a value"
      | some '[' => do
        eat
        let xs ← seqItems fuel inner true []
        endSeq cs
        pure (.arr xs)
      | some _ => invalidHere cs s
    | .record name fields =>
      match c? with
      | none => failPeek cs "EOF while parsing a value"
      | some '{' => do
        eat
        let got ← recordMembers fuel fields true []
        endMap cs
        let here ← getThe Nat
        let out ← fields.mapM fun (fname, _, dflt) =>
          match got.find? (·.1 == fname), dflt with
          | some (_, v), _ => pure (fname, v)
          | none, some d => pure (fname, d)
          | none, none => (failAt here (missingField fname) : Rd (String × Json))
        pure (.obj out)
      | some '[' => do
        eat
        let out ← recordItems fuel name fields fields.length fields true []
        endSeq cs
        pure (.obj out)
      | some _ => invalidHere cs s
    | .choice names =>
      match c? with
      | none => failPeek cs "EOF while parsing a value"
      | some '"' => do
        let t ← readStr cs
        if names.contains t then pure (.str t) else failHere (unknownVariant t names)
      | some '\x7b' => do
        eat
        -- the variant is the object's one key, and its value is null
        let t ← match ← ws cs with
          | some '"' => readStr cs
          | none => failPeek cs "EOF while parsing a value"
          | some _ => do
            let found ← unexpectedHere cs
            failHere ("invalid type: " ++ found ++ ", expected variant identifier")
        if !names.contains t then failHere (unknownVariant t names)
        colon cs
        match ← ws cs with
        | some 'n' => do eat; ident cs ['u', 'l', 'l']
        | none => failPeek cs "EOF while parsing a value"
        | some _ => do
          let found ← unexpectedHere cs
          failHere ("invalid type: " ++ found ++ ", expected unit")
        match ← ws cs with
        | some '\x7d' => eat
        | some _ => failHere "expected value"
        | none => failHere "EOF while parsing an object"
        pure (.str t)
      | some _ => failPeek cs "expected value"

/-- The elements of an array of one shape, its bracket consumed. -/
def seqItems : Nat → Shape → Bool → List Json → Rd (List Json)
  | 0, _, _, acc => pure acc.reverse
  | fuel + 1, s, first, acc => do
    if ← nextElement cs first then
      let v ← typed fuel s
      seqItems fuel s false (v :: acc)
    else pure acc.reverse

/-- The members of a record, its brace consumed: known fields are read
against their shape, others are read and dropped. -/
def recordMembers : Nat → List (String × Shape × Option Json) → Bool →
    List (String × Json) → Rd (List (String × Json))
  | 0, _, _, acc => pure acc.reverse
  | fuel + 1, fields, first, acc => do
    if ← nextKey cs first then
      let k ← readStr cs
      match fields.find? (·.1 == k) with
      | some (_, fs, _) =>
        if acc.any (·.1 == k) then do
          let _ ← ws cs
          failHere ("duplicate field `" ++ k ++ "`")
        else do
          colon cs
          let v ← typed fuel fs
          recordMembers fuel fields false ((k, v) :: acc)
      | none => do
        colon cs
        skip cs
        recordMembers fuel fields false acc
    else pure acc.reverse

/-- A record written as an array of its fields in order, its bracket consumed. -/
def recordItems : Nat → String → List (String × Shape × Option Json) → Nat →
    List (String × Shape × Option Json) → Bool → List (String × Json) → Rd (List (String × Json))
  | 0, _, _, _, _, _, acc => pure acc.reverse
  | _ + 1, _, _, _, [], _, acc => pure acc.reverse
  | fuel + 1, name, all, total, (fname, fs, dflt) :: rest, first, acc => do
    if ← nextElement cs first then
      let v ← typed fuel fs
      recordItems fuel name all total rest false ((fname, v) :: acc)
    else
      match dflt with
      | some d => recordItems fuel name all total rest first ((fname, d) :: acc)
      | none =>
        failHere ("invalid length " ++ Text.natText acc.length ++ ", expected struct " ++ name ++
          " with " ++ Text.natText total ++ " elements")

end

end

/-- Read a JSON text against a shape; the fault is rendered with its position. -/
def readAs (s : Shape) (text : String) : Except String Json :=
  let cs := text.toList.toArray
  let run : Rd Json := do
    let v ← typed cs (cs.size + 64) s
    match ← ws cs with
    | some _ => failPeek cs "trailing characters"
    | none => pure v
  ((run.run 0).map (·.1)).mapError (Fault.render cs)

end EpicFlow.Json
