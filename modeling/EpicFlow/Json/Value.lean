import EpicFlow.Decimal.Notation

/-!
# JSON values and their text

The engine's settings file, its machine-readable command output and the
result file an agent leaves behind are JSON. A value keeps the members of an
object in the order they were written; integers and doubles are apart, since
`3` and `3.0` print differently.

Text is written in two layouts: compact (no blanks at all) and pretty (two
spaces of indent per level, `": "` after a key, empty containers as `[]` and
`{}`). Strings escape the quote, the backslash and the control characters;
everything else is written as it is.

Main statement:

* `escapeChar_quote_escaped`: a quote inside a string is written `\"`.
-/

set_option autoImplicit false

namespace EpicFlow

/-- A JSON value. -/
inductive Json where
  | null
  | bool (b : Bool)
  | int (i : Int)
  | num (x : Float)
  | str (s : String)
  | arr (xs : List Json)
  | obj (kvs : List (String × Json))
deriving Inhabited

namespace Json

/-- The escape of one character inside a string literal. -/
def escapeChar (c : Char) : List Char :=
  if c == '"' then ['\\', '"']
  else if c == '\\' then ['\\', '\\']
  else if c == '\n' then ['\\', 'n']
  else if c == '\r' then ['\\', 'r']
  else if c == '\t' then ['\\', 't']
  else if c.toNat == 8 then ['\\', 'b']
  else if c.toNat == 12 then ['\\', 'f']
  else if c.toNat < 0x20 then
    ['\\', 'u', '0', '0', Text.hexDigit (c.toNat / 16), Text.hexDigit (c.toNat % 16)]
  else [c]

/-- The escaped body of a string literal. -/
def escapeChars (cs : List Char) : List Char := cs.flatMap escapeChar

/-- A string literal. -/
def quote (s : String) : String := "\"" ++ String.ofList (escapeChars s.toList) ++ "\""

/-- The text of a number. -/
def numText (x : Float) : String := Decimal.Notation.json.render x

theorem sizeOf_snd_lt {kvs : List (String × Json)} {kv : String × Json} (h : kv ∈ kvs) :
    sizeOf kv.2 < 1 + sizeOf kvs := by
  have := List.sizeOf_lt_of_mem h
  cases kv
  simp at *
  omega

theorem sizeOf_elem_lt {xs : List Json} {x : Json} (h : x ∈ xs) : sizeOf x < 1 + sizeOf xs := by
  have := List.sizeOf_lt_of_mem h
  omega

/-- Compact text. -/
def compact : Json → String
  | null => "null"
  | bool b => if b then "true" else "false"
  | int i => Text.intText i
  | num x => numText x
  | str s => quote s
  | arr xs => "[" ++ ",".intercalate (xs.map compact) ++ "]"
  | obj kvs => "\x7b" ++ ",".intercalate (kvs.map fun kv => quote kv.1 ++ ":" ++ compact kv.2) ++ "\x7d"
decreasing_by
  all_goals
    simp only [Json.arr.sizeOf_spec, Json.obj.sizeOf_spec]
    first
    | exact sizeOf_snd_lt (by assumption)
    | exact sizeOf_elem_lt (by assumption)

/-- Apply a function to every string value (not to keys). -/
def mapStrings (f : String → String) : Json → Json
  | str s => str (f s)
  | arr xs => arr (xs.attach.map fun ⟨x, _⟩ => mapStrings f x)
  | obj kvs => obj (kvs.attach.map fun ⟨kv, _⟩ => (kv.1, mapStrings f kv.2))
  | j => j
decreasing_by
  all_goals
    simp only [Json.arr.sizeOf_spec, Json.obj.sizeOf_spec]
    first
    | exact sizeOf_snd_lt (by assumption)
    | exact sizeOf_elem_lt (by assumption)

/-- The same value with the keys of every object in ascending order (the
order of a sorted map; of equal keys the first stays first). -/
def sortKeys : Json → Json
  | arr xs => arr (xs.attach.map fun ⟨x, _⟩ => sortKeys x)
  | obj kvs => obj ((kvs.attach.map fun ⟨kv, _⟩ => (kv.1, sortKeys kv.2)).mergeSort
      fun a b => decide (a.1 ≤ b.1))
  | j => j
decreasing_by
  all_goals
    simp only [Json.arr.sizeOf_spec, Json.obj.sizeOf_spec]
    first
    | exact sizeOf_snd_lt (by assumption)
    | exact sizeOf_elem_lt (by assumption)

/-- Pretty text at an indent of `depth` levels. -/
def prettyAt (depth : Nat) (j : Json) : String :=
  match j with
  | arr [] => "[]"
  | obj [] => "\x7b\x7d"
  | arr xs =>
    let pad := String.ofList (List.replicate (2 * (depth + 1)) ' ')
    "[\n" ++ ",\n".intercalate (xs.map fun x => pad ++ prettyAt (depth + 1) x) ++ "\n" ++
      String.ofList (List.replicate (2 * depth) ' ') ++ "]"
  | obj kvs =>
    let pad := String.ofList (List.replicate (2 * (depth + 1)) ' ')
    "\x7b\n" ++ ",\n".intercalate (kvs.map fun kv => pad ++ quote kv.1 ++ ": " ++ prettyAt (depth + 1) kv.2) ++
      "\n" ++ String.ofList (List.replicate (2 * depth) ' ') ++ "\x7d"
  | j => compact j
termination_by sizeOf j
decreasing_by
  all_goals
    simp only [Json.arr.sizeOf_spec, Json.obj.sizeOf_spec]
    first
    | exact sizeOf_snd_lt (by assumption)
    | exact sizeOf_elem_lt (by assumption)

/-- Pretty text. -/
def pretty (j : Json) : String := prettyAt 0 j

/-- The member of an object with the given key (the last one, if repeated). -/
def get? (j : Json) (key : String) : Option Json :=
  match j with
  | obj kvs => (kvs.reverse.find? (·.1 == key)).map (·.2)
  | _ => none

/-- The member of an object, or `null`. -/
def get (j : Json) (key : String) : Json := (j.get? key).getD null

/-- The text of a string value. -/
def str? : Json → Option String
  | str s => some s
  | _ => none

/-- A natural number below `2 ^ 64`. -/
def nat? : Json → Option Nat
  | int i => if 0 ≤ i ∧ i < Int.pow 2 64 then some i.toNat else none
  | _ => none

/-- An integer. -/
def int? : Json → Option Int
  | int i => some i
  | _ => none

/-- A number as a double. -/
def float? : Json → Option Float
  | num x => some x
  | int i => some (Decimal.ofDecimal (i < 0) i.natAbs 0)
  | _ => none

/-- A boolean. -/
def bool? : Json → Option Bool
  | bool b => some b
  | _ => none

/-- The elements of an array. -/
def arr? : Json → Option (List Json)
  | arr xs => some xs
  | _ => none

/-- The members of an object. -/
def obj? : Json → Option (List (String × Json))
  | obj kvs => some kvs
  | _ => none

/-- The value is `null`. -/
def isNull : Json → Bool
  | null => true
  | _ => false

/-- An optional string: `null` for none. -/
def optStr : Option String → Json
  | some s => str s
  | none => null

/-- A list of strings. -/
def strs (xs : List String) : Json := arr (xs.map str)

/-- Replace or append a member of an object. -/
def set (j : Json) (key : String) (v : Json) : Json :=
  match j with
  | obj kvs =>
    if kvs.any (·.1 == key) then obj (kvs.map fun (k, x) => if k == key then (k, v) else (k, x))
    else obj (kvs ++ [(key, v)])
  | _ => obj [(key, v)]

/-- Remove a member of an object. -/
def erase (j : Json) (key : String) : Json :=
  match j with
  | obj kvs => obj (kvs.filter (·.1 != key))
  | j => j

theorem escapeChar_quote_escaped (c : Char) (h : c = '"') : escapeChar c = ['\\', '"'] := by
  subst h; rfl

end Json

end EpicFlow
