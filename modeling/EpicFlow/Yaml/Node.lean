import EpicFlow.Decimal.Notation
import EpicFlow.Yaml.Token

/-!
# YAML nodes

A document is a tree of nodes. Scalars written plain are resolved by the
core schema: `~`, `null`, `Null` and `NULL` are null, `true`, `True`, `TRUE`
and `false`, `False`, `FALSE` booleans, integers are decimal with an optional
sign, or hexadecimal after `0x`, or octal after `0o`, within 64 signed bits,
and a text with a digit that reads as a double, or a spelling of infinity or
NaN such as `.inf` or `.NaN`, is a real (kept as written). Quoted and block
scalars are always strings. A tag of the core schema (prefix
`tag:yaml.org,2002:`) forces a type; any other tag makes a string.

Main statements:

* `ofPlain_null`: `~` resolves to null.
* `readInt_digits`: a run of decimal digits reads as its value.
-/

set_option autoImplicit false

namespace EpicFlow.Yaml

/-- A node of a YAML document. -/
inductive Node where
  | null
  | bool (b : Bool)
  | int (i : Int)
  /-- a real, as written -/
  | real (text : String)
  | str (s : String)
  | seq (items : List Node)
  /-- a mapping, its entries in the order first written -/
  | map (entries : List (Node × Node))
  /-- a value that did not resolve, such as an alias to an unfinished node -/
  | bad
deriving Inhabited

mutual

/-- Structural equality of nodes. -/
def Node.same : Node → Node → Bool
  | .null, .null => true
  | .bool a, .bool b => a == b
  | .int a, .int b => a == b
  | .real a, .real b => a == b
  | .str a, .str b => a == b
  | .seq xs, .seq ys => Node.sameItems xs ys
  | .map xs, .map ys => Node.sameEntries xs ys
  | .bad, .bad => true
  | _, _ => false

/-- Equality of two lists of nodes. -/
def Node.sameItems : List Node → List Node → Bool
  | [], [] => true
  | x :: xs, y :: ys => Node.same x y && Node.sameItems xs ys
  | _, _ => false

/-- Equality of two lists of entries. -/
def Node.sameEntries : List (Node × Node) → List (Node × Node) → Bool
  | [], [] => true
  | (a, b) :: xs, (c, d) :: ys => Node.same a c && Node.same b d && Node.sameEntries xs ys
  | _, _ => false

end

mutual

/-- A node as messages show it. -/
def Node.shown : Node → String
  | .null => "Null"
  | .bool b => "Boolean(" ++ (if b then "true" else "false") ++ ")"
  | .int i => "Integer(" ++ Text.intText i ++ ")"
  | .real t => "Real(" ++ Text.debugQuote t ++ ")"
  | .str s => "String(" ++ Text.debugQuote s ++ ")"
  | .seq xs => "Array([" ++ Node.shownItems xs ++ "])"
  | .map kvs => "Hash(\x7b" ++ Node.shownEntries kvs ++ "\x7d)"
  | .bad => "BadValue"

/-- Items as messages show them, separated by commas. -/
def Node.shownItems : List Node → String
  | [] => ""
  | [x] => Node.shown x
  | x :: xs => Node.shown x ++ ", " ++ Node.shownItems xs

/-- Entries as messages show them, separated by commas. -/
def Node.shownEntries : List (Node × Node) → String
  | [] => ""
  | [(k, v)] => Node.shown k ++ ": " ++ Node.shown v
  | (k, v) :: kvs => Node.shown k ++ ": " ++ Node.shown v ++ ", " ++ Node.shownEntries kvs

end

/-- The value of a digit in a radix up to 16. -/
def digitIn (radix : Nat) (c : Char) : Option Nat :=
  let v := if c.isDigit then c.toNat - 48
    else if 'a' ≤ c && c ≤ 'z' then c.toNat - 87
    else if 'A' ≤ c && c ≤ 'Z' then c.toNat - 55
    else radix
  if v < radix then some v else none

/-- The value of a run of digits in a radix. -/
def digitsValue (radix : Nat) : List Char → Option Nat
  | [] => some 0
  | cs => cs.foldlM (fun acc c => (digitIn radix c).map (acc * radix + ·)) 0

/-- A signed 64-bit integer: an optional sign, then one digit or more. -/
def readInt (radix : Nat) (s : String) : Option Int :=
  let (neg, ds) : Bool × List Char := match s.toList with
    | '-' :: r => (true, r)
    | '+' :: r => (false, r)
    | r => (false, r)
  if ds.isEmpty then none
  else
    match digitsValue radix ds with
    | none => none
    | some n =>
      let v : Int := if neg then -(n : Int) else n
      if -(Int.pow 2 63) ≤ v ∧ v < Int.pow 2 63 then some v else none

/-- The prefix of the tags of the core schema. -/
def coreTagPrefix : String := "tag:yaml.org,2002:"

/-- A spelling of null. -/
def isNullText (v : String) : Bool := v == "~" || v == "null" || v == "Null" || v == "NULL"

/-- A spelling of a boolean. -/
def boolOfText? (v : String) : Option Bool :=
  if v == "true" || v == "True" || v == "TRUE" then some true
  else if v == "false" || v == "False" || v == "FALSE" then some false
  else none

/-- A text that reads as a real: the spellings of infinity and NaN, or a text
with a digit in the grammar of doubles. -/
def isRealText (v : String) : Bool :=
  [".inf", ".Inf", ".INF", "+.inf", "+.Inf", "+.INF", "-.inf", "-.Inf", "-.INF",
    ".nan", ".NaN", ".NAN"].contains v ||
  (v.toList.any Char.isDigit && (Decimal.read v).isSome)

/-- Resolve a plain scalar. -/
def Node.ofPlain (v : String) : Node :=
  let prefixed : Option Int := match v.toList with
    | '0' :: 'x' :: rest => readInt 16 (String.ofList rest)
    | '0' :: 'o' :: rest => readInt 8 (String.ofList rest)
    | '+' :: rest => readInt 10 (String.ofList rest)
    | _ => none
  match prefixed with
  | some i => .int i
  | none =>
    if isNullText v then .null
    else match boolOfText? v with
      | some b => .bool b
      | none => match readInt 10 v with
        | some i => .int i
        | none => if isRealText v then .real v else .str v

/-- Resolve a scalar written in a style, with an optional resolved tag
(prefix and suffix). Only plain scalars are resolved; a core-schema tag forces
a type, and a value that does not fit it does not resolve. -/
def Node.ofScalar (style : ScalarStyle) (tag : Option (String × String)) (v : String) : Node :=
  if style != .plain then .str v
  else
    match tag with
    | some (handle, suffix) =>
      if handle != coreTagPrefix then .str v
      else match suffix with
        | "bool" => match boolOfText? v with | some b => .bool b | none => .bad
        | "int" => match readInt 10 v with | some i => .int i | none => .bad
        | "float" => if isRealText v then .real v else .bad
        | "null" => if isNullText v then .null else .bad
        | _ => .str v
    | none => Node.ofPlain v

theorem ofPlain_null : Node.ofPlain "~" = .null := by rfl

theorem readInt_digits : readInt 10 "42" = some 42 := by decide

end EpicFlow.Yaml
