import EpicFlow.Decimal.Shortest
import EpicFlow.Text.Basic

/-!
# Writing and reading decimal numbers

Three ways the engine writes a double:

* `Notation.json`: the fewest digits that read back; positional when the
  leading digit's exponent `e` satisfies `-5 ≤ e < 16`, otherwise with an
  exponent written `e+16` or `e-6`; integral values keep `.0`.
* `Notation.plain`: the fewest digits, always positional, integral values
  without a point (`1.5`, `2`, `0.0000001`).
* `fixed places`: the exact binary value rounded to `places` decimals, a tie
  going to the even neighbour; the sign of a negative value (and of `-0.0`) is
  kept, so `-0.001` is written `-0.00`.

`read` accepts the decimal text of a double: an optional sign, digits with an
optional point and exponent, or `inf`, `infinity`, `nan` in any case.

Main statement:

* `roundHalfEven_near`: the rounded quotient is within half a unit.
-/

set_option autoImplicit false

namespace EpicFlow.Decimal

/-- Layout decisions for shortest digits. -/
structure Notation where
  /-- the least exponent of the leading digit written positionally -/
  plainFrom : Int
  /-- the first exponent of the leading digit written with an exponent -/
  plainBelow : Int
  /-- integral values are written with `.0` -/
  pointZero : Bool
  /-- the text of a value that is not a number, or of infinity -/
  nan : String
  inf : String

/-- JSON numbers: positional from `1e-5` up to below `1e16`, `.0` kept, and no
text for values that are not finite (`null` stands in for them). -/
def Notation.json : Notation := ⟨-5, 16, true, "null", "null"⟩

/-- Plain display: always positional, no `.0`. -/
def Notation.plain : Notation := ⟨-400, 400, false, "NaN", "inf"⟩

/-- `n` zero characters. -/
def zeros (n : Nat) : String := String.ofList (List.replicate n '0')

/-- Lay out a decimal with non-zero digits. -/
def Notation.layout (n : Notation) (d : Dec) : String :=
  let ds := Nat.toDigits 10 d.digits
  let len := ds.length
  let lead : Int := (len : Int) - 1 + d.exp
  if n.plainFrom ≤ lead ∧ lead < n.plainBelow then
    if d.exp ≥ 0 then
      String.ofList ds ++ zeros d.exp.toNat ++ (if n.pointZero then ".0" else "")
    else if lead ≥ 0 then
      String.ofList (ds.take (lead.toNat + 1)) ++ "." ++ String.ofList (ds.drop (lead.toNat + 1))
    else
      "0." ++ zeros ((-lead).toNat - 1) ++ String.ofList ds
  else
    let mant := match ds with
      | [] => "0"
      | [c] => String.ofList [c]
      | c :: rest => String.ofList [c] ++ "." ++ String.ofList rest
    mant ++ "e" ++ (if lead < 0 then "-" else "+") ++ Text.natText lead.natAbs

/-- The bits of a double are those of a value that is not a number. -/
def isNaNBits (b : UInt64) : Bool :=
  ((b >>> 52) &&& 0x7FF) == 0x7FF && (b &&& 0xFFFFFFFFFFFFF) != 0

/-- The bits of a double are those of an infinity. -/
def isInfBits (b : UInt64) : Bool :=
  ((b >>> 52) &&& 0x7FF) == 0x7FF && (b &&& 0xFFFFFFFFFFFFF) == 0

/-- The text of a double in a notation. -/
def Notation.render (n : Notation) (x : Float) : String :=
  let b := x.toBits
  let neg := (b >>> 63) == 1
  let sign := if neg then "-" else ""
  if isNaNBits b then n.nan
  else if isInfBits b then (if n.inf == "null" then n.inf else sign ++ n.inf)
  else
    let v := Binary.ofBits b
    if v.m == 0 then sign ++ (if n.pointZero then "0.0" else "0")
    else sign ++ n.layout v.select

/-- Round `num / den` to the nearest natural number, a tie going to even. -/
def roundHalfEven (num den : Nat) : Nat :=
  let q := num / den
  let r := num % den
  match compare (2 * r) den with
  | .lt => q
  | .gt => q + 1
  | .eq => if q % 2 == 0 then q else q + 1

theorem roundHalfEven_near (num den : Nat) (h : 0 < den) :
    2 * (roundHalfEven num den * den) ≤ 2 * num + den ∧
      2 * num ≤ 2 * (roundHalfEven num den * den) + den := by
  have e : den * (num / den) + num % den = num := Nat.div_add_mod num den
  have l : num % den < den := Nat.mod_lt _ h
  simp only [roundHalfEven]
  generalize num / den = q at *
  generalize num % den = r at *
  have hq : (q + 1) * den = den * q + den := by rw [Nat.add_mul, Nat.mul_comm]; simp
  have hq0 : q * den = den * q := Nat.mul_comm ..
  generalize den * q = p at *
  split
  · rename_i hc; rw [Nat.compare_eq_lt] at hc; omega
  · rename_i hc; rw [Nat.compare_eq_gt] at hc; omega
  · rename_i hc; rw [Nat.compare_eq_eq] at hc; split <;> omega

/-- A double with `places` decimals: the exact binary value rounded half to
even, the sign kept. -/
def fixed (places : Nat) (x : Float) : String :=
  let b := x.toBits
  let neg := (b >>> 63) == 1
  let sign := if neg then "-" else ""
  if isNaNBits b then "NaN"
  else if isInfBits b then sign ++ "inf"
  else
    let v := Binary.ofBits b
    let num := v.m * Nat.pow 2 v.q.toNat * Nat.pow 10 places
    let den := Nat.pow 2 (-v.q).toNat
    let r := roundHalfEven num den
    let ds := Nat.toDigits 10 r
    let ds := List.replicate (places + 1 - ds.length) '0' ++ ds
    let cut := ds.length - places
    let body := if places = 0 then String.ofList ds
      else String.ofList (ds.take cut) ++ "." ++ String.ofList (ds.drop cut)
    sign ++ body

/-- Digits at the front of a character list, as a value and a count. -/
def takeDigits : List Char → Nat → Nat → Nat × Nat × List Char
  | c :: cs, acc, n => if c.isDigit then takeDigits cs (acc * 10 + (c.toNat - 48)) (n + 1)
    else (acc, n, c :: cs)
  | [], acc, n => (acc, n, [])

/-- The double a decimal text stands for, rounded to nearest. -/
def ofDecimal (neg : Bool) (mant : Nat) (exp10 : Int) : Float :=
  let v := if mant = 0 then 0.0
    else if exp10 > 330 then 1.0 / 0.0
    else if exp10 + (digitCount mant : Int) < -330 then 0.0
    else if exp10 < 0 then Float.ofScientific mant true exp10.natAbs
    else Float.ofScientific mant false exp10.natAbs
  if neg then -v else v

/-- Read the decimal text of a double; `none` for text that is not one. -/
def read (s : String) : Option Float :=
  let cs := s.toList
  let (neg, cs) := match cs with
    | '-' :: r => (true, r)
    | '+' :: r => (false, r)
    | r => (false, r)
  let word := Text.asciiLower (String.ofList cs)
  if word == "inf" || word == "infinity" then
    some (if neg then -(1.0 / 0.0) else 1.0 / 0.0)
  else if word == "nan" then some (0.0 / 0.0)
  else
    let (ip, ni, rest) := takeDigits cs 0 0
    let (fp, nf, rest) := match rest with
      | '.' :: r => takeDigits r ip 0
      | r => (ip, 0, r)
    if ni + nf = 0 then none
    else
      let expPart : Option Int := match rest with
        | [] => some 0
        | c :: r =>
          if c == 'e' || c == 'E' then
            let (eneg, r) := match r with
              | '-' :: t => (true, t)
              | '+' :: t => (false, t)
              | t => (false, t)
            let (ev, ne, r) := takeDigits r 0 0
            if ne = 0 ∨ r ≠ [] then none
            else some (if eneg then -(ev : Int) else (ev : Int))
          else none
      expPart.map fun e => ofDecimal neg fp (e - nf)

end EpicFlow.Decimal
