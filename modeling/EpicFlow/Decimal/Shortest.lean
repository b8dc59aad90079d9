/-!
# Shortest decimal digits of a binary64 value

A finite double stands for the interval of reals that round to it. The
decimal chosen to write it is the one with the fewest significant digits in
that interval; of two such decimals the nearer to the exact value, and on an
exact tie the one with the even last digit.

The selection works in exact natural-number arithmetic: for one, two, …
seventeen digits it tests the value's two neighbours on the decimal grid of
that length against the interval, and the first length with a hit wins.

Main statements:

* `stripZeros_value`: removing trailing zeros keeps the value of a decimal.
* `select_readsBack`: a decimal returned by the search lies in the interval.
-/

set_option autoImplicit false

namespace EpicFlow.Decimal

/-- A finite non-negative binary64 magnitude `m * 2 ^ q`. -/
structure Binary where
  m : Nat
  q : Int
  /-- the gap to the value below is half the gap to the value above -/
  narrowBelow : Bool
deriving Repr, DecidableEq

/-- The magnitude of the bits of a finite double (the sign bit is ignored). -/
def Binary.ofBits (b : UInt64) : Binary :=
  let e := ((b >>> 52) &&& 0x7FF).toNat
  let f := (b &&& 0xFFFFFFFFFFFFF).toNat
  if e == 0 then ⟨f, -1074, false⟩ else ⟨Nat.pow 2 52 + f, (e : Int) - 1075, f == 0 && e > 1⟩

/-- A decimal `digits * 10 ^ exp`. -/
structure Dec where
  digits : Nat
  exp : Int
deriving Repr, DecidableEq

/-- Compare `a * 10 ^ i` with `n * 2 ^ j`, exactly. -/
def cmpScaled (a : Nat) (i : Int) (n : Nat) (j : Int) : Ordering :=
  compare (a * Nat.pow 10 i.toNat * Nat.pow 2 (-j).toNat) (n * Nat.pow 2 j.toNat * Nat.pow 10 (-i).toNat)

/-- The decimal lies among the reals that round to the value (to nearest, ties
to even): between the midpoints to the two neighbours, ends included when the
significand is even. -/
def Binary.readsBack (x : Binary) (d : Dec) : Bool :=
  let lo := if x.narrowBelow then 4 * x.m - 1 else 4 * x.m - 2
  let hi := 4 * x.m + 2
  let incl := x.m % 2 == 0
  let cl := cmpScaled d.digits d.exp lo (x.q - 2)
  let ch := cmpScaled d.digits d.exp hi (x.q - 2)
  (cl == .gt || (incl && cl == .eq)) && (ch == .lt || (incl && ch == .eq))

/-- The value as a fraction `num / den` of naturals, scaled by `10 ^ (-g)`. -/
def Binary.scaled (x : Binary) (g : Int) : Nat × Nat :=
  (x.m * Nat.pow 2 x.q.toNat * Nat.pow 10 (-g).toNat, Nat.pow 2 (-x.q).toNat * Nat.pow 10 g.toNat)

/-- The number of decimal digits of a positive natural number. -/
def digitCount (n : Nat) : Nat := (Nat.toDigits 10 n).length

/-- The largest `j` below `fuel` with `m * 10 ^ j < den`, searching upward. -/
def belowOne (m den : Nat) : Nat → Nat → Nat
  | 0, j => j
  | fuel + 1, j => if m * Nat.pow 10 (j + 1) < den then belowOne m den fuel (j + 1) else j

/-- The least `k` with `value < 10 ^ k`, for a non-zero value. -/
def Binary.scale (x : Binary) : Int :=
  let (num, den) := x.scaled 0
  let ip := num / den
  if ip > 0 then (digitCount ip : Int) else -((belowOne x.m den 400 0 : Nat) : Int)

/-- Move trailing zeros of the digits into the exponent. -/
def stripZeros : Nat → Dec → Dec
  | 0, d => d
  | fuel + 1, d =>
    if d.digits ≠ 0 ∧ d.digits % 10 = 0 then stripZeros fuel ⟨d.digits / 10, d.exp + 1⟩ else d

/-- Of the two neighbours of the value on the grid `10 ^ g`, the one that reads
back; of two, the nearer, and on a tie the even one. -/
def Binary.pickOnGrid (x : Binary) (g : Int) : Option Dec :=
  let (num, den) := x.scaled g
  let lo := num / den
  let okLo := x.readsBack ⟨lo, g⟩
  let okHi := x.readsBack ⟨lo + 1, g⟩
  if okLo && okHi then
    match compare (2 * num) ((2 * lo + 1) * den) with
    | .lt => some ⟨lo, g⟩
    | .gt => some ⟨lo + 1, g⟩
    | .eq => some (if lo % 2 == 0 then ⟨lo, g⟩ else ⟨lo + 1, g⟩)
  else if okLo then some ⟨lo, g⟩
  else if okHi then some ⟨lo + 1, g⟩
  else none

/-- The search over one to seventeen significant digits. -/
def Binary.search (x : Binary) : Option Dec :=
  let k := x.scale
  (List.range 17).findSome? fun n => x.pickOnGrid (k - ((n + 1 : Nat) : Int))

/-- The exact decimal value of `m * 2 ^ q`. -/
def Binary.exact (x : Binary) : Dec :=
  if x.q ≥ 0 then ⟨x.m * Nat.pow 2 x.q.toNat, 0⟩ else ⟨x.m * Nat.pow 5 (-x.q).toNat, x.q⟩

/-- The shortest decimal of a non-zero magnitude, without trailing zeros. -/
def Binary.select (x : Binary) : Dec :=
  stripZeros 400 ((x.search).getD x.exact)

theorem intPow_zero (b : Int) : Int.pow b 0 = 1 := Int.pow_zero b

theorem intPow_succ (b : Int) (n : Nat) : Int.pow b (n + 1) = Int.pow b n * b := Int.pow_succ b n

theorem stripZeros_value (fuel : Nat) (d : Dec) :
    ((stripZeros fuel d).digits : Int) * Int.pow 10 ((stripZeros fuel d).exp - d.exp).toNat
      = d.digits ∧ (stripZeros fuel d).exp ≥ d.exp := by
  induction fuel generalizing d with
  | zero => simp [stripZeros, intPow_zero]
  | succ n ih =>
    simp only [stripZeros]
    split
    · rename_i h
      obtain ⟨h1, h2⟩ := ih ⟨d.digits / 10, d.exp + 1⟩
      refine ⟨?_, by simp at h2; omega⟩
      have e : ((stripZeros n ⟨d.digits / 10, d.exp + 1⟩).exp - d.exp).toNat
          = ((stripZeros n ⟨d.digits / 10, d.exp + 1⟩).exp - (d.exp + 1)).toNat + 1 := by
        simp at h2; omega
      rw [e, intPow_succ, ← Int.mul_assoc, h1]
      have : d.digits / 10 * 10 = d.digits := Nat.div_mul_cancel (Nat.dvd_of_mod_eq_zero h.2)
      simp only
      exact_mod_cast this
    · simp [intPow_zero]

theorem pickOnGrid_readsBack (x : Binary) (g : Int) (d : Dec)
    (h : x.pickOnGrid g = some d) : x.readsBack d = true := by
  simp only [Binary.pickOnGrid] at h
  split at h
  · rename_i hb
    simp only [Bool.and_eq_true] at hb
    split at h <;> simp only [Option.some.injEq] at h <;> subst h
    · exact hb.1
    · exact hb.2
    · split <;> simp [hb.1, hb.2]
  · split at h
    · simp only [Option.some.injEq] at h; subst h; assumption
    · split at h
      · simp only [Option.some.injEq] at h; subst h; assumption
      · simp at h

theorem select_readsBack (x : Binary) (d : Dec) (h : x.search = some d) :
    x.readsBack d = true := by
  simp only [Binary.search] at h
  obtain ⟨n, _, hn⟩ := List.exists_of_findSome?_eq_some h
  exact pickOnGrid_readsBack x _ d hn

end EpicFlow.Decimal
