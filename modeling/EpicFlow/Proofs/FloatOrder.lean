import Mathlib
import EpicFlow.Pattern

/-!
# Comparing floating-point numbers

The engine compares `Float` values (costs, confidences, budget ceilings) with the IEEE
comparisons `<`, `≤` and `==`. Lean models these through `Float.Model`: each comparison unpacks
both operands and reads `UnpackedFloat.compare`, which answers nothing for a NaN and otherwise
orders the classes negative infinity, negative finite numbers, the zeros, positive finite
numbers, positive infinity, with finite numbers of one sign ordered by exponent and then by
mantissa.

Here that order is given a rank: a triple of integers whose lexicographic order is the order of
`compare` (`UnpackedFloat.lt_iff_rank`, `UnpackedFloat.beq_iff_rank`). So on numbers, that is
on values that are not NaN, `<` is `<` of ranks, `≤` is `≤` of ranks and `==` is equality of ranks. The comparisons are
then a total preorder in which only the two zeros tie with a different value, and a NaN is
below, above and equal to nothing.

Main statements:

* `FloatOrder.lt_iff_rank`, `FloatOrder.le_iff_rank`, `FloatOrder.beq_iff_rank`: on numbers the
  comparisons compare ranks.
* `FloatOrder.not_le_of_isNaN`, `FloatOrder.not_le_isNaN`: a NaN is comparable to nothing.
* `FloatOrder.outside_unit_iff`: a float fails the check `0 ≤ x ≤ 1` exactly when it is NaN,
  below 0 or above 1.
-/

set_option autoImplicit false

namespace EpicFlow

namespace FloatOrder

open Float.Model

/-- Where an unpacked float stands among numbers: negative infinity, then the negative finite
numbers (a larger exponent, then a larger mantissa, further down), then both zeros together,
then the positive finite numbers, then positive infinity. A NaN has no place; the rank given
to it is read by no comparison below. -/
def unpackedRank : UnpackedFloat → ℤ ×ₗ ℤ ×ₗ ℤ
  | .infinity .negative => toLex (0, toLex (0, 0))
  | .finite .negative m e _ => toLex (1, toLex (-e, -m))
  | .zero _ => toLex (2, toLex (0, 0))
  | .finite .positive m e _ => toLex (3, toLex (e, m))
  | .infinity .positive => toLex (4, toLex (0, 0))
  | .notANumber => toLex (5, toLex (0, 0))

theorem compareOfLessAndEq_int_gt (a b : Int) : compareOfLessAndEq a b = .gt ↔ b < a :=
  compareOfLessAndEq_eq_gt (fun h h' => Int.le_antisymm h h') Int.le_total (fun {_ _} => Int.not_le) a b

theorem compareOfLessAndEq_nat_gt (a b : Nat) : compareOfLessAndEq a b = .gt ↔ b < a :=
  compareOfLessAndEq_eq_gt (fun h h' => Nat.le_antisymm h h') Nat.le_total (fun {_ _} => Nat.not_le) a b

namespace UnpackedFloat

variable {a b : UnpackedFloat}

/-- Between numbers, `lt` is `<` of ranks: one case per pair of classes and signs, each read
off `compare`. -/
theorem lt_iff_rank (ha : a ≠ .notANumber) (hb : b ≠ .notANumber) :
    a.lt b = true ↔ unpackedRank a < unpackedRank b := by
  rcases a with ⟨_ | _⟩ | _ | ⟨_ | _⟩ | ⟨_ | _, m, e, hm⟩ <;>
  rcases b with ⟨_ | _⟩ | _ | ⟨_ | _⟩ | ⟨_ | _, m', e', hm'⟩ <;>
  simp_all [UnpackedFloat.lt, UnpackedFloat.compare, unpackedRank, compare, Ordering.then_eq_lt,
    Ordering.then_eq_gt, Prod.Lex.toLex_lt_toLex, compareOfLessAndEq_eq_lt,
    compareOfLessAndEq_eq_eq, compareOfLessAndEq_int_gt, compareOfLessAndEq_nat_gt]

/-- Between numbers, `beq` is equality of ranks. -/
theorem beq_iff_rank (ha : a ≠ .notANumber) (hb : b ≠ .notANumber) :
    a.beq b = true ↔ unpackedRank a = unpackedRank b := by
  rcases a with ⟨_ | _⟩ | _ | ⟨_ | _⟩ | ⟨_ | _, m, e, hm⟩ <;>
  rcases b with ⟨_ | _⟩ | _ | ⟨_ | _⟩ | ⟨_ | _, m', e', hm'⟩ <;>
  simp_all [UnpackedFloat.beq, UnpackedFloat.compare, unpackedRank, compare, Ordering.then_eq_eq,
    compareOfLessAndEq_eq_eq, Prod.ext_iff, Int.natCast_inj]

/-- `le` is `lt` or `beq`, for every pair: both read the same answer of `compare`. -/
theorem le_iff_lt_or_beq : a.le b = true ↔ a.lt b = true ∨ a.beq b = true := by
  simp only [UnpackedFloat.le, UnpackedFloat.lt, UnpackedFloat.beq]
  cases a.compare b with
  | none => simp
  | some o => cases o <;> simp [Ordering.isLE]

theorem le_iff_rank (ha : a ≠ .notANumber) (hb : b ≠ .notANumber) :
    a.le b = true ↔ unpackedRank a ≤ unpackedRank b := by
  rw [le_iff_lt_or_beq, lt_iff_rank ha hb, beq_iff_rank ha hb, le_iff_lt_or_eq]

/-- A NaN is `le` nothing. -/
theorem le_notANumber_left : UnpackedFloat.notANumber.le b = false := rfl

/-- Nothing is `le` a NaN. -/
theorem le_notANumber_right : a.le .notANumber = false := by
  cases a <;> rfl

end UnpackedFloat

/-- The rank of a float: the rank of its unpacked form. -/
def rank (x : Float) : ℤ ×ₗ ℤ ×ₗ ℤ := unpackedRank x.toModel.unpack

variable {x y : Float}

theorem isNaN_eq_false_iff : x.isNaN = false ↔ x.toModel.unpack ≠ .notANumber := by
  show x.toModel.unpack.isNaN = false ↔ _
  cases x.toModel.unpack <;> simp [UnpackedFloat.isNaN]

theorem lt_iff_unpacked : x < y ↔ x.toModel.unpack.lt y.toModel.unpack = true := by
  show Float.lt x y = true ↔ _
  simp only [Float.lt, Float.Model.lt, LT.lt]
  exact decide_eq_true_iff

theorem le_iff_unpacked : x ≤ y ↔ x.toModel.unpack.le y.toModel.unpack = true := by
  show Float.le x y = true ↔ _
  simp only [Float.le, Float.Model.le, LE.le]
  exact decide_eq_true_iff

theorem beq_eq_unpacked : (x == y) = x.toModel.unpack.beq y.toModel.unpack := rfl

section Numbers

variable (hx : x.isNaN = false) (hy : y.isNaN = false)
include hx hy

theorem lt_iff_rank : x < y ↔ rank x < rank y := by
  rw [lt_iff_unpacked]
  exact UnpackedFloat.lt_iff_rank (isNaN_eq_false_iff.1 hx) (isNaN_eq_false_iff.1 hy)

theorem le_iff_rank : x ≤ y ↔ rank x ≤ rank y := by
  rw [le_iff_unpacked]
  exact UnpackedFloat.le_iff_rank (isNaN_eq_false_iff.1 hx) (isNaN_eq_false_iff.1 hy)

theorem beq_iff_rank : (x == y) = true ↔ rank x = rank y := by
  rw [beq_eq_unpacked]
  exact UnpackedFloat.beq_iff_rank (isNaN_eq_false_iff.1 hx) (isNaN_eq_false_iff.1 hy)

end Numbers

/-- A NaN is below nothing. -/
theorem not_le_of_isNaN (hx : x.isNaN = true) : ¬ x ≤ y := by
  have hu : x.toModel.unpack = .notANumber := by
    revert hx
    show x.toModel.unpack.isNaN = true → _
    cases x.toModel.unpack <;> simp [UnpackedFloat.isNaN]
  rw [le_iff_unpacked, hu, UnpackedFloat.le_notANumber_left]
  exact Bool.false_ne_true

/-- Nothing is below a NaN. -/
theorem not_le_isNaN (hy : y.isNaN = true) : ¬ x ≤ y := by
  have hu : y.toModel.unpack = .notANumber := by
    revert hy
    show y.toModel.unpack.isNaN = true → _
    cases y.toModel.unpack <;> simp [UnpackedFloat.isNaN]
  rw [le_iff_unpacked, hu, UnpackedFloat.le_notANumber_right]
  exact Bool.false_ne_true

/-- A float fails the check `0 ≤ x ≤ 1` exactly when it is NaN, below 0 or above 1. -/
theorem outside_unit_iff (x : Float) :
    (!(decide ((0.0 : Float) ≤ x) && decide (x ≤ (1.0 : Float)))) = true ↔
      x.isNaN = true ∨ x < 0.0 ∨ (1.0 : Float) < x := by
  have h0 : (0.0 : Float).isNaN = false := by decide
  have h1 : (1.0 : Float).isNaN = false := by decide
  cases hx : x.isNaN with
  | true => simp [not_le_isNaN (x := (0.0 : Float)) hx]
  | false =>
    simp only [Bool.not_and, Bool.or_eq_true, Bool.not_eq_true', decide_eq_false_iff_not,
      le_iff_rank h0 hx, le_iff_rank hx h1, lt_iff_rank hx h0, lt_iff_rank h1 hx, not_le,
      Bool.false_eq_true, false_or]

end FloatOrder

end EpicFlow
