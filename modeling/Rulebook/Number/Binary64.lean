/-!
# Finite binary64 numbers

A finite binary64 number is a sign, a significand below `2 ^ 53` and an exponent counted from the
least one, so that its magnitude is `significand * 2 ^ exponent` units of `2 ^ (-1074)`. All
arithmetic is exact arithmetic on units, followed by one rounding.

* `nearest`: the number nearest to a quotient, ties to the even significand;
* `units_zero`, `units_negate`, `beq_iff`: the sign of zero does not count in comparisons;
* `equalsInt_iff`: whole numbers and binary64 numbers are compared by exact value.
-/

namespace Rulebook

structure Binary64 where
  negative : Bool
  significand : Nat
  exponent : Nat
  significand_lt : significand < Nat.pow 2 53
  exponent_le : exponent ≤ 2045
  normal : exponent = 0 ∨ Nat.pow 2 52 ≤ significand
  deriving DecidableEq

namespace Binary64

/-! ## Exact value -/

/-- The least positive number is two to the minus this. -/
def unitExponent : Nat := 1074

/-- One is this many units. -/
def unitsPerOne : Nat := Nat.pow 2 unitExponent

theorem unitsPerOne_pos : 0 < unitsPerOne := by
  unfold unitsPerOne
  generalize unitExponent = n
  exact Nat.two_pow_pos n

def magnitude (x : Binary64) : Nat := x.significand * Nat.pow 2 x.exponent

/-- The exact value, counted in units of `2 ^ (-1074)`. -/
def units (x : Binary64) : Int := if x.negative then -(x.magnitude : Int) else x.magnitude

def zero (negative : Bool) : Binary64 :=
  ⟨negative, 0, 0, by decide, by decide, .inl rfl⟩

def negate (x : Binary64) : Binary64 := { x with negative := !x.negative }

def isZero (x : Binary64) : Bool := x.significand == 0

instance : Inhabited Binary64 := ⟨zero false⟩

/-- Numbers are equal if their values are, so both zeros are equal. -/
instance : BEq Binary64 := ⟨fun x y => x.units == y.units⟩

theorem beq_iff (x y : Binary64) : (x == y) = true ↔ x.units = y.units :=
  beq_iff_eq (a := x.units) (b := y.units)

theorem units_negate (x : Binary64) : x.negate.units = -x.units := by
  cases h : x.negative <;> simp [units, negate, magnitude, h]

/-- Whether the exact value is the whole number `i`. -/
def equalsInt (x : Binary64) (i : Int) : Bool := x.units == i * unitsPerOne

theorem equalsInt_iff (x : Binary64) (i : Int) :
    x.equalsInt i = true ↔ x.units = i * unitsPerOne :=
  beq_iff_eq

/-- No number equals two different whole numbers. -/
theorem eq_of_equalsInt {x : Binary64} {i j : Int} (hi : x.equalsInt i = true)
    (hj : x.equalsInt j = true) : i = j := by
  rw [equalsInt_iff] at hi hj
  have h : i * (unitsPerOne : Int) = j * unitsPerOne := hi.symm.trans hj
  exact Int.eq_of_mul_eq_mul_right (Int.natCast_ne_zero.2 (Nat.ne_of_gt unitsPerOne_pos)) h

def isWhole (x : Binary64) : Bool := x.magnitude % unitsPerOne == 0

/-- The whole part; what follows the point is dropped, whatever the sign. -/
def truncate (x : Binary64) : Int :=
  if x.negative then -((x.magnitude / unitsPerOne : Nat) : Int)
  else ((x.magnitude / unitsPerOne : Nat) : Int)

/-! ## Rounding -/

/-- The whole number nearest to `num / den`, a half going to the even neighbour. -/
def roundHalfEven (num den : Nat) : Nat :=
  let low := num / den
  let twice := 2 * (num % den)
  if twice < den then low
  else if den < twice then low + 1
  else low + low % 2

/-- The binary64 number nearest to `num / den`, ties to the even significand; `none` beyond the
greatest finite number. -/
def nearest (negative : Bool) (num den : Nat) : Option Binary64 :=
  let scaled := num * unitsPerOne
  let exponent := Nat.log2 (scaled / den) - 52
  let significand := roundHalfEven scaled (den * Nat.pow 2 exponent)
  if h : significand < Nat.pow 2 53 ∧ exponent ≤ 2045 ∧
      (exponent = 0 ∨ Nat.pow 2 52 ≤ significand) then
    some ⟨negative, significand, exponent, h.1, h.2.1, h.2.2⟩
  else if h : exponent + 1 ≤ 2045 then
    some ⟨negative, Nat.pow 2 52, exponent + 1, by decide, h, .inr (Nat.le_refl _)⟩
  else none

/-- The number nearest to a whole number, the greatest finite one if it is out of range. -/
def ofInt (i : Int) : Binary64 :=
  (nearest (decide (i < 0)) i.natAbs 1).getD
    ⟨decide (i < 0), Nat.pow 2 53 - 1, 2045, by decide, by decide, .inr (by decide)⟩

def mul (x y : Binary64) : Option Binary64 :=
  nearest (x.negative != y.negative) (x.magnitude * y.magnitude) (unitsPerOne * unitsPerOne)

/-- The rounded quotient; the divisor is not zero. -/
def div (x y : Binary64) : Option Binary64 :=
  nearest (x.negative != y.negative) x.magnitude y.magnitude

/-- The number nearest to `digits * 10 ^ exponent`. -/
def ofDecimal (negative : Bool) (digits : Nat) (exponent : Int) : Option Binary64 :=
  if digits = 0 then some (zero negative)
  else if exponent ≥ 0 then
    if exponent > 400 then none else nearest negative (digits * Nat.pow 10 exponent.toNat) 1
  else
    let places := (-exponent).toNat
    if places > (Nat.log2 digits + 1) + 400 then some (zero negative)
    else nearest negative digits (Nat.pow 10 places)

end Binary64

end Rulebook
