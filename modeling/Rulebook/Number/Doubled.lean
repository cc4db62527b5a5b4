import Rulebook.Number.Bits
import Rulebook.Number.Decimal

/-!
# Pairs of binary64 numbers

The sum of a pair stands for a number with about twice the digits of one binary64 number. Pairs are
multiplied by powers of ten step by step, each operation rounded to the nearest binary64 number, to
get a binary64 number from decimal digits and nineteen digits at most from a binary64 number.

* `upper_significand_le`: the upper half of a number is not above it;
* `ofDigits_zero`: no digits but zeros stand for zero.
-/

namespace Rulebook

namespace Binary64

def add (x y : Binary64) : Option Binary64 :=
  let sum := x.units + y.units
  nearest (decide (sum < 0)) sum.natAbs unitsPerOne

def sub (x y : Binary64) : Option Binary64 := add x y.negate

def lowerBits : Nat := Nat.pow 2 26

/-- The number without the lower half of its significand. -/
def upper (x : Binary64) : Binary64 :=
  { x with
    significand := x.significand / lowerBits * lowerBits
    significand_lt := Nat.lt_of_le_of_lt (Nat.div_mul_le_self ..) x.significand_lt
    normal := x.normal.imp id fun h => by
      have h1 : Nat.pow 2 26 * lowerBits = Nat.pow 2 52 := by decide
      rw [← h1]
      refine Nat.mul_le_mul_right _ ?_
      rw [Nat.le_div_iff_mul_le (by decide)]
      exact h1 ▸ h }

theorem upper_significand_le (x : Binary64) : x.upper.significand ≤ x.significand :=
  Nat.div_mul_le_self ..

/-- The number nearest to a decimal in range. -/
def ofDecimalConstant (digits : Nat) (exponent : Int) : Binary64 :=
  (ofDecimal false digits exponent).getD (zero false)

end Binary64

structure Doubled where
  high : Binary64
  low : Binary64

namespace Doubled

open Binary64

/-! ## Multiplication -/

/-- The product of two pairs, of which the second has a low part that is only needed for the first
one's high part; none if it is out of range. -/
def mul (x y : Doubled) : Option Doubled := do
  let xLow ← sub x.high x.high.upper
  let yLow ← sub y.high y.high.upper
  let p ← Binary64.mul x.high.upper y.high.upper
  let q ← add (← Binary64.mul x.high.upper yLow) (← Binary64.mul xLow y.high.upper)
  let c ← add p q
  let rest ← add (← add (← sub p c) q) (← Binary64.mul xLow yLow)
  let rest ← add (← add (← Binary64.mul x.high y.low) (← Binary64.mul x.low y.high)) rest
  let high ← add c rest
  let low ← add (← sub c high) rest
  return ⟨high, low⟩

/-- Multiplies by a factor some times. -/
def mulTimes (factor : Doubled) : Nat → Doubled → Option Doubled
  | 0, x => some x
  | n + 1, x => (x.mul factor).bind (mulTimes factor n)

def negative (digits : Nat) (exponent : Int) : Binary64 :=
  (ofDecimalConstant digits exponent).negate

/-- Ten to the hundredth; the low part is what the high one lacks. -/
def tenToHundred : Doubled := ⟨ofDecimalConstant 1 100, negative 15902891109759918046 64⟩

def tenToTen : Doubled := ⟨ofDecimalConstant 1 10, zero false⟩

def ten : Doubled := ⟨ofDecimalConstant 1 1, zero false⟩

def tenToMinusHundred : Doubled :=
  ⟨ofDecimalConstant 1 (-100), negative 199918998026028836196 (-137)⟩

def tenToMinusTen : Doubled := ⟨ofDecimalConstant 1 (-10), negative 36432197315497741579 (-46)⟩

def tenth : Doubled := ⟨ofDecimalConstant 1 (-1), negative 55511151231257827021 (-37)⟩

/-- Multiplies by a power of ten: hundredth powers first, single ones last. -/
def scale (power : Int) (x : Doubled) : Option Doubled :=
  let n := power.natAbs
  let (hundred, several, one) :=
    if power < 0 then (tenToMinusHundred, tenToMinusTen, tenth) else (tenToHundred, tenToTen, ten)
  ((mulTimes hundred (n / 100) x).bind (mulTimes several (n % 100 / 10))).bind
    (mulTimes one (n % 10))

/-! ## From digits -/

/-- Numbers up to this are kept whole in a pair. -/
def wholeLimit : Nat := 18446744073709549568

def ofNat (n : Nat) : Doubled :=
  let high := Binary64.ofInt n
  if high.truncate ≤ wholeLimit then ⟨high, Binary64.ofInt (n - high.truncate)⟩
  else ⟨high, zero false⟩

/-- Makes digits longer and the exponent smaller while there is room for a further digit. -/
def lengthen : Nat → Nat → Nat × Nat
  | digits, 0 => (digits, 0)
  | digits, exponent + 1 =>
    if digits < (Bits.count 64 - 1 - 0x7ff) / 10 then lengthen (10 * digits) exponent
    else (digits, exponent + 1)

/-- Drops zeros at the end of the digits while the exponent is negative. -/
def shorten : Nat → Nat → Nat × Nat
  | digits, 0 => (digits, 0)
  | digits, places + 1 =>
    if digits % 10 = 0 then shorten (digits / 10) places else (digits, places + 1)

/-- Exponents beyond this lead out of range in either direction. -/
def exponentLimit : Nat := 10000

/-- The binary64 number for `digits * 10 ^ exponent`, with digits below `2 ^ 64`; none if it is out
of range. -/
def ofDigits (digits : Nat) (exponent : Int) : Option Binary64 :=
  let exponent := max (-(exponentLimit : Int)) (min exponentLimit exponent)
  if digits = 0 then some (zero false)
  else
    let (digits, power) : Nat × Int :=
      if 0 ≤ exponent then
        let (digits, n) := lengthen digits exponent.toNat
        (digits, n)
      else
        let (digits, n) := shorten digits (-exponent).toNat
        (digits, -(n : Int))
    ((ofNat digits).scale power).bind fun x => add x.high x.low

theorem ofDigits_zero (exponent : Int) : ofDigits 0 exponent = some (zero false) := rfl

/-! ## To digits -/

/-- Multiplies by a factor while a test holds, and counts how often. -/
def mulWhile (test : Binary64 → Bool) (factor : Doubled) : Nat → Doubled → Nat × Doubled
  | 0, x => (0, x)
  | fuel + 1, x =>
    if test x.high then
      match x.mul factor with
      | some y =>
        let (n, y) := mulWhile test factor fuel y
        (n + 1, y)
      | none => (0, x)
    else (0, x)

/-- No loop of multiplications is longer than this. -/
def steps : Nat := 40

/-- The power of ten that a number is multiplied by, and the product, which has eighteen or nineteen
digits before its point. -/
def normalize (x : Binary64) : Int × Doubled :=
  let isAbove (exponent : Int) (y : Binary64) : Bool :=
    decide ((ofDecimalConstant 9223372036854774784 exponent).units < y.units)
  let isBelow (digits : Nat) (exponent : Int) (y : Binary64) : Bool :=
    decide (y.units < (ofDecimalConstant digits exponent).units)
  let start : Doubled := ⟨x, zero false⟩
  if isAbove 0 x then
    let (a, y) := mulWhile (isAbove 100) tenToMinusHundred steps start
    let (b, y) := mulWhile (isAbove 10) tenToMinusTen steps y
    let (c, y) := mulWhile (isAbove 0) tenth steps y
    (-((100 * a + 10 * b + c : Nat) : Int), y)
  else
    let (a, y) := mulWhile (isBelow 9223372036854774784 (-101)) tenToHundred steps start
    let (b, y) := mulWhile (isBelow 9223372036854774784 (-11)) tenToTen steps y
    let (c, y) := mulWhile (isBelow 922337203685477478 0) ten steps y
    (((100 * a + 10 * b + c : Nat) : Int), y)

/-- The eighteen or nineteen leading digits of the magnitude of a number that is not zero. What
follows the point of the parts of the pair is dropped. -/
def leadingDigits (x : Binary64) : Decimal :=
  let (power, y) := normalize { x with negative := false }
  ⟨(y.high.truncate + y.low.truncate).toNat, -power⟩

/-- The decimal with at most `count` digits that leading digits are rounded to; a half goes up. -/
def rounded (count : Nat) (d : Decimal) : Decimal :=
  let surplus := Decimal.digitCount d.digits - count
  let unit := Nat.pow 10 surplus
  let up := if 2 * (d.digits % unit) < unit then 0 else 1
  if surplus = 0 then Decimal.stripZeros 20 d
  else Decimal.stripZeros 20 ⟨d.digits / unit + up, d.exponent + surplus⟩

end Doubled

end Rulebook
