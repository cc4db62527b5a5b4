import Rulebook.Number.Binary64

/-!
# Decimal text of binary64 numbers

A number is written with the fewest digits that read back as it, or with a fixed count of
significant digits. How the digits are laid out is a record, so that each format that writes
numbers states its own choices.
-/

namespace Rulebook

/-- The value `digits * 10 ^ exponent`. -/
structure Decimal where
  digits : Nat
  exponent : Int
  deriving DecidableEq

/-- Where a value halfway between two decimals goes. -/
inductive Tie where
  | even
  | up
  deriving DecidableEq

namespace Decimal

def digitCount (n : Nat) : Nat := (Nat.toDigits 10 n).length

/-- Drops zeros at the end of the digits, at most `fuel` of them. -/
def stripZeros : Nat → Decimal → Decimal
  | 0, d => d
  | fuel + 1, d =>
    if d.digits ≠ 0 ∧ d.digits % 10 = 0 then stripZeros fuel ⟨d.digits / 10, d.exponent + 1⟩ else d

/-! ## Digits of a binary64 number -/

/-- `num / den` compared with `digits * 10 ^ exponent`. -/
def compareQuotient (num den : Nat) (digits : Nat) (exponent : Int) : Ordering :=
  if exponent ≥ 0 then compare num (digits * Nat.pow 10 exponent.toNat * den)
  else compare (num * Nat.pow 10 (-exponent).toNat) (digits * den)

/-- The whole part of `num / den / 10 ^ exponent`. -/
def quotientAt (num den : Nat) (exponent : Int) : Nat :=
  if exponent ≥ 0 then num / (den * Nat.pow 10 exponent.toNat)
  else num * Nat.pow 10 (-exponent).toNat / den

/-- The power of ten of the leading digit of `num / den`, for values above `10 ^ (-330)`. -/
def leadingPower (num den : Nat) : Int :=
  (digitCount (num * Nat.pow 10 330 / den) : Int) - 1 - 330

/-- Of `low` and `low + 1`, times `10 ^ exponent`, the nearer one to `num / den`. -/
def nearer (tie : Tie) (num den low : Nat) (exponent : Int) : Nat :=
  match compareQuotient (2 * num) den (2 * low + 1) exponent with
  | .lt => low
  | .gt => low + 1
  | .eq => match tie with
    | .even => low + low % 2
    | .up => low + 1

/-- The decimals that read back as `x` lie between `low` and `high` quarter units, the ends
included if the significand is even. -/
def readsBack (x : Binary64) (digits : Nat) (exponent : Int) : Bool :=
  let step := Nat.pow 2 x.exponent
  let below := if x.significand = Nat.pow 2 52 ∧ x.exponent > 0 then step else 2 * step
  let low := 4 * x.magnitude - below
  let high := 4 * x.magnitude + 2 * step
  let den := 4 * Binary64.unitsPerOne
  let atLow := compareQuotient low den digits exponent
  let atHigh := compareQuotient high den digits exponent
  if x.significand % 2 = 0 then atLow != .gt && atHigh != .lt else atLow == .lt && atHigh == .gt

/-- Tries `count` digits, then one more, up to 17, which always suffice. -/
def shortestFrom (tie : Tie) (x : Binary64) (leading : Int) : Nat → Nat → Decimal
  | 0, count => ⟨x.magnitude, (count : Int)⟩
  | fuel + 1, count =>
    let exponent := leading - (count : Int) + 1
    let low := quotientAt x.magnitude Binary64.unitsPerOne exponent
    let lowFits := readsBack x low exponent
    let highFits := readsBack x (low + 1) exponent
    if lowFits && highFits then
      ⟨nearer tie x.magnitude Binary64.unitsPerOne low exponent, exponent⟩
    else if lowFits then ⟨low, exponent⟩
    else if highFits then ⟨low + 1, exponent⟩
    else shortestFrom tie x leading fuel (count + 1)

/-- The fewest digits that read back as the magnitude of `x`, the nearest of those. -/
def shortest (tie : Tie) (x : Binary64) : Decimal :=
  if x.isZero then ⟨0, 0⟩
  else
    stripZeros 20
      (shortestFrom tie x (leadingPower x.magnitude Binary64.unitsPerOne) 17 1)

/-- The magnitude of `x` rounded to `count` significant digits. -/
def significant (tie : Tie) (count : Nat) (x : Binary64) : Decimal :=
  if x.isZero then ⟨0, 0⟩
  else
    let exponent := leadingPower x.magnitude Binary64.unitsPerOne - (count : Int) + 1
    let low := quotientAt x.magnitude Binary64.unitsPerOne exponent
    stripZeros (count + 1) ⟨nearer tie x.magnitude Binary64.unitsPerOne low exponent, exponent⟩

/-! ## Layout -/

/-- How a decimal is written. A number whose leading digit stands at a power of ten between
`least` and `greatest` is written positionally, any other with an exponent. -/
structure Layout where
  least : Int
  greatest : Int
  /-- Whether a point is always followed by a digit, as in `1.0`, in positional notation. -/
  pointInPositional : Bool
  /-- The same for the digits before an exponent. -/
  pointInScientific : Bool
  /-- The least count of exponent digits. -/
  exponentWidth : Nat

def zeros (n : Nat) : List Char := List.replicate n '0'

/-- Digits with a point after the first `whole` of them. -/
def positional (point : Bool) (digits : List Char) (whole : Int) : List Char :=
  if whole ≤ 0 then '0' :: '.' :: (zeros (-whole).toNat ++ digits)
  else if (digits.length : Int) ≤ whole then
    digits ++ zeros (whole.toNat - digits.length) ++ (if point then ['.', '0'] else [])
  else digits.take whole.toNat ++ '.' :: digits.drop whole.toNat

def exponentText (width : Nat) (exponent : Int) : List Char :=
  let digits := Nat.toDigits 10 exponent.natAbs
  'e' :: (if exponent < 0 then '-' else '+') :: (zeros (width - digits.length) ++ digits)

def Layout.text (layout : Layout) (d : Decimal) : List Char :=
  let digits := Nat.toDigits 10 d.digits
  let leading : Int := if d.digits = 0 then 0 else d.exponent + (digits.length : Int) - 1
  if layout.least ≤ leading ∧ leading ≤ layout.greatest then
    positional layout.pointInPositional digits (leading + 1)
  else
    positional layout.pointInScientific digits 1 ++ exponentText layout.exponentWidth leading

end Decimal

end Rulebook
