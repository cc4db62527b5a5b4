import Rulebook.Json.Basic
import Rulebook.Text.Digits

/-!
# JSON numerals

A numeral without point and exponent is a whole number if it fits 64 bits. Any other is read as
its leading digits, as many as fit 64 bits, converted to binary64 and then multiplied or divided
by a power of ten, each step rounded to nearest.
-/

namespace Rulebook

/-- The parts of a numeral: a sign, digits, perhaps digits after a point, perhaps an exponent. -/
structure Numeral where
  negative : Bool
  whole : List Char
  fraction : Option (List Char)
  exponent : Option (Bool × List Char)

namespace Numeral

/-! ## Leading digits -/

/-- Appends digits to a number while it fits 64 bits; the digits left over follow. -/
def absorb : Nat → List Char → Nat × List Char
  | n, [] => (n, [])
  | n, c :: rest =>
    let more := 10 * n + Digits.digitValue c
    if more < Bits.count 64 then absorb more rest else (n, c :: rest)

/-- The leading digits of a numeral and the power of ten they stand at. -/
def leading (n : Numeral) : Nat × Int :=
  let (whole, dropped) := absorb 0 n.whole
  let fraction := n.fraction.getD []
  let (digits, rest) := absorb whole fraction
  (digits, (dropped.length : Int) - ((fraction.length - rest.length : Nat) : Int))

/-! ## Scaling -/

def power (n : Nat) : Binary64 := (Binary64.nearest false (Nat.pow 10 n) 1).getD default

/-- The greatest power of ten that is a binary64 number. -/
def greatestPower : Nat := 308

/-- Multiplies or divides by `10 ^ exponent`; `none` if the result is out of range. Three divisions
by the greatest power leave zero. -/
def scale : Nat → Binary64 → Int → Option Binary64
  | 0, x, _ => some x
  | fuel + 1, x, exponent =>
    if exponent.natAbs ≤ greatestPower then
      if exponent ≥ 0 then x.mul (power exponent.natAbs) else x.div (power exponent.natAbs)
    else if x.isZero then some x
    else if exponent ≥ 0 then none
    else (x.div (power greatestPower)).bind fun y => scale fuel y (exponent + greatestPower)

/-- Exponents beyond this are not computed with. -/
def exponentLimit : Nat := Bits.count 31 - 1

def toBinary64 (n : Numeral) : Option Binary64 :=
  let (digits, place) := n.leading
  let signed (x : Binary64) : Binary64 := if n.negative then x.negate else x
  let start := Binary64.ofInt digits
  match n.exponent with
  | none => (scale 4 start place).map signed
  | some (down, text) =>
    let e := Digits.value text
    if exponentLimit < e then
      if digits ≠ 0 ∧ !down then none else some (signed (Binary64.zero false))
    else (scale 4 start (if down then place - e else place + e)).map signed

/-- The number written; `none` if it is out of range. Minus zero is a binary64 number. -/
def toNumber (n : Numeral) : Option Number :=
  match n.fraction, n.exponent with
  | none, none =>
    let value := Digits.value n.whole
    let i := Digits.signed n.negative value
    if n.negative && value == 0 then n.toBinary64.map .float
    else if h : (Bits.fitsSigned 64 i || Bits.fitsUnsigned 64 i) = true then some (.whole i h)
    else n.toBinary64.map .float
  | _, _ => n.toBinary64.map .float

end Numeral

end Rulebook
