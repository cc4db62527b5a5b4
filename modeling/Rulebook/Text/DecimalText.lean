import Rulebook.Number.Bits
import Rulebook.Text.Digits

/-!
# Decimal numbers as text

A decimal number is written as a base, perhaps followed by `e` or `E` and an exponent. The base
holds at most one point that counts, has an optional sign, and then a digit followed by digits and
underscores. The count of places after the point, less the exponent, fits 64 bits.
-/

namespace Rulebook.DecimalText

def isExponentMark (c : Char) : Bool := c == 'e' || c == 'E'

/-- A whole number with an optional sign that fits 128 bits. -/
def exponent? (text : List Char) : Option Int :=
  let (negative, digits) := Digits.splitSign text
  let value := Digits.signed negative (Digits.value digits)
  if !digits.isEmpty && digits.all Char.isDigit && Bits.fitsSigned 128 value then some value
  else none

/-- The base and the exponent of a text, which is zero if none is written. -/
def split (text : List Char) : Option (List Char × Int) :=
  match text.dropWhile fun c => !isExponentMark c with
  | [] => some (text, 0)
  | _ :: exponent =>
    (exponent? exponent).map fun e => (text.takeWhile fun c => !isExponentMark c, e)

/-- Digits and underscores that start with a digit. -/
def isDigits : List Char → Bool
  | [] => false
  | c :: rest => c.isDigit && rest.all fun c => c.isDigit || c == '_'

/-- Digits with an optional sign. -/
def isSigned : List Char → Bool
  | '+' :: rest => isDigits rest
  | '-' :: rest => isDigits rest
  | text => isDigits text

def places (fraction : List Char) : Nat := (fraction.filter (· != '_')).length

def isDecimal (text : List Char) : Bool :=
  match split text with
  | none => false
  | some (base, exponent) =>
    let whole := base.takeWhile (· != '.')
    let fraction := (base.dropWhile (· != '.')).drop 1
    let scale : Int := (places fraction : Int) - exponent
    isSigned (whole ++ fraction) && Bits.fitsSigned 64 scale

end Rulebook.DecimalText
