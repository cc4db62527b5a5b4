import Rulebook.Number.Doubled
import Rulebook.Text.Digits

/-!
# Binary64 numbers with infinities

Settings may hold any binary64 value, infinities and NaN included, and arithmetic may lead to them.
Text is read as the nearest value, and values are written positionally, with the fewest digits that
read back.

* `negate_negate`: to negate twice changes nothing.
-/

namespace Rulebook

inductive Extended where
  | finite (x : Binary64)
  | infinite (negative : Bool)
  | nan

namespace Extended

/-! ## Text -/

/-- Positional at any size, without a point after whole numbers. -/
def layout : Decimal.Layout := ⟨-400, 400, false, false, 1⟩

def text : Extended → String
  | finite x =>
    String.ofList ((if x.negative then ['-'] else []) ++ layout.text (Decimal.shortest .up x))
  | infinite negative => if negative then "-inf" else "inf"
  | nan => "NaN"

/-- The value nearest to digits, digits after a point and an exponent. -/
def ofParts (negative : Bool) (whole fraction : List Char) (exponent : Int) : Extended :=
  match Binary64.ofDecimal negative (Digits.value (whole ++ fraction))
      (exponent - (fraction.length : Int)) with
  | some x => finite x
  | none => infinite negative

/-- An exponent that is the rest of a text; nothing stands for zero. -/
def exponent? : List Char → Option Int
  | [] => some 0
  | c :: rest =>
    let (negative, digits) := Digits.splitSign rest
    if (c = 'e' ∨ c = 'E') ∧ digits ≠ [] ∧ digits.all Char.isDigit then
      some (Digits.signed negative (Digits.value digits))
    else none

/-- The value of a decimal numeral or of a name such as `inf`, in any case. -/
def ofText (text : List Char) : Option Extended :=
  let (negative, rest) := Digits.splitSign text
  let name := rest.map Char.toLower
  if name = "inf".toList ∨ name = "infinity".toList then some (infinite negative)
  else if name = "nan".toList then some nan
  else
    let whole := rest.takeWhile Char.isDigit
    let (fraction, rest) := match rest.dropWhile Char.isDigit with
      | '.' :: rest => (rest.takeWhile Char.isDigit, rest.dropWhile Char.isDigit)
      | rest => ([], rest)
    if (whole ++ fraction).isEmpty then none
    else (exponent? rest).map (ofParts negative whole fraction)

/-! ## Rounding -/

/-- The nearest whole number, a half going away from zero; infinities and NaN have none. -/
def round : Extended → Option Int
  | finite x =>
    let n := (2 * x.magnitude + Binary64.unitsPerOne) / (2 * Binary64.unitsPerOne)
    some (if x.negative then -(n : Int) else n)
  | _ => none

/-- The nearest natural number below `limit`, NaN counting as zero. -/
def toNat (limit : Nat) : Extended → Nat
  | nan => 0
  | infinite negative => if negative then 0 else limit
  | x => min limit ((x.round.getD 0).toNat)

/-! ## Arithmetic -/

/-- The result of an operation, beyond all finite numbers with a sign if there is none. -/
def ofResult (negative : Bool) : Option Binary64 → Extended
  | some x => .finite x
  | none => .infinite negative

def isNegative : Extended → Bool
  | .finite x => x.negative
  | .infinite negative => negative
  | .nan => false

def negate : Extended → Extended
  | .finite x => .finite x.negate
  | .infinite negative => .infinite (!negative)
  | .nan => .nan

theorem negate_negate (x : Extended) : x.negate.negate = x := by
  cases x <;> simp [negate, Binary64.negate]

def add : Extended → Extended → Extended
  | .finite x, .finite y => ofResult x.negative (x.add y)
  | .infinite a, .infinite b => if a = b then .infinite a else .nan
  | .infinite a, .finite _ => .infinite a
  | .finite _, .infinite b => .infinite b
  | _, _ => .nan

def isZero : Extended → Bool
  | .finite x => x.isZero
  | _ => false

def mul (x y : Extended) : Extended :=
  let negative := x.isNegative != y.isNegative
  match x, y with
  | .nan, _ | _, .nan => .nan
  | .finite x, .finite y => ofResult negative (Binary64.mul x y)
  | x, y => if x.isZero || y.isZero then .nan else .infinite negative

/-- The quotient; the divisor is not zero. -/
def div (x y : Extended) : Extended :=
  let negative := x.isNegative != y.isNegative
  match x, y with
  | .nan, _ | _, .nan => .nan
  | .finite x, .finite y => ofResult negative (Binary64.div x y)
  | .infinite _, .finite _ => .infinite negative
  | .finite _, .infinite _ => .finite (Binary64.zero negative)
  | .infinite _, .infinite _ => .nan

end Extended

end Rulebook
