import Rulebook.Number.Extended
import Rulebook.Store.Affinity

/-!
# Arithmetic on cells

Whole numbers of 64 bits are added, subtracted and multiplied exactly; where they do not fit, and
where one of the two is a real number, so is the result. A text counts as the number at its front,
and null makes everything null.

* `arithmetic_null`: null makes everything null;
* `truth_integer`: a whole number is true unless it is zero.
-/

namespace Rulebook

namespace Cell

/-! ## Conversions -/

def ofBytes (bytes : List Nat) : String :=
  (String.fromUTF8? ⟨(bytes.map Nat.toUInt8).toArray⟩).getD ""

def toBytes (s : String) : List Nat := s.toUTF8.toList.map UInt8.toNat

/-- The text that a cell is written as, empty for null. -/
def display : Cell → String
  | blob bytes => ofBytes bytes
  | c =>
    match Affinity.toText c with
    | text s => s
    | _ => ""

/-- The number that a cell counts as. -/
def number : Cell → Cell
  | text s => ofNumeral (NumberText.front s.toList).1
  | blob bytes => ofNumeral (NumberText.front (ofBytes bytes).toList).1
  | c => c

def toExtended : Cell → Extended
  | integer i => .finite (Binary64.ofInt i)
  | real x => .finite x
  | infinite negative => .infinite negative
  | _ => .finite (Binary64.zero false)

def ofExtended : Extended → Cell
  | .finite x => real x
  | .infinite negative => infinite negative
  | .nan => null

/-- The whole number in range that is nearest to zero from a number. -/
def whole (c : Cell) : Int :=
  let least : Int := -(Bits.count 63 : Int)
  let greatest : Int := Bits.count 63 - 1
  match c.number with
  | integer i => i
  | real x => max least (min greatest x.truncate)
  | infinite negative => if negative then least else greatest
  | _ => 0

def isNull : Cell → Bool
  | null => true
  | _ => false

def ofBool (b : Bool) : Cell := integer (if b then 1 else 0)

/-- Whether a cell counts as true; null counts as neither. -/
def truth (c : Cell) : Option Bool :=
  match c.number with
  | null => none
  | integer i => some (i != 0)
  | x => some !x.toExtended.isZero

theorem truth_integer (i : Int) : (integer i).truth = some (i != 0) := rfl

/-- The other way round: neither is null. -/
def ofTruth : Option Bool → Cell
  | some b => ofBool b
  | none => null

/-! ## Arithmetic -/

/-- Combines two numbers, whole ones if both are whole and the result fits. -/
def arithmetic (onWhole : Int → Int → Int) (onReal : Extended → Extended → Extended)
    (a b : Cell) : Cell :=
  match a.number, b.number with
  | null, _ | _, null => null
  | integer i, integer j =>
    if Bits.fitsSigned 64 (onWhole i j) then integer (onWhole i j)
    else ofExtended (onReal (integer i).toExtended (integer j).toExtended)
  | x, y => ofExtended (onReal x.toExtended y.toExtended)

theorem arithmetic_null (onWhole : Int → Int → Int) (onReal : Extended → Extended → Extended)
    (b : Cell) : arithmetic onWhole onReal null b = null := rfl

def add : Cell → Cell → Cell := arithmetic (· + ·) Extended.add

def subtract : Cell → Cell → Cell := arithmetic (· - ·) fun x y => x.add y.negate

def multiply : Cell → Cell → Cell := arithmetic (· * ·) Extended.mul

/-- Whole numbers are divided without a fraction; nothing is divided by zero. -/
def divide (a b : Cell) : Cell :=
  if b.number.toExtended.isZero then null else arithmetic Int.tdiv Extended.div a b

/-- The remainder of whole parts. -/
def remainder (a b : Cell) : Cell :=
  if a.isNull || b.isNull || b.whole == 0 then null
  else
    let r := Int.tmod a.whole b.whole
    match a.number, b.number with
    | integer _, integer _ => integer r
    | _, _ => real (Binary64.ofInt r)

/-- What a number lacks to zero. -/
def negate (c : Cell) : Cell := subtract (integer 0) c

/-! ## Bits -/

/-- The number without a sign that has the same 64 bits. -/
def pattern (i : Int) : Nat := (i % (Bits.count 64 : Int)).toNat

def ofPattern (n : Nat) : Cell :=
  let n := n % Bits.count 64
  integer (if n < Bits.count 63 then n else (n : Int) - Bits.count 64)

/-- Combines the bits of two numbers. -/
def onBits (f : Nat → Nat → Nat) (a b : Cell) : Cell :=
  if a.isNull || b.isNull then null else ofPattern (f (pattern a.whole) (pattern b.whole))

def invert (c : Cell) : Cell := if c.isNull then null else integer (-c.whole - 1)

/-- Shifts to the left; to the right if the places are negative, where the sign stays. -/
def shift (i places : Int) : Cell :=
  if 0 ≤ places then if 64 ≤ places then integer 0 else ofPattern (pattern i <<< places.toNat)
  else integer (i / (Nat.pow 2 (min 64 (-places).toNat) : Nat))

def shiftLeft (a b : Cell) : Cell := if a.isNull || b.isNull then null else shift a.whole b.whole

def shiftRight (a b : Cell) : Cell :=
  if a.isNull || b.isNull then null else shift a.whole (-b.whole)

end Cell

end Rulebook
