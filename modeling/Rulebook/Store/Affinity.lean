import Rulebook.Number.Doubled
import Rulebook.Store.Cell
import Rulebook.Text.Digits

/-!
# Affinities

The declared type of a column gives it an affinity, which converts values when they are stored, and
values that are compared with those stored.

* `compare_integer_of_ne_text`: whole numbers are compared as they are unless texts are stored.
-/

namespace Rulebook

/-! ## Numbers as text -/

namespace NumberText

/-- Fifteen significant digits, positional from `0.0001` up to fifteen digits. -/
def realLayout : Decimal.Layout := ⟨-4, 14, true, true, 2⟩

def realDigits : Nat := 15

def ofReal (x : Binary64) : String :=
  let d := if x.isZero then ⟨0, 0⟩ else Doubled.rounded realDigits (Doubled.leadingDigits x)
  String.ofList ((if x.negative && !x.isZero then ['-'] else []) ++ realLayout.text d)

end NumberText

/-- A number with its parts: digits before and after a point, and an exponent. -/
structure NumberText where
  negative : Bool
  whole : List Char
  fraction : Option (List Char)
  exponent : Option Int

namespace NumberText

/-- Characters that may stand around a number. -/
def isSpace (c : Char) : Bool := c = ' ' || ('\t' ≤ c && c ≤ '\r')

/-- An exponent at the front of a text; without digits there is none. -/
def readExponent : List Char → Option Int × List Char
  | c :: rest =>
    let (negative, digits) := Digits.splitSign rest
    if (c = 'e' ∨ c = 'E') ∧ (digits.head?.map Char.isDigit).getD false then
      (some (Digits.signed negative (Digits.value (digits.takeWhile Char.isDigit))),
        digits.dropWhile Char.isDigit)
    else (none, c :: rest)
  | [] => (none, [])

/-- The number at the front of a text, zero if there is none, and what follows it. -/
def front (text : List Char) : NumberText × List Char :=
  let (negative, text) := Digits.splitSign (text.dropWhile isSpace)
  let whole := text.takeWhile Char.isDigit
  let text := text.dropWhile Char.isDigit
  let (fraction, text) := match text with
    | '.' :: rest => (some (rest.takeWhile Char.isDigit), rest.dropWhile Char.isDigit)
    | rest => (none, rest)
  if (whole ++ fraction.getD []).isEmpty then (⟨negative, [], none, none⟩, text)
  else
    let (exponent, text) := readExponent text
    (⟨negative, whole, fraction, exponent⟩, text)

/-- Reads a text that is wholly a number, with spaces around it. -/
def read? (text : List Char) : Option NumberText :=
  let (n, rest) := front text
  if (n.whole ++ n.fraction.getD []).isEmpty ∨ !rest.all isSpace then none else some n

/-- Digits are collected while the number that they make is below this. -/
def collectLimit : Nat := (Bits.count 64 - 1 - 9) / 10

/-- Collects digits behind a number, and says how many of them were left out. -/
def collect : Nat → List Char → Nat × Nat
  | n, [] => (n, 0)
  | n, c :: rest =>
    if n < collectLimit then collect (10 * n + Digits.digitValue c) rest
    else (n, rest.length + 1)

/-- The real number, none if it is out of range. -/
def toReal? (n : NumberText) : Option Binary64 :=
  let fraction := n.fraction.getD []
  let (digits, left) := collect 0 n.whole
  let (digits, leftOfFraction) := collect digits fraction
  let places : Nat := fraction.length - leftOfFraction
  let exponent : Int := n.exponent.getD 0 + (left : Int) - (places : Int)
  (Doubled.ofDigits digits exponent).map fun x => if n.negative then x.negate else x

/-- The whole number, if the text has neither point nor exponent and the number fits 64 bits. -/
def toWhole? (n : NumberText) : Option Int :=
  let value := Digits.signed n.negative (Digits.value n.whole)
  if n.fraction.isNone && n.exponent.isNone && Bits.fitsSigned 64 value then some value else none

end NumberText

namespace Cell

/-- A real number as a whole one, if it has no fraction and is strictly between the
ends of the signed 64-bit range. -/
def ofWholeReal (x : Binary64) : Cell :=
  let i := x.truncate
  if x.isWhole && Bits.fitsSigned 64 (i - 1) && Bits.fitsSigned 64 (i + 1) then integer i
  else real x

/-- A number as it is written, a real one as it is. -/
def ofNumeral (n : NumberText) : Cell :=
  match n.toWhole? with
  | some i => integer i
  | none =>
    match n.toReal? with
    | some x => real x
    | none => infinite n.negative

end Cell

/-! ## Affinities -/

inductive Affinity where
  | integer
  | text
  | none
  | real
  | numeric
  deriving DecidableEq

/-- Whether a word occurs in a text. -/
def occursIn (word : List Char) : List Char → Bool
  | [] => word.isEmpty
  | c :: rest => word.isPrefixOf (c :: rest) || occursIn word rest

namespace Affinity

/-- The affinity of a declared type: the first rule that applies decides. -/
def ofDeclared (declared : List Char) : Affinity :=
  let type := declared.map Char.toLower
  let has (word : String) : Bool := occursIn word.toList type
  if has "int" then integer
  else if has "char" || has "clob" || has "text" then text
  else if has "blob" || type.isEmpty then none
  else if has "real" || has "floa" || has "doub" then real
  else numeric

def toInteger : Cell → Cell
  | .real x => .ofWholeReal x
  | c => c

/-- A text that is wholly a number becomes that number. -/
def toNumber : Cell → Cell
  | .text s =>
    match NumberText.read? s.toList with
    | some n => toInteger (.ofNumeral n)
    | Option.none => .text s
  | c => c

/-- A number becomes its text. -/
def toText : Cell → Cell
  | .integer i => .text (toString i)
  | .real x => .text (NumberText.ofReal x)
  | .infinite negative => .text (if negative then "-Inf" else "Inf")
  | c => c

/-- Zero is stored without a sign. -/
def toReal : Cell → Cell
  | .integer i => .real (Binary64.ofInt i)
  | .real x => .real (if x.isZero then Binary64.zero false else x)
  | c => c

/-- The conversion of a value that is stored. -/
def store : Affinity → Cell → Cell
  | integer, c => toInteger (toNumber c)
  | numeric, c => toInteger (toNumber c)
  | real, c => toReal (toNumber c)
  | text, c => toText c
  | none, c => c

/-- The conversion of a value that is compared with those stored. -/
def compare : Affinity → Cell → Cell
  | integer, c => toNumber c
  | numeric, c => toNumber c
  | real, c => toNumber c
  | text, c => toText c
  | none, c => c

theorem compare_integer_of_ne_text {a : Affinity} (h : a ≠ text) (i : Int) :
    a.compare (.integer i) = .integer i := by
  cases a <;> first | rfl | exact absurd rfl h

end Affinity

end Rulebook
