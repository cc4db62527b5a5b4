import Rulebook.Settings.Setting
import Rulebook.Text.Digits

/-!
# Numbers

Whole numbers are decimal with a sign, or hexadecimal, octal or binary without one; floating point
numbers have a fraction, an exponent or both, or are `inf` or `nan`. Single underscores may stand
between digits. Numbers out of range are none.

* `plainDigits_of_all`: digits without underscores stay as they are.
-/

namespace Rulebook.Toml

/-- Digits with single underscores between them, without the underscores. -/
def plainDigits (isDigit : Char → Bool) : List Char → Option (List Char)
  | [] => none
  | [c] => if isDigit c then some [c] else none
  | c :: '_' :: rest =>
    if isDigit c then (plainDigits isDigit rest).map (c :: ·) else none
  | c :: rest => if isDigit c then (plainDigits isDigit rest).map (c :: ·) else none

theorem plainDigits_of_all {isDigit : Char → Bool} (h_ : isDigit '_' = false) {text : List Char}
    (hne : text ≠ []) (h : text.all isDigit = true) : plainDigits isDigit text = some text := by
  fun_induction plainDigits isDigit text with
  | case1 => exact absurd rfl hne
  | case2 c hc => rfl
  | case3 c hc => simp_all
  | case4 c rest hc ih => simp_all
  | case5 c rest hc => simp_all
  | case6 c rest hr h2 hc ih =>
    simp only [List.all_cons, Bool.and_eq_true] at h
    cases rest with
    | nil => simp_all
    | cons d rest => simp_all
  | case7 c rest hr h2 hc => simp_all

def isBinary (c : Char) : Bool := c == '0' || c == '1'

def isOctal (c : Char) : Bool := '0' ≤ c && c ≤ '7'

def isHex (c : Char) : Bool := (Digits.hexValue? c).isSome

def inRadix (radix : Nat) (digits : List Char) : Nat :=
  digits.foldl (fun n c => radix * n + (Digits.hexValue? c).getD 0) 0

/-- Digits without a leading zero. -/
def decimalDigits (text : List Char) : Option (List Char) :=
  match plainDigits Char.isDigit text with
  | some ('0' :: _ :: _) => none
  | digits => digits

def wholeInRange (i : Int) : Option Setting :=
  if Bits.fitsSigned 64 i then some (.whole i) else none

def isExponentMark (c : Char) : Bool := c == 'e' || c == 'E'

def fractionOf : List Char → Option (List Char)
  | [] => some []
  | _ :: digits => plainDigits Char.isDigit digits

/-- The exponent behind its mark, if there is one. -/
def exponentOf : List Char → Option Int
  | [] => some 0
  | _ :: rest =>
    let (negative, digits) := Digits.splitSign rest
    (plainDigits Char.isDigit digits).map fun ds => Digits.signed negative (Digits.value ds)

def readFloat (negative : Bool) (text : List Char) : Option Setting := do
  let base := text.takeWhile fun c => !isExponentMark c
  let whole ← decimalDigits (base.takeWhile (· != '.'))
  let fraction ← fractionOf (base.dropWhile (· != '.'))
  let exponent ← exponentOf (text.dropWhile fun c => !isExponentMark c)
  match Extended.ofParts negative whole fraction exponent with
  | .finite x => some (.float (.finite x))
  | _ => none

/-- The number that a word is, if it is one. -/
def numberOf (text : List Char) : Option Setting :=
  match text with
  | '0' :: 'x' :: rest => (plainDigits isHex rest).bind fun ds => wholeInRange (inRadix 16 ds)
  | '0' :: 'o' :: rest => (plainDigits isOctal rest).bind fun ds => wholeInRange (inRadix 8 ds)
  | '0' :: 'b' :: rest => (plainDigits isBinary rest).bind fun ds => wholeInRange (inRadix 2 ds)
  | text =>
    let (negative, rest) := Digits.splitSign text
    if rest = "inf".toList then some (.float (.infinite negative))
    else if rest = "nan".toList then some (.float .nan)
    else match decimalDigits rest with
      | some digits => wholeInRange (Digits.signed negative (Digits.value digits))
      | none => readFloat negative rest

end Rulebook.Toml
