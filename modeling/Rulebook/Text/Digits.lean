/-!
# Digits

The values of ASCII digits, decimal and hexadecimal, and of numbers written with them.

* `value_append_singleton`: a further digit counts ten times the number before it;
* `value_replicate_zero`: leading zeros do not count.
-/

namespace Rulebook.Digits

def digitValue (c : Char) : Nat := c.toNat - '0'.toNat

/-- The number that decimal digits are written for. -/
def value (digits : List Char) : Nat := digits.foldl (fun n c => 10 * n + digitValue c) 0

theorem value_append_singleton (digits : List Char) (c : Char) :
    value (digits ++ [c]) = 10 * value digits + digitValue c := by
  simp [value]

theorem value_replicate_zero (n : Nat) (digits : List Char) :
    value (List.replicate n '0' ++ digits) = value digits := by
  induction n with
  | zero => rfl
  | succ n ih => simpa [value, List.replicate_succ, digitValue] using ih

/-- A sign, if there is one, and what follows it; only minus is a negative one. -/
def splitSign : List Char → Bool × List Char
  | '-' :: rest => (true, rest)
  | '+' :: rest => (false, rest)
  | rest => (false, rest)

def signed (negative : Bool) (n : Nat) : Int := if negative then -(n : Int) else n

/-! ## Hexadecimal digits -/

def hexValue? (c : Char) : Option Nat :=
  if c.isDigit then some (digitValue c)
  else if 'a' ≤ c ∧ c ≤ 'f' then some (c.toNat - 'a'.toNat + 10)
  else if 'A' ≤ c ∧ c ≤ 'F' then some (c.toNat - 'A'.toNat + 10)
  else none

/-- The number that hexadecimal digits are written for, if all of them are digits. -/
def hexNumber? (digits : List Char) : Option Nat :=
  (digits.mapM hexValue?).map fun values => values.foldl (fun n d => 16 * n + d) 0

/-- The character of that code point; surrogates are none. -/
def charOf? (n : Nat) : Option Char :=
  if n < 0xD800 ∨ (0xE000 ≤ n ∧ n < 0x110000) then some (Char.ofNat n) else none

end Rulebook.Digits
