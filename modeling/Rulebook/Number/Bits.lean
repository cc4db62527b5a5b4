/-!
# Numbers of a fixed count of bits

Which whole numbers can be written with so many bits, with a sign or without one.

* `fitsSigned_iff`, `fitsUnsigned_iff`: the ranges with and without a sign;
* `fitsSigned_64_iff`: the signed range of 64 bits in digits;
* `fitsUnsigned_of_fitsSigned`: a number with a sign that is not negative needs no sign.
-/

namespace Rulebook.Bits

/-- How many numbers there are of that many bits. -/
def count (bits : Nat) : Nat := Nat.pow 2 bits

theorem count_succ (bits : Nat) : count (bits + 1) = 2 * count bits := by
  change Nat.pow 2 bits * 2 = 2 * Nat.pow 2 bits
  rw [Nat.mul_comm]

def fitsUnsigned (bits : Nat) (i : Int) : Bool := 0 ≤ i && i < (count bits : Int)

/-- Half of the numbers with a sign are negative. -/
def fitsSigned (bits : Nat) (i : Int) : Bool :=
  -(count (bits - 1) : Int) ≤ i && i < (count (bits - 1) : Int)

theorem fitsUnsigned_iff (bits : Nat) (i : Int) :
    fitsUnsigned bits i = true ↔ 0 ≤ i ∧ i < (count bits : Int) := by
  simp [fitsUnsigned]

theorem fitsSigned_iff (bits : Nat) (i : Int) :
    fitsSigned bits i = true ↔
      -(count (bits - 1) : Int) ≤ i ∧ i < (count (bits - 1) : Int) := by
  simp [fitsSigned]

theorem fitsSigned_64_iff (i : Int) :
    fitsSigned 64 i = true ↔ -9223372036854775808 ≤ i ∧ i < 9223372036854775808 := by
  have hcount : (count (64 - 1) : Int) = 9223372036854775808 := rfl
  rw [fitsSigned_iff, hcount]

theorem fitsUnsigned_of_fitsSigned {bits : Nat} {i : Int} (h : fitsSigned (bits + 1) i = true)
    (h0 : 0 ≤ i) : fitsUnsigned (bits + 1) i = true := by
  rw [fitsSigned_iff, Nat.add_sub_cancel] at h
  rw [fitsUnsigned_iff, count_succ]
  omega

end Rulebook.Bits
