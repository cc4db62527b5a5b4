import Rulebook.Number.Bits
import Rulebook.Text.Digits

/-!
# Lengths

A length is written as ASCII digits, perhaps with a plus sign in front, and fits 64 bits.

* `dropSign_of_digits`: digits have no sign to drop;
* `ofText_eq_some_iff`: which texts are lengths, and of which value.
-/

namespace Rulebook.Length

def limit : Nat := Bits.count 64

def dropSign : List Char → List Char
  | '+' :: rest => rest
  | text => text

theorem dropSign_of_digits {digits : List Char} (h : ∀ c ∈ digits, c.isDigit = true) :
    dropSign digits = digits := by
  unfold dropSign
  split
  · exact absurd (h '+' (List.mem_cons_self ..)) (by decide)
  · rfl

def ofText (text : List Char) : Option Nat :=
  let digits := dropSign text
  if digits ≠ [] ∧ digits.all Char.isDigit ∧ Digits.value digits < limit then
    some (Digits.value digits)
  else none

theorem ofText_eq_some_iff (text : List Char) (n : Nat) :
    ofText text = some n ↔
      dropSign text ≠ [] ∧ (dropSign text).all Char.isDigit = true ∧
        Digits.value (dropSign text) = n ∧ n < limit := by
  simp only [ofText]
  split
  · next h =>
    simp only [Option.some.injEq]
    exact ⟨fun e => ⟨h.1, h.2.1, e, e ▸ h.2.2⟩, fun e => e.2.2.1⟩
  · next h =>
    simp only [reduceCtorEq, false_iff]
    rintro ⟨h1, h2, h3, h4⟩
    exact h ⟨h1, h2, h3 ▸ h4⟩

end Rulebook.Length
