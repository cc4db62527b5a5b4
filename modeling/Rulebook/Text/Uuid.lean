/-!
# Random UUIDs

A UUID of version 4 is 36 characters: hexadecimal digits of either case, with hyphens at the
offsets 8, 13, 18 and 23, the version `4` at offset 14 and the variant at offset 19.

* `matchesShape_length`: a text has as many characters as the shape it matches.
-/

namespace Rulebook.Uuid

def isHex (c : Char) : Bool := c.isDigit || ('a' ≤ c && c ≤ 'f') || ('A' ≤ c && c ≤ 'F')

/-- What may stand at one offset. -/
inductive Slot where
  | hex
  | hyphen
  | version
  | variant
  deriving DecidableEq

def Slot.allows : Slot → Char → Bool
  | hex, c => isHex c
  | hyphen, c => c == '-'
  | version, c => c == '4'
  | variant, c => c == '8' || c == '9' || c == 'a' || c == 'b' || c == 'A' || c == 'B'

def hexes (n : Nat) : List Slot := List.replicate n .hex

def shape : List Slot :=
  hexes 8 ++ .hyphen :: hexes 4 ++ .hyphen :: .version :: hexes 3 ++
    .hyphen :: .variant :: hexes 3 ++ .hyphen :: hexes 12

def matchesShape : List Slot → List Char → Bool
  | [], [] => true
  | slot :: slots, c :: rest => slot.allows c && matchesShape slots rest
  | _, _ => false

def isUuid (text : List Char) : Bool := matchesShape shape text

theorem matchesShape_length {slots : List Slot} {text : List Char}
    (h : matchesShape slots text = true) : text.length = slots.length := by
  induction slots generalizing text with
  | nil => cases text <;> simp_all [matchesShape]
  | cons slot slots ih =>
    cases text with
    | nil => simp [matchesShape] at h
    | cons c rest =>
      simp only [matchesShape, Bool.and_eq_true] at h
      simp [ih h.2]

end Rulebook.Uuid
