import Rulebook.Unicode.CharSet

/-!
# Ranges of characters in UTF-8

The characters of a range, written in UTF-8, fall into rectangles: sequences of ranges of bytes,
each byte of which can be chosen without regard to the others.
-/

namespace Rulebook.Unicode

/-- A range of bytes, both ends included. -/
abbrev ByteRange := Nat × Nat

/-- The numbers of so many digits in base 64 that are written with one range for each digit, for
the numbers from `first` to `last`, in ascending order. -/
def rectangles : Nat → Nat → Nat → List (List ByteRange)
  | 0, first, last => [[(first, last)]]
  | digits + 1, first, last =>
    let unit := 1 <<< (6 * (digits + 1))
    let (low, high) := (first / unit, last / unit)
    let under (lead : ByteRange) (first last : Nat) : List (List ByteRange) :=
      (rectangles digits first last).map (lead :: ·)
    if low = high then under (low, low) (first % unit) (last % unit)
    else
      let startsWhole := first % unit = 0
      let stopsWhole := last % unit = unit - 1
      let from_ := if startsWhole then low else low + 1
      let upTo := if stopsWhole then high + 1 else high
      (if startsWhole then [] else under (low, low) (first % unit) (unit - 1)) ++
        (if from_ < upTo then under (from_, upTo - 1) 0 (unit - 1) else []) ++
        (if stopsWhole then [] else under (high, high) 0 (last % unit))

/-- The bytes of digits in base 64: the first is marked with the length, the others as
continuations. -/
def mark (lead : Nat) : List ByteRange → List ByteRange
  | [] => []
  | r :: rest => (lead + r.1, lead + r.2) :: rest.map fun r => (0x80 + r.1, 0x80 + r.2)

/-- The code points of one length in UTF-8 without the surrogates: the number of bytes behind the
first, its mark, and the code points. -/
def lengthClasses : List (Nat × Nat × Nat × Nat) :=
  [(0, 0, 0, 0x7F), (1, 0xC0, 0x80, 0x7FF), (2, 0xE0, 0x800, 0xD7FF), (2, 0xE0, 0xE000, 0xFFFF),
    (3, 0xF0, 0x10000, 0x10FFFF)]

/-- The byte sequences of the code points from `first` to `last`. -/
def byteSequences (first last : Nat) : List (List ByteRange) :=
  lengthClasses.flatMap fun (digits, lead, low, high) =>
    if max first low ≤ min last high then
      (rectangles digits (max first low) (min last high)).map (mark lead)
    else []

/-- The byte sequences of the characters of a set, in ascending order. -/
def utf8Sequences (s : CharSet) : List (List ByteRange) :=
  s.ranges.flatMap fun r => byteSequences (codePointOf r.1) (codePointOf r.2)

end Rulebook.Unicode
