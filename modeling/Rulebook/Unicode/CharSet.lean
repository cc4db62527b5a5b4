import Rulebook.Text.Digits

/-!
# Sets of characters

A set of characters is a list of ranges in ascending order. The ranges are not of code points but
of ranks: the code points of surrogates are no characters and are left out of the count, so that
characters that follow each other always have ranks that follow each other.

* `CharSet.rank_inj`: characters have different ranks;
* `CharSet.contains_single_iff`, `CharSet.contains_union`: what a set of one character and the union
  of two sets contain.
-/

namespace Rulebook

/-! ## Ranks -/

def rank (codePoint : Nat) : Nat :=
  if codePoint < 0xD800 then codePoint else codePoint - 0x800

def codePointOf (rank : Nat) : Nat :=
  if rank < 0xD800 then rank else rank + 0x800

def lastRank : Nat := 0x10F7FF

/-- A range of ranks, both ends included. -/
abbrev RankRange := Nat × Nat

def RankRange.holds (n : Nat) (r : RankRange) : Bool := r.1 ≤ n && n ≤ r.2

/-- The characters among the code points from `first` to `last`. -/
def RankRange.ofCodePoints (first last : Nat) : RankRange :=
  (if first < 0xD800 then first else max first 0xE000 - 0x800,
    if last < 0xD800 then last else max last 0xDFFF - 0x800)

structure CharSet where
  ranges : List RankRange
  deriving DecidableEq

namespace CharSet

def contains (s : CharSet) (c : Char) : Bool := s.ranges.any (RankRange.holds (rank c.toNat))

def none : CharSet := ⟨[]⟩

def all : CharSet := ⟨[(0, lastRank)]⟩

def range (first last : Char) : CharSet := ⟨[(rank first.toNat, rank last.toNat)]⟩

def single (c : Char) : CharSet := range c c

def isEmpty (s : CharSet) : Bool := s.ranges.isEmpty

/-! ## Union -/

/-- Puts a range in front of others and joins it with those that it meets. -/
def insertRange (r : RankRange) : List RankRange → List RankRange
  | [] => [r]
  | s :: rest =>
    if s.1 ≤ r.2 + 1 ∧ r.1 ≤ s.2 + 1 then insertRange (min r.1 s.1, max r.2 s.2) rest
    else r :: s :: rest

def coalesce (ranges : List RankRange) : List RankRange := ranges.foldr insertRange []

def union (s t : CharSet) : CharSet :=
  ⟨coalesce (List.merge s.ranges t.ranges fun r r' => decide (r.1 ≤ r'.1))⟩

/-- A set from ranges in any order, some of which may be empty. -/
def ofRanges (ranges : List RankRange) : CharSet :=
  ⟨coalesce ((ranges.filter fun r => decide (r.1 ≤ r.2)).mergeSort
    fun r r' => decide (r.1 ≤ r'.1))⟩

def unions (sets : List CharSet) : CharSet := ofRanges (sets.flatMap ranges)

/-! ## Complement -/

/-- The ranks from `first` on that are in none of the ranges. -/
def gaps (first : Nat) : List RankRange → List RankRange
  | [] => if first ≤ lastRank then [(first, lastRank)] else []
  | r :: rest =>
    if first < r.1 then (first, r.1 - 1) :: gaps (r.2 + 1) rest else gaps (r.2 + 1) rest

def compl (s : CharSet) : CharSet := ⟨gaps 0 s.ranges⟩

def inter (s t : CharSet) : CharSet := (s.compl.union t.compl).compl

def diff (s t : CharSet) : CharSet := s.inter t.compl

/-- The characters in exactly one of two sets. -/
def symmDiff (s t : CharSet) : CharSet := (s.diff t).union (t.diff s)

def isAscii (s : CharSet) : Bool := s.ranges.all fun r => decide (r.2 < 128)

/-- The character of a set that has only one. -/
def single? (s : CharSet) : Option Char :=
  match s.ranges with
  | [(first, last)] => if first = last then some (Char.ofNat (codePointOf first)) else Option.none
  | _ => Option.none

/-! ## Written sets -/

/-- Reads `first`, `first-last` or, for every second code point, `first-last/2`, all in
hexadecimal. -/
def readRanges (word : String) : List RankRange :=
  let number (text : String) : Nat := (Digits.hexNumber? text.toList).getD 0
  match word.splitOn "-" with
  | [first, last] =>
    match last.splitOn "/" with
    | [last, _] =>
      let (first, last) := (number first, number last)
      (List.range ((last - first) / 2 + 1)).map fun i =>
        RankRange.ofCodePoints (first + 2 * i) (first + 2 * i)
    | _ => [RankRange.ofCodePoints (number first) (number last)]
  | _ => [RankRange.ofCodePoints (number word) (number word)]

/-- Reads ranges of code points separated by blanks and line ends. -/
def ofText (text : String) : CharSet :=
  let words := (text.splitOn "\n").flatMap fun line => line.splitOn " "
  ofRanges ((words.filter (· != "")).flatMap readRanges)

/-! ## Membership -/

theorem holds_insertRange (n : Nat) (r : RankRange) (ranges : List RankRange) :
    (insertRange r ranges).any (RankRange.holds n) =
      (r.holds n || ranges.any (RankRange.holds n)) := by
  induction ranges generalizing r with
  | nil => simp [insertRange]
  | cons s rest ih =>
    simp only [insertRange]
    split
    · rename_i h
      rw [ih, List.any_cons, ← Bool.or_assoc]
      congr 1
      rw [Bool.eq_iff_iff]
      simp only [RankRange.holds, Bool.or_eq_true, Bool.and_eq_true, decide_eq_true_eq]
      omega
    · simp

theorem holds_coalesce (n : Nat) (ranges : List RankRange) :
    (coalesce ranges).any (RankRange.holds n) = ranges.any (RankRange.holds n) := by
  induction ranges with
  | nil => rfl
  | cons r rest ih =>
    have h := holds_insertRange n r (coalesce rest)
    rw [ih] at h
    simpa [coalesce] using h

/-- Characters are never surrogates, so that their ranks tell them apart. -/
theorem rank_inj {c d : Char} (h : rank c.toNat = rank d.toNat) : c = d := by
  have hc : c.toNat < 0xD800 ∨ 0xDFFF < c.toNat ∧ c.toNat < 0x110000 := c.valid
  have hd : d.toNat < 0xD800 ∨ 0xDFFF < d.toNat ∧ d.toNat < 0x110000 := d.valid
  refine Char.toNat_inj.mp ?_
  simp only [rank] at h
  split at h <;> split at h <;> omega

theorem contains_single_iff {c d : Char} : (single c).contains d = true ↔ d = c := by
  simp only [single, range, contains, List.any_cons, List.any_nil, Bool.or_false, RankRange.holds,
    Bool.and_eq_true, decide_eq_true_eq]
  constructor
  · rintro ⟨h1, h2⟩
    exact rank_inj (Nat.le_antisymm h2 h1)
  · rintro rfl
    exact ⟨Nat.le_refl _, Nat.le_refl _⟩

theorem holds_union (n : Nat) (s t : CharSet) :
    (s.union t).ranges.any (RankRange.holds n) =
      (s.ranges.any (RankRange.holds n) || t.ranges.any (RankRange.holds n)) := by
  rw [Bool.eq_iff_iff]
  simp only [union, holds_coalesce, Bool.or_eq_true, List.any_eq_true, List.mem_merge,
    or_and_right, exists_or]

theorem contains_union (s t : CharSet) (c : Char) :
    (s.union t).contains c = (s.contains c || t.contains c) :=
  holds_union (rank c.toNat) s t

theorem holds_ofRanges (n : Nat) (ranges : List RankRange) :
    (ofRanges ranges).ranges.any (RankRange.holds n) = ranges.any (RankRange.holds n) := by
  rw [Bool.eq_iff_iff]
  simp only [ofRanges, holds_coalesce, List.any_eq_true, List.mem_mergeSort, List.mem_filter,
    decide_eq_true_eq, RankRange.holds, Bool.and_eq_true]
  grind

theorem contains_ofRanges (ranges : List RankRange) (c : Char) :
    (ofRanges ranges).contains c = ranges.any (RankRange.holds (rank c.toNat)) :=
  holds_ofRanges (rank c.toNat) ranges

theorem contains_unions (sets : List CharSet) (c : Char) :
    (unions sets).contains c = sets.any (·.contains c) := by
  rw [unions, contains_ofRanges, List.any_flatMap]
  rfl

end CharSet

end Rulebook
