import Rulebook.Store.Expression.Arithmetic

/-!
# Wildcards

A text is compared with a pattern of characters, of which some stand for others. One sort of pattern
has `%` and `_` and does not regard the case of ASCII letters; the other one has `*`, `?` and sets
in brackets.

* `matches_anything`: what stands for any characters matches every text;
* `matches_exactly`: characters match themselves.
-/

namespace Rulebook

namespace Wildcard

inductive Piece where
  | anything
  | single
  | exact (c : Char)
  | oneOf (negated : Bool) (ranges : List (Char × Char))

/-! ## Patterns -/

/-- The pieces of a pattern with `%` and `_`; what follows the escape character is itself. -/
def ofLike (escape : Option Char) : List Char → List Piece
  | [] => []
  | [c] => if some c = escape then [] else [ofChar c]
  | c :: d :: rest =>
    if some c = escape then .exact d :: ofLike escape rest
    else ofChar c :: ofLike escape (d :: rest)
where
  ofChar (c : Char) : Piece :=
    if c = '%' then .anything else if c = '_' then .single else .exact c

/-- The ranges of a set, up to the bracket that closes it, and what follows. -/
def readRanges : List Char → Option (List (Char × Char) × List Char)
  | [] => none
  | [c] => if c = ']' then some ([], []) else none
  | [c, d] => if c = ']' then some ([], [d]) else if d = ']' then some ([(c, c)], []) else none
  | c :: d :: e :: rest =>
    if c = ']' then some ([], d :: e :: rest)
    else if d = '-' ∧ e ≠ ']' then (readRanges rest).map fun (rs, rest) => ((c, e) :: rs, rest)
    else (readRanges (d :: e :: rest)).map fun (rs, rest) => ((c, c) :: rs, rest)

/-- A set behind its opening bracket. A closing bracket in front is part of it. -/
def readSet (text : List Char) : Option (Piece × List Char) :=
  let (negated, text) := match text with
    | '^' :: rest => (true, rest)
    | rest => (false, rest)
  match text with
  | ']' :: rest =>
    (readRanges rest).map fun (rs, rest) => (.oneOf negated ((']', ']') :: rs), rest)
  | rest => (readRanges rest).map fun (rs, rest) => (.oneOf negated rs, rest)

/-- The pieces of a pattern with `*`, `?` and sets. A set that is not closed matches nothing. -/
def ofGlob : Nat → List Char → List Piece
  | 0, _ | _, [] => []
  | fuel + 1, c :: rest =>
    if c = '*' then .anything :: ofGlob fuel rest
    else if c = '?' then .single :: ofGlob fuel rest
    else if c = '[' then
      match readSet rest with
      | some (piece, rest) => piece :: ofGlob fuel rest
      | none => [.oneOf false []]
    else .exact c :: ofGlob fuel rest

/-! ## Matching -/

/-- What is left of a text when characters are dropped from its front, from all of it to nothing. -/
def suffixes : List Char → List (List Char)
  | [] => [[]]
  | c :: rest => (c :: rest) :: suffixes rest

def Piece.admits (ignoresCase : Bool) (c : Char) : Piece → Bool
  | anything | single => true
  | exact d => if ignoresCase then c.toLower == d.toLower else c == d
  | oneOf negated ranges => (ranges.any fun r => r.1 ≤ c && c ≤ r.2) != negated

/-- Whether pieces match a whole text. -/
def run (ignoresCase : Bool) : List Piece → List Char → Bool
  | [], text => text.isEmpty
  | .anything :: pieces, text => (suffixes text).any (run ignoresCase pieces)
  | piece :: pieces, c :: text => piece.admits ignoresCase c && run ignoresCase pieces text
  | _ :: _, [] => false

theorem mem_suffixes_nil (text : List Char) : [] ∈ suffixes text := by
  induction text with
  | nil => simp [suffixes]
  | cons c rest ih => simp [suffixes, ih]

theorem matches_anything (ignoresCase : Bool) (text : List Char) :
    run ignoresCase [.anything] text = true := by
  rw [run, List.any_eq_true]
  exact ⟨[], mem_suffixes_nil text, rfl⟩

theorem matches_exactly (ignoresCase : Bool) (text : List Char) :
    run ignoresCase (text.map .exact) text = true := by
  induction text with
  | nil => rfl
  | cons c rest ih => simp [run, Piece.admits, ih]

end Wildcard

end Rulebook
