/-!
# Pieces of a text

A text is cut at every occurrence of a separator; pieces may be empty.

* `pieces_ne_nil`: there is one piece at least;
* `length_pieces`: there is one piece more than there are separators;
* `pieces_append`: a text with a separator in it has the pieces of both its parts;
* `join_pieces`: the pieces, joined again, are the text.
-/

namespace Rulebook.Text

/-- The pieces of a text between its separators. -/
def pieces (separator : Char) : List Char → List (List Char)
  | [] => [[]]
  | c :: rest =>
    if c = separator then [] :: pieces separator rest
    else match pieces separator rest with
      | [] => [[c]]
      | piece :: more => (c :: piece) :: more

def join (separator : Char) : List (List Char) → List Char
  | [] => []
  | [piece] => piece
  | piece :: more => piece ++ separator :: join separator more

theorem pieces_ne_nil (separator : Char) (text : List Char) : pieces separator text ≠ [] := by
  cases text with
  | nil => simp [pieces]
  | cons c rest =>
    by_cases h : c = separator
    · simp [pieces, h]
    · simp only [pieces, h, ↓reduceIte]
      split <;> simp

theorem length_pieces (separator : Char) (text : List Char) :
    (pieces separator text).length = text.count separator + 1 := by
  induction text with
  | nil => rfl
  | cons c rest ih =>
    by_cases h : c = separator
    · simp [pieces, h, ih]
    · simp only [pieces, h, ↓reduceIte]
      split
      · next e => exact absurd e (pieces_ne_nil separator rest)
      · next piece more e => simp [e] at ih; simp [h, ih]

theorem pieces_append (separator : Char) (xs ys : List Char) :
    pieces separator (xs ++ separator :: ys) = pieces separator xs ++ pieces separator ys := by
  induction xs with
  | nil => simp [pieces]
  | cons c xs ih =>
    by_cases h : c = separator
    · simp [pieces, h, ih]
    · simp only [List.cons_append, pieces, h, ↓reduceIte, ih]
      cases e : pieces separator xs with
      | nil => exact absurd e (pieces_ne_nil separator xs)
      | cons piece more => rfl

theorem join_pieces (separator : Char) (text : List Char) :
    join separator (pieces separator text) = text := by
  induction text with
  | nil => rfl
  | cons c rest ih =>
    by_cases h : c = separator
    · subst h
      simp only [pieces, ↓reduceIte]
      cases e : pieces c rest with
      | nil => exact absurd e (pieces_ne_nil c rest)
      | cons piece more => rw [e] at ih; simp [join, ih]
    · simp only [pieces, h, ↓reduceIte]
      cases e : pieces separator rest with
      | nil => exact absurd e (pieces_ne_nil separator rest)
      | cons piece more =>
        rw [e] at ih
        cases more with
        | nil => simpa [join] using ih
        | cons next more => simpa [join] using ih

end Rulebook.Text
