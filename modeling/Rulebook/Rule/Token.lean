import Rulebook.Text.Pieces

/-!
# Rule strings

A rule string is a list of tokens separated by `|`; a token is a name, perhaps followed by `:` and
an argument. The empty string has no token.

* `chars_ofPiece`: a token is written as the piece that it was read from;
* `ofString_append`: the tokens of two strings with a bar between them;
* `ofString_join`: the tokens of a string, joined again, are the string.
-/

namespace Rulebook

structure Token where
  name : String
  arg : Option String
  deriving DecidableEq

namespace Token

/-! ## Splitting -/

/-- The text before the first colon, and the text after it if there is one. -/
def splitColon : List Char → List Char × Option (List Char)
  | [] => ([], none)
  | c :: rest =>
    if c = ':' then ([], some rest)
    else ((c :: (splitColon rest).1), (splitColon rest).2)

def ofPiece (piece : List Char) : Token :=
  ⟨String.ofList (splitColon piece).1, (splitColon piece).2.map String.ofList⟩

/-- The tokens of a rule string, in order. -/
def ofString (rules : String) : List Token :=
  if rules.isEmpty then [] else (Text.pieces '|' rules.toList).map ofPiece

/-! ## Joining -/

def chars (t : Token) : List Char :=
  match t.arg with
  | none => t.name.toList
  | some arg => t.name.toList ++ ':' :: arg.toList

/-- The rule string of some tokens. -/
def join (tokens : List Token) : String := String.ofList (Text.join '|' (tokens.map chars))

/-! ## Laws -/

theorem chars_ofPiece (piece : List Char) : (ofPiece piece).chars = piece := by
  suffices h : (splitColon piece).2.elim (splitColon piece).1
      (fun arg => (splitColon piece).1 ++ ':' :: arg) = piece by
    cases e : (splitColon piece).2 <;> simp [e] at h <;> simp [ofPiece, chars, e, h]
  induction piece with
  | nil => rfl
  | cons c rest ih =>
    by_cases h : c = ':'
    · simp [splitColon, h]
    · cases e : (splitColon rest).2 <;> simp [e] at ih <;> simp [splitColon, h, e, ih]

/-- Two rule strings with a bar between them have the tokens of both. -/
theorem ofString_append {a b : String} (ha : a ≠ "") (hb : b ≠ "") :
    ofString (a ++ "|" ++ b) = ofString a ++ ofString b := by
  have hab : a ++ "|" ++ b ≠ "" := by simp
  simp [ofString, ha, hb, hab, Text.pieces_append]

theorem ofString_join (rules : String) : join (ofString rules) = rules := by
  by_cases h : rules = ""
  · subst h; rfl
  · have he : rules.isEmpty = false := by simpa using h
    simp [ofString, he, join, Function.comp_def, chars_ofPiece,
      Text.join_pieces]

end Token

end Rulebook
