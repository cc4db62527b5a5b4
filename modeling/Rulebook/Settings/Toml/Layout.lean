/-!
# Blanks, comments and lines

Spaces and tabs are blank, a comment reaches from `#` to the end of its line, and a line ends with a
line feed, before which a carriage return may stand. Comments hold no control characters but tabs.

* `length_skipLines`: skipping never makes a text longer.
-/

namespace Rulebook.Toml

/-- A reader takes something from the front of a text. -/
abbrev Reader (α : Type) := List Char → Option (α × List Char)

def isBlank (c : Char) : Bool := c = ' ' || c = '\t'

def isControl (c : Char) : Bool := (c.toNat < 32 && c != '\t') || c.toNat == 127

def skipBlanks (text : List Char) : List Char := text.dropWhile isBlank

/-- What follows the end of a line, if a text starts with one. -/
def lineEnd? : List Char → Option (List Char)
  | '\n' :: rest => some rest
  | '\r' :: '\n' :: rest => some rest
  | _ => none

/-- What follows a line that holds nothing but blanks and a comment. -/
def endLine (inComment : Bool) : List Char → Option (List Char)
  | [] => some []
  | '\n' :: rest => some rest
  | '\r' :: '\n' :: rest => some rest
  | c :: rest =>
    if inComment then if isControl c then none else endLine true rest
    else if isBlank c then endLine false rest
    else if c = '#' then endLine true rest
    else none

/-- Drops blanks, line ends and comments. A character that no comment may hold is not dropped. -/
def skipLines (inComment : Bool) : List Char → List Char
  | [] => []
  | '\n' :: rest => skipLines false rest
  | '\r' :: '\n' :: rest => skipLines false rest
  | c :: rest =>
    if inComment then if isControl c then c :: rest else skipLines true rest
    else if isBlank c then skipLines false rest
    else if c = '#' then skipLines true rest
    else c :: rest

/-- Drops blanks and line ends. -/
def skipSpace : List Char → List Char
  | [] => []
  | '\r' :: '\n' :: rest => skipSpace rest
  | c :: rest => if isBlank c || c == '\n' then skipSpace rest else c :: rest

theorem length_skipLines (inComment : Bool) (text : List Char) :
    (skipLines inComment text).length ≤ text.length := by
  fun_induction skipLines inComment text <;> simp_all <;> omega

theorem length_skipSpace (text : List Char) : (skipSpace text).length ≤ text.length := by
  fun_induction skipSpace text <;> simp_all <;> omega

end Rulebook.Toml
