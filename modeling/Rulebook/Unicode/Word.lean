import Rulebook.Unicode.Property

/-!
# Characters of words

Decimal digits and the characters that words are made of, as patterns know them: those of version
16 of the standard.
-/

namespace Rulebook.Unicode

def digit : CharSet := (category "Nd").diff recent

/-- Letters, marks, digits, connecting punctuation and join controls. -/
def word : CharSet :=
  (CharSet.unions
    [alphabetic, category "M", category "Nd", category "Pc", joinControl]).diff recent

def isWord (c : Char) : Bool := word.contains c

end Rulebook.Unicode
