import Rulebook.Unicode.Property

/-!
# Hidden characters

The characters that text for readers does not show as they are: controls, formats, private and
unassigned code points, separators other than the blank, marks that extend what is before them,
and characters that are not shown where they are not supported.
-/

namespace Rulebook.Unicode

def hidden : CharSet :=
  (CharSet.unions [assigned.compl, category "C", category "Z", graphemeExtend,
    defaultIgnorable]).diff (.single ' ')

def isHidden (c : Char) : Bool := hidden.contains c

end Rulebook.Unicode
