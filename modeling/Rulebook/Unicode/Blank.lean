import Rulebook.Unicode.CharSet

/-!
# White space

The characters of the property `White_Space`: blanks, tabs, line ends and the spaces of other
scripts.
-/

namespace Rulebook.Unicode

/-- The property `White_Space`; all its characters are in front of the surrogates, so that their
ranks are their code points. -/
def blank : CharSet := ⟨[
  (0x9, 0xD), (0x20, 0x20), (0x85, 0x85), (0xA0, 0xA0), (0x1680, 0x1680), (0x2000, 0x200A),
  (0x2028, 0x2029), (0x202F, 0x202F), (0x205F, 0x205F), (0x3000, 0x3000)]⟩

def isBlank (c : Char) : Bool := blank.contains c

end Rulebook.Unicode
