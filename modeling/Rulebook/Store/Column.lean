import Rulebook.Store.Expression.Basic

/-!
# Columns

A column says how values are converted when they are stored or looked up in it, when they are equal,
and whether it refuses null.

* `sameName_refl`, `sameName_comm`: names are compared without regard to the case of ASCII letters.
-/

namespace Rulebook

structure Column where
  name : String
  affinity : Affinity
  collation : Collation
  /-- Whether the type is that of whole numbers. -/
  isWholeNumber : Bool
  /-- Whether the column is another name of the row number. -/
  holdsRowNumber : Bool
  /-- Whether null is refused. -/
  isRequired : Bool
  /-- Whether row numbers of deleted rows are never given again. -/
  isCounted : Bool
  /-- The value in rows that state none. -/
  default : Cell
  /-- What the value is worked out from, if rows do not state it. -/
  generated : Option Expression

namespace Column

/-- A column that stores values as they are. -/
def plain (name : String) : Column :=
  ⟨name, .none, .binary, false, false, false, false, .null, none⟩

end Column

def sameName (a b : String) : Bool := Collation.lowerAscii a == Collation.lowerAscii b

theorem sameName_refl (a : String) : sameName a a = true := by simp [sameName]

theorem sameName_comm (a b : String) : sameName a b = sameName b a := Bool.beq_comm

end Rulebook
