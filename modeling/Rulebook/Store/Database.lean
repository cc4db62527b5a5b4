import Rulebook.Failure
import Rulebook.Store.Table.Insertion

/-!
# Databases

A database is a list of tables, in the order in which they were made. Names of tables are compared
without regard to the case of ASCII letters.

* `table?_update_of_ne`: changing a table leaves those of other names as they are.
-/

namespace Rulebook

abbrev Database := List Table

namespace Database

def table? (name : String) : Database → Option Table
  | [] => none
  | t :: rest => if sameName t.name name then some t else table? name rest

/-- The table that has an index of that name. -/
def tableOfIndex? (name : String) (db : Database) : Option Table :=
  db.find? fun t => t.indexes.any fun i => sameName i.name name

/-- Changes the table of that name. -/
def update (name : String) (f : Table → Table) : Database → Database
  | [] => []
  | t :: rest => if sameName t.name name then f t :: rest else t :: update name f rest

theorem table?_update_of_ne {name other : String} {f : Table → Table}
    (hf : ∀ t, (f t).name = t.name) (h : sameName name other = false) (db : Database) :
    table? other (update name f db) = table? other db := by
  simp only [sameName, beq_eq_false_iff_ne] at h
  induction db with
  | nil => rfl
  | cons t rest ih =>
    simp only [update]
    by_cases hn : Collation.lowerAscii t.name = Collation.lowerAscii name
    · have ho : Collation.lowerAscii t.name ≠ Collation.lowerAscii other :=
        fun e => h (hn.symm.trans e)
      simp [sameName, table?, hf, hn, h]
    · simp [sameName, table?, hn, ih]

/-- Inserts a row; one that is refused changes nothing. -/
def insert (db : Database) (name : String) (row : List Cell) : Database :=
  update name (fun t => match t.insert row with | .ok t => t | .error _ => t) db

def clear (db : Database) (name : String) : Database :=
  update name (fun t => { t with rows := [] }) db

end Database

end Rulebook
