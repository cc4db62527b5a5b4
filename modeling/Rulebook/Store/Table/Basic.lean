import Rulebook.Json.Basic
import Rulebook.Store.Selection.Basic

/-!
# Tables

A table has columns, rows, and rules that rows have to keep. Names are compared without regard to
the case of ASCII letters.

* `mem_addKey`: a key that is added is there, under some spelling;
* `rows_empty`: a new table has no rows.
-/

namespace Rulebook

structure TableRow where
  number : Int
  cells : List Cell

/-- Columns whose values, if none is null, stand in columns of another table; in its primary key if
it names no columns there. -/
structure Reference where
  columns : List String
  target : String
  targets : List String

/-- What a table demands of its rows. -/
structure Rules where
  /-- Conditions that may not be false, each with the text that it is known by. -/
  checks : List (String × Expression)
  /-- Columns that no two rows may have the same values in, older ones first. -/
  keys : List (List String)
  primary : List String
  references : List Reference
  /-- Whether the numbers of rows can be asked for. -/
  isNumbered : Bool

namespace Rules

def none : Rules := ⟨[], [], [], [], true⟩

def sameNames (a b : List String) : Bool :=
  a.length == b.length && (a.zip b).all fun (x, y) => sameName x y

/-- Adds a key unless it is there. -/
def addKey (r : Rules) (key : List String) : Rules :=
  if r.keys.any (sameNames key) then r else { r with keys := r.keys ++ [key] }

theorem mem_addKey (r : Rules) (key : List String) :
    ∃ k ∈ (r.addKey key).keys, sameNames key k = true ∨ k = key := by
  unfold addKey
  split
  · next h =>
    obtain ⟨k, hk, e⟩ := List.any_eq_true.1 h
    exact ⟨k, hk, .inl e⟩
  · exact ⟨key, by simp, .inr rfl⟩

/-- The rules of two parts of a table. -/
def append (a b : Rules) : Rules :=
  b.keys.foldl addKey
    { a with
      checks := a.checks ++ b.checks
      primary := if a.primary.isEmpty then b.primary else a.primary
      references := a.references ++ b.references }

end Rules

/-- An index of some columns; of one that is not made of columns alone the columns are not known. -/
structure Index where
  name : String
  columns : List String
  /-- Whether no two rows may have the same values in the columns. -/
  isUnique : Bool
  statement : String

/-- Rows stand in the order of their numbers. -/
structure Table where
  name : String
  columns : List Column
  rules : Rules
  rows : List TableRow
  /-- The largest row number ever given. -/
  last : Int
  /-- The statement that made the table. -/
  statement : String
  /-- What the rows are worked out from, if the table has none of its own. -/
  view : Option Selection
  /-- Indexes that statements made, older ones first. -/
  indexes : List Index

namespace Table

def empty (name : String) (columns : List Column) (rules : Rules) (statement : String) : Table :=
  ⟨name, columns, rules, [], 0, statement, none, []⟩

theorem rows_empty (name : String) (columns : List Column) (rules : Rules) (statement : String) :
    (empty name columns rules statement).rows = [] := rfl

/-- The columns of keys and of indexes, older ones first. -/
def allKeys (t : Table) : List (List String) := t.rules.keys ++ t.indexes.map Index.columns

/-- The columns that no two rows may have the same values in, older ones first. -/
def uniqueKeys (t : Table) : List (List String) :=
  t.rules.keys ++ (t.indexes.filter Index.isUnique).map Index.columns

end Table

end Rulebook
