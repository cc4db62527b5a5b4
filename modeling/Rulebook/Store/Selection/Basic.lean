import Rulebook.Store.Column

/-!
# Selections

A selection takes rows of a table on which a condition holds, and makes new rows of them.

* `outputName_field`: a field that is taken keeps its name.
-/

namespace Rulebook

namespace Selection

inductive Result where
  /-- All columns of the table. -/
  | all
  /-- A value, under a name. -/
  | one (name : String) (e : Expression)

/-- Where rows are taken from. -/
inductive Source where
  /-- No table: there is a single row without fields. -/
  | nothing
  /-- A table, under another name perhaps. -/
  | table (name : String) (otherName : Option String)
  /-- Several tables, in a way that is not worked out here. -/
  | several (names : List String)

/-- The name that a value has under no other one. -/
def outputName (text : String) : Expression → String
  | .field f => f.name
  | _ => text

theorem outputName_field (text : String) (f : FieldName) : outputName text (.field f) = f.name :=
  rfl

end Selection

structure Selection where
  results : List Selection.Result
  source : Selection.Source
  condition : Option Expression
  /-- Expressions in whatever else is said. -/
  others : List Expression

end Rulebook
