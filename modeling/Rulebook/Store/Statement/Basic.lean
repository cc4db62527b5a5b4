import Rulebook.Store.Table.Basic

/-!
# Statements

The statements of a script: tables and views are made, changed and dropped, rows are inserted,
changed and deleted, and transactions begin and end.

* `ObjectName.isLocal_of_none`: a name without a schema is a name in the database itself.
-/

namespace Rulebook

/-- The name of a table or of something else that a database stores, in a schema perhaps. The text
has the size `left` from the name on, and the size `start` from the schema on. -/
structure ObjectName where
  schema : Option String
  name : String
  written : String
  start : Nat
  left : Nat

namespace ObjectName

/-- Whether the schema is one that every database has. -/
def isLocal (n : ObjectName) : Bool :=
  n.schema.all fun schema => sameName schema "main" || sameName schema "temp"

theorem isLocal_of_none {n : ObjectName} (h : n.schema = none) : n.isLocal = true := by
  simp [isLocal, h]

/-- A name that no text is known of. -/
def plain (name : String) : ObjectName := ⟨none, name, name, 0, 0⟩

def display (n : ObjectName) : String :=
  match n.schema with
  | some schema => schema ++ "." ++ n.name
  | none => n.name

end ObjectName

namespace Statement

/-- What becomes of a row that others stand in the way of. -/
inductive OnConflict where
  | refuse
  | ignore
  | replace
  deriving DecidableEq

/-- Kinds of what a database stores. -/
inductive ObjectKind where
  | table
  | view
  | index
  | trigger
  deriving DecidableEq

def ObjectKind.name : ObjectKind → String
  | table => "table"
  | view => "view"
  | index => "index"
  | trigger => "trigger"

/-- What the rows of a table are made of. -/
inductive Body where
  /-- No rows, and columns with what they demand. -/
  | columns (columns : List Column) (rules : Rules)
  /-- The rows of a selection. -/
  | rows (s : Selection)
  /-- A view with the rows of a selection, under other names perhaps. -/
  | view (names : Option (List String)) (s : Selection)

/-- The rows that are inserted. -/
inductive Rows where
  | values (rows : List (List Expression))
  | selected (parts : List Selection)
  /-- A row that states nothing. -/
  | default

/-- A change of a table. Columns are named at places, from which on the text has the size `left`. -/
inductive Alteration where
  | rename (name : String)
  | renameColumn (column : String) (left : Nat) (name : String)
  | add (column : Column) (rules : Rules)
  | drop (column : String) (left : Nat)

end Statement

open Statement in
inductive Statement where
  | nothing
  | start
  | commit
  | rollback
  | mark (name : String)
  | release (name : String)
  | rollbackTo (name : String)
  /-- Makes a table or a view; the text is that of the statement. -/
  | create (ifMissing : Bool) (name : ObjectName) (body : Body) (text : String)
  /-- Makes an index of a table; the text is that of the statement. -/
  | createIndex (ifMissing isUnique : Bool) (name : ObjectName) (table : ObjectName)
      (columns : List Expression) (text : String)
  /-- Something that waits for changes of a table, and is not carried out. -/
  | createTrigger (table : ObjectName)
  | drop (kind : ObjectKind) (ifPresent : Bool) (name : ObjectName)
  | alter (table : ObjectName) (change : Alteration)
  | insert (onConflict : OnConflict) (table : ObjectName) (columns : Option (List String))
      (rows : Rows)
  | update (onConflict : OnConflict) (table : ObjectName)
      (assignments : List (String × Expression)) (condition : Option Expression)
  | delete (table : ObjectName) (condition : Option Expression)
  | select (parts : List Selection)

end Rulebook
