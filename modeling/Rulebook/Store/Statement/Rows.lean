import Rulebook.Store.Catalog
import Rulebook.Store.Statement.Basic

/-!
# Statements on rows

Rows are inserted, changed and deleted, all that a statement says or none. Tables that no statement
made can be read but not changed.

* `addRow_ignore`: a row that is refused is left out where that is asked for;
* `mem_withoutRows_iff`: rows that do not meet the condition of a deletion stay.
-/

namespace Rulebook

namespace Statement

abbrev Problem := Expression.Problem

def plain (message : String) : Problem := ⟨none, message⟩

/-! ## Tables -/

def noTable (name : String) : Problem := plain ("no such table: " ++ name)

/-- A table that can be read. -/
def readable (db : Database) (name : String) : Except Problem Table :=
  match db.relation? name with
  | some t => .ok t
  | none => .error (noTable name)

/-- A table whose rows can be changed; `verb` tells how. -/
def changeable (db : Database) (name : ObjectName) (verb : String) : Except Problem Table :=
  if !name.isLocal then .error (noTable name.display)
  else
    match db.table? name.name with
    | some t =>
      if t.view.isNone then .ok t
      else .error (plain ("cannot modify " ++ t.name ++ " because it is a view"))
    | none =>
      match db.relation? name.name with
      | some t => .error (plain ("table " ++ t.name ++ " may not be " ++ verb))
      | none => .error (noTable name.display)

/-! ## Selections -/

/-- The table that a selection takes rows from. -/
def sourceOf (db : Database) (s : Selection) : Except Problem (Option Table) :=
  match s.source with
  | .nothing => .ok none
  | .table name _ => (readable db name).map some
  | .several names => (names.mapM (readable db)).map fun _ => none

def isSeveral (s : Selection) : Bool :=
  match s.source with
  | .several _ => true
  | _ => false

def takesAll (s : Selection) : Bool :=
  s.results.any fun
    | .all => true
    | .one .. => false

/-- The source of a selection that has no problem. -/
def checked (db : Database) (s : Selection) : Except Problem (Option Table) := do
  let source ← sourceOf db s
  if isSeveral s then return source
  else if source.isNone && takesAll s then .error (plain "no tables specified")
  else
    match s.problem? source with
    | some p => .error p
    | none => return source

/-- The rows of a selection and the columns that they have. -/
def selected (db : Database) (s : Selection) : Except Problem (List Column × List (List Cell)) := do
  let source ← checked db s
  if isSeveral s then return (s.columns none, [])
  else
    match source with
    | some t => return (s.columns source, s.rows t)
    | none => return (s.columns none, s.loneRow)

/-- The rows of selections, one behind the other. -/
def selectedAll (db : Database) (parts : List Selection) :
    Except Problem (List Column × List (List Cell)) := do
  let parts ← parts.mapM (selected db)
  return ((parts.head?.map Prod.fst).getD [], parts.flatMap Prod.snd)

/-! ## References -/

def referenceTable (db : Database) (r : Reference) : Except Problem Table :=
  match db.table? r.target with
  | some t => .ok t
  | none => .error (noTable ("main." ++ r.target))

/-- The columns that a reference stands for in the other table, which must be a key of it. -/
def referenceKey (t target : Table) (r : Reference) : Except Problem (List String) :=
  let names := if r.targets.isEmpty then target.rules.primary else r.targets
  let isNumber := names.any fun name =>
    (target.columns.any fun c => sameName c.name name && c.holdsRowNumber) && names.length == 1
  if names.length == r.columns.length &&
      (isNumber || target.rules.keys.any (Rules.sameNames names)) then
    .ok names
  else
    .error (plain
      ("foreign key mismatch - \"" ++ t.name ++ "\" referencing \"" ++ r.target ++ "\""))

def cellOf (t : Table) (row : TableRow) (name : String) : Cell :=
  (((t.columns.zip row.cells).find? fun (c, _) => sameName c.name name).map Prod.snd).getD .null

/-- Whether the row of another table has the values that a reference stands for. -/
def isTarget (target : Table) (names : List String) (values : List Cell) (row : TableRow) : Bool :=
  (names.zip values).all fun (name, v) =>
    target.columns.any fun c => sameName c.name name &&
      c.collation.equals (cellOf target row name) (c.affinity.store v)

/-- Checks that rows that were added have what their references stand for. -/
def checkReferences (db : Database) (t : Table) (rows : List TableRow) : Except Problem Unit :=
  t.rules.references.forM fun r => do
    let target ← referenceTable db r
    let names ← referenceKey t target r
    let isMet (row : TableRow) : Bool :=
      let values := r.columns.map (cellOf t row)
      values.any Cell.isNull || target.rows.any (isTarget target names values)
    if rows.all isMet then .ok () else .error (plain "FOREIGN KEY constraint failed")

/-! ## Rows -/

/-- The columns whose values rows state. -/
def statedColumns (t : Table) : List String :=
  (t.columns.filter fun c => c.generated.isNone).map Column.name

/-- The value for a column among values for some names, if there is one. -/
def valueFor? (names : List String) (values : List Cell) (isMeant : String → Bool) : Option Cell :=
  ((names.zip values).find? fun (name, _) => isMeant name).map Prod.snd

/-- The cells of a row whose values are given for some columns. -/
def arrange (columns : List Column) (names : List String) (values : List Cell) : List Cell :=
  columns.map fun c => (valueFor? names values fun name => sameName name c.name).getD c.default

/-- The columns that values are given for. -/
def targetColumns (t : Table) (columns : Option (List String)) : Except Problem (List String) :=
  match columns with
  | none => .ok (statedColumns t)
  | some names =>
    match names.find? fun name =>
        !((t.columns.any fun c => sameName c.name name) || t.numbersUnder name) with
    | some name => .error (plain ("table " ++ t.name ++ " has no column named " ++ name))
    | none =>
      match t.columns.find? fun c =>
          c.generated.isSome && names.any fun name => sameName name c.name with
      | some c => .error (plain ("cannot INSERT into generated column \"" ++ c.name ++ "\""))
      | none => .ok names

/-- A row as a table has it. -/
def rowOf (t : Table) (names : List String) (values : List Cell) : Except Problem TableRow :=
  let number := valueFor? names values fun name =>
    t.numbersUnder name && !t.columns.any fun c => sameName c.name name
  (t.rowOf number (arrange t.columns names values)).mapError fun r => plain (r.message t.name)

/-- What is wrong with a count of values, if it is. -/
def checkCount (t : Table) (columns : Option (List String)) (names : List String) (count : Nat) :
    Except Problem Unit :=
  if count = names.length then .ok ()
  else
    match columns with
    | none =>
      .error (plain ("table " ++ t.name ++ " has " ++ toString names.length ++ " columns but " ++
        toString count ++ " values were supplied"))
    | some _ =>
      .error (plain (toString count ++ " values for " ++ toString names.length ++ " columns"))

/-- A table without the rows that stand in the way of a new one. -/
def withoutRivals (t : Table) (row : TableRow) : Table :=
  { t with rows := t.rows.filter fun other => ({ t with rows := [other] }.duplicate? row).isNone }

/-- Adds a row, and says whether it was added. -/
def addRow (onConflict : OnConflict) (t : Table) (row : TableRow) : Except Problem (Table × Bool) :=
  let refused (r : Table.Refusal) : Except Problem (Table × Bool) :=
    .error (plain (r.message t.name))
  match t.add row, onConflict with
  | .ok t, _ => .ok (t, true)
  | .error _, .ignore => .ok (t, false)
  | .error r, .refuse => refused r
  | .error (.duplicate _), .replace =>
    match (withoutRivals t row).add row with
    | .ok t => .ok (t, true)
    | .error r => refused r
  | .error r, .replace => refused r

theorem addRow_ignore {t : Table} {row : TableRow} {r : Table.Refusal} (h : t.add row = .error r) :
    addRow .ignore t row = .ok (t, false) := by
  simp [addRow, h]

/-- Adds rows made of values, all of them or none. -/
def addRows (onConflict : OnConflict) (names : List String) :
    List (List Cell) → Table → Except Problem (Table × List TableRow)
  | [], t => .ok (t, [])
  | values :: rest, t => do
    let row ← rowOf t names values
    let (t, added) ← addRow onConflict t row
    let (t, rows) ← addRows onConflict names rest t
    return (t, if added then row :: rows else rows)

/-- Expressions without fields, as values. -/
def constants (es : List Expression) : Except Problem (List Cell) :=
  match Expression.problemOfAll? (fun _ => false) es with
  | some p => .error p
  | none => .ok (es.map Expression.constant)

/-- The values that are inserted for some columns. -/
def insertedValues (db : Database) (t : Table) (columns : Option (List String))
    (names : List String) : Rows → Except Problem (List (List Cell))
  | .default => .ok [t.columns.filterMap fun c =>
      if c.generated.isNone then some c.default else none]
  | .values rows => do
    let values ← rows.mapM constants
    let () ← values.forM fun row => checkCount t columns names row.length
    return values
  | .selected parts => do
    let (selected, values) ← selectedAll db parts
    let () ← checkCount t columns names selected.length
    return values

/-- A table with rows inserted. -/
def inserted (db : Database) (onConflict : OnConflict) (t : Table) (columns : Option (List String))
    (rows : Rows) : Except Problem (Table × List TableRow) := do
  let names ← targetColumns t columns
  let values ← insertedValues db t columns names rows
  addRows onConflict names values t

def afterInsert (db : Database) (onConflict : OnConflict) (name : ObjectName)
    (columns : Option (List String)) (rows : Rows) : Except Problem Database := do
  let t ← changeable db name "modified"
  let (t, added) ← inserted db onConflict t columns rows
  let db := db.update t.name fun _ => t
  let () ← checkReferences db t added
  return db

/-- The first problem of expressions on rows of a table. -/
def checkExpressions (t : Table) (es : List Expression) : Except Problem Unit :=
  match Expression.problemOfAll? t.knows es with
  | some p => .error p
  | none => .ok ()

def meets (t : Table) (condition : Option Expression) (row : TableRow) : Bool :=
  condition.all fun e => (t.valueOn row e).truth == some true

/-- A table without the rows that meet a condition. -/
def withoutRows (t : Table) (condition : Option Expression) : Table :=
  { t with rows := t.rows.filter fun row => !meets t condition row }

theorem mem_withoutRows_iff {t : Table} {condition : Option Expression} {row : TableRow} :
    row ∈ (withoutRows t condition).rows ↔ row ∈ t.rows ∧ meets t condition row = false := by
  simp [withoutRows]

def afterDelete (db : Database) (name : ObjectName) (condition : Option Expression) :
    Except Problem Database := do
  let t ← changeable db name "modified"
  let () ← checkExpressions t condition.toList
  return db.update t.name fun _ => withoutRows t condition

/-- A row with values assigned to some columns. -/
def assign (t : Table) (assignments : List (String × Expression)) (row : TableRow) :
    Except Problem TableRow :=
  let valueOf (isMeant : String → Bool) : Option Cell :=
    ((assignments.find? fun (name, _) => isMeant name)).map fun (_, e) => t.valueOn row e
  let values := (t.columns.zip row.cells).map fun (c, v) =>
    (valueOf fun name => sameName name c.name).getD v
  let number := (valueOf t.numbersUnder).getD
    (if t.columns.any Column.holdsRowNumber then .null else .integer row.number)
  (t.rowOf (if number.isNull then none else some number) values).mapError fun r =>
    plain (r.message t.name)

/-- Changes rows one after another. -/
def updateRows (onConflict : OnConflict) (assignments : List (String × Expression)) :
    List TableRow → Table → Except Problem (Table × List TableRow)
  | [], t => .ok (t, [])
  | row :: rest, t => do
    let changed ← assign t assignments row
    let others := { t with rows := t.rows.filter fun r => r.number != row.number }
    let (t, isChanged) ← match onConflict, others.add changed with
      | .ignore, .error _ => .ok (t, false)
      | _, _ => addRow onConflict others changed
    let (t, rows) ← updateRows onConflict assignments rest t
    return (t, if isChanged then changed :: rows else rows)

/-- Checks what is assigned to a column, and the column. -/
def checkAssignment (t : Table) (assignment : String × Expression) : Except Problem Unit := do
  let (name, e) := assignment
  let () ← checkExpressions t [e]
  match t.columns.find? fun c => sameName c.name name with
  | some c =>
    if c.generated.isSome then
      .error (plain ("cannot UPDATE generated column \"" ++ name ++ "\""))
    else return ()
  | none => if t.numbersUnder name then return () else .error (plain ("no such column: " ++ name))

def afterUpdate (db : Database) (onConflict : OnConflict) (name : ObjectName)
    (assignments : List (String × Expression)) (condition : Option Expression) :
    Except Problem Database := do
  let t ← changeable db name "modified"
  let () ← assignments.forM (checkAssignment t)
  let () ← checkExpressions t condition.toList
  let (t, changed) ← updateRows onConflict assignments (t.rows.filter (meets t condition)) t
  let db := db.update t.name fun _ => t
  let () ← checkReferences db t changed
  return db

end Statement

end Rulebook
