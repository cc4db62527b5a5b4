import Rulebook.Store.Statement.Rows

/-!
# Statements on tables and views

Tables and views are made, changed and dropped. A statement that something is wrong with leaves the
database as it is.

* `afterCreate_ifMissing`: a table that is there is not made again where that is asked for.
-/

namespace Rulebook

namespace Statement

/-! ## Objects -/

/-- Columns are worked out from other columns by their names alone. -/
def checkGenerated (t : Table) (e : Expression) : Except Problem Unit :=
  match e.fields.find? fun f => f.table.isSome with
  | some f => .error ⟨some f.left, "the \".\" operator prohibited in generated columns"⟩
  | none => checkExpressions t [e]

/-- The first problem of what a table demands and is worked out from. -/
def checkRules (t : Table) : Except Problem Unit := do
  let () ← checkExpressions t (t.rules.checks.map Prod.snd)
  if t.columns.all fun c => c.generated.isSome then
    .error (plain "must have at least one non-generated column")
  else (t.columns.filterMap Column.generated).forM (checkGenerated t)

/-- A selection with other names for its results, as many as there are. -/
def withNames (names : List String) (s : Selection) : Selection :=
  if s.results.length = names.length then
    { s with
      results := (s.results.zip names).map fun (r, name) =>
        match r with
        | .one _ e => .one name e
        | .all => .all }
  else s

/-- The table or view of that name. -/
def made (db : Database) (name : String) (text : String) : Body → Except Problem Table
  | .columns columns rules => do
    let t : Table := .empty name columns rules text
    let () ← checkRules t
    return t
  | .rows s => do
    let (columns, rows) ← selected db s
    return (Table.empty name columns .none text).ofRows rows
  | .view names s =>
    let s := (names.map fun names => withNames names s).getD s
    .ok { Table.empty name (s.columns none) .none text with view := some s }

def kindOf (t : Table) : ObjectKind := if t.view.isSome then .view else .table

def afterCreate (db : Database) (ifMissing : Bool) (name : ObjectName) (body : Body)
    (text : String) : Except Problem Database :=
  if !name.isLocal then
    .error ⟨some name.start, "unknown database " ++ name.schema.getD ""⟩
  else
    match db.table? name.name with
    | some t =>
      if ifMissing then .ok db
      else
        .error ⟨some name.left, (kindOf t).name ++ " " ++ name.written ++ " already exists"⟩
    | none =>
      if (db.tableOfIndex? name.name).isSome then
        .error (plain ("there is already an index named " ++ name.name))
      else (made db name.name text body).map fun t => db ++ [t]

theorem afterCreate_ifMissing {db : Database} {name : ObjectName} {t : Table} (body : Body)
    (text : String) (hl : name.isLocal = true) (h : db.table? name.name = some t) :
    afterCreate db true name body text = .ok db := by
  simp [afterCreate, hl, h]

/-- The columns that an index is made of, if it is made of columns alone. -/
def indexColumns (es : List Expression) : List String :=
  let columns := es.filterMap fun
    | .field f | .collate _ (.field f) => some f.name
    | _ => none
  if columns.length = es.length then columns else []

/-- Whether two rows of a list have the same values in some columns. -/
def hasClash (t : Table) (key : List String) : List TableRow → Bool
  | [] => false
  | row :: rest => (rest.any fun r => t.agree key row r) || hasClash t key rest

/-- A table that may be indexed. -/
def indexable (db : Database) (name : ObjectName) : Except Problem Table :=
  match db.table? name.name with
  | some t => if t.view.isNone then .ok t else .error (plain "views may not be indexed")
  | none =>
    match db.relation? name.name with
    | some t => .error (plain ("table " ++ t.name ++ " may not be indexed"))
    | none => .error (noTable ("main." ++ name.name))

/-- Makes an index, which must not have the name of anything else. -/
def afterIndex (db : Database) (ifMissing isUnique : Bool) (name table : ObjectName)
    (columns : List Expression) (text : String) : Except Problem Database := do
  if !name.isLocal then
    .error ⟨some name.start, "unknown database " ++ name.schema.getD ""⟩
  else
    let t ← indexable db table
    if (db.table? name.name).isSome then
      .error (plain ("there is already a table named " ++ name.name))
    else if (db.tableOfIndex? name.name).isSome then
      if ifMissing then return db
      else .error (plain ("index " ++ name.name ++ " already exists"))
    else
      let () ← checkExpressions t columns
      let key := indexColumns columns
      let isUnique := isUnique && !key.isEmpty
      if isUnique && hasClash t key t.rows then
        .error (plain ((Table.Refusal.duplicate key).message t.name))
      else
        let index : Index := ⟨name.name, key, isUnique, text⟩
        return db.update t.name fun _ => { t with indexes := t.indexes ++ [index] }

def withoutIndex (name : String) (t : Table) : Table :=
  { t with indexes := t.indexes.filter fun i => !sameName i.name name }

def afterDrop (db : Database) (kind : ObjectKind) (ifPresent : Bool) (name : ObjectName) :
    Except Problem Database :=
  let missing : Except Problem Database :=
    if ifPresent then .ok db
    else .error (plain ("no such " ++ kind.name ++ ": " ++ name.display))
  if !name.isLocal then missing
  else
    match db.table? name.name, kind with
    | some t, .table | some t, .view =>
      if kindOf t = kind then .ok (db.filter fun t => !sameName t.name name.name)
      else if kindOf t = .view then .error (plain ("use DROP VIEW to delete view " ++ t.name))
      else .error (plain ("use DROP TABLE to delete table " ++ t.name))
    | none, .table =>
      match db.relation? name.name with
      | some t => .error (plain ("table " ++ t.name ++ " may not be dropped"))
      | none => missing
    | _, .index =>
      match db.tableOfIndex? name.name with
      | some t => .ok (db.update t.name (withoutIndex name.name))
      | none => missing
    | _, _ => missing

/-! ## Alterations -/

def hasColumn (t : Table) (name : String) : Bool := t.columns.any fun c => sameName c.name name

def noColumn (name : String) (left : Nat) : Problem :=
  ⟨some left, "no such column: \"" ++ name ++ "\""⟩

def renameIn (column name : String) (names : List String) : List String :=
  names.map fun n => if sameName n column then name else n

def renamedColumn (t : Table) (column name : String) : Table :=
  { t with
    columns := t.columns.map fun c => if sameName c.name column then { c with name := name } else c
    rules :=
      { t.rules with
        keys := t.rules.keys.map (renameIn column name)
        primary := renameIn column name t.rules.primary }
    indexes := t.indexes.map fun i => { i with columns := renameIn column name i.columns } }

def withColumn (t : Table) (c : Column) (rules : Rules) : Table :=
  let t := { t with columns := t.columns ++ [c], rules := t.rules.append rules }
  let widen (row : TableRow) : TableRow :=
    t.storedRow row.number (row.cells ++ [c.affinity.store c.default])
  { t with rows := t.rows.map widen }

def mentions (column : String) (e : Expression) : Bool :=
  e.fields.any fun f => sameName f.name column

/-- Whether a key or another column is made of a column. -/
def isNeeded (t : Table) (column : String) : Bool :=
  (t.rules.keys.any fun key => key.any (sameName column)) ||
    t.columns.any fun c => c.generated.any (mentions column)

/-- A table without a column and the conditions that are about it. -/
def withoutColumn (t : Table) (column : String) : Table :=
  let keep (cells : List Cell) : List Cell :=
    (t.columns.zip cells).filterMap fun (c, v) => if sameName c.name column then none else some v
  { t with
    columns := t.columns.filter fun c => !sameName c.name column
    rules := { t.rules with checks := t.rules.checks.filter fun check => !mentions column check.2 }
    rows := t.rows.map fun row => { row with cells := keep row.cells } }

/-- Something else is made of a column that is to be dropped. -/
def lost (object column : String) : Problem :=
  plain ("error in " ++ object ++ " after drop column: no such column: " ++ column)

def altered (db : Database) (t : Table) : Alteration → Except Problem Table
  | .rename name =>
    if ((db.table? name).isSome && !sameName name t.name) || (db.tableOfIndex? name).isSome then
      .error (plain ("there is already another table or index with this name: " ++ name))
    else .ok { t with name := name }
  | .renameColumn column left name =>
    if !hasColumn t column then .error (noColumn column left)
    else if hasColumn t name && !sameName column name then
      .error (plain
        ("error in table " ++ t.name ++ " after rename: duplicate column name: " ++ name))
    else .ok (renamedColumn t column name)
  | .add c rules =>
    if hasColumn t c.name then .error (plain ("duplicate column name: " ++ c.name))
    else if !rules.primary.isEmpty then .error (plain "Cannot add a PRIMARY KEY column")
    else if !rules.keys.isEmpty then .error (plain "Cannot add a UNIQUE column")
    else if c.isRequired && c.default.isNull && !t.rows.isEmpty then
      .error (plain "Cannot add a NOT NULL column with default value NULL")
    else .ok (withColumn t c rules)
  | .drop column left =>
    if !hasColumn t column then .error (noColumn column left)
    else if t.rules.primary.any (sameName column) then
      .error (plain ("cannot drop PRIMARY KEY column: \"" ++ column ++ "\""))
    else if t.rules.keys.any fun key => key.length == 1 && key.any (sameName column) then
      .error (plain ("cannot drop UNIQUE column: \"" ++ column ++ "\""))
    else if t.columns.length ≤ 1 then
      .error (plain ("cannot drop column \"" ++ column ++ "\": no other columns exist"))
    else if let some i := t.indexes.find? fun i => i.columns.any (sameName column) then
      .error (lost ("index " ++ i.name) column)
    else if isNeeded t column then
      .error (lost ("table " ++ t.name) column)
    else .ok (withoutColumn t column)

def afterAlter (db : Database) (name : ObjectName) (change : Alteration) :
    Except Problem Database := do
  let t ← changeable db name "altered"
  let changed ← altered db t change
  return db.update t.name fun _ => changed

/-! ## Statements -/

/-- A database after a statement that is no part of the course of transactions. -/
def change (db : Database) : Statement → Except Problem Database
  | .create ifMissing name body text => afterCreate db ifMissing name body text
  | .createIndex ifMissing isUnique name table columns text =>
    afterIndex db ifMissing isUnique name table columns text
  | .createTrigger table =>
    match db.table? table.name with
    | some _ => .ok db
    | none => .error (noTable ("main." ++ table.name))
  | .drop kind ifPresent name => afterDrop db kind ifPresent name
  | .alter table change => afterAlter db table change
  | .insert onConflict table columns rows => afterInsert db onConflict table columns rows
  | .update onConflict table assignments condition =>
    afterUpdate db onConflict table assignments condition
  | .delete table condition => afterDelete db table condition
  | .select parts => (parts.forM fun s => (checked db s).map fun _ => ()).map fun _ => db
  | .nothing | .start | .commit | .rollback | .mark _ | .release _ | .rollbackTo _ => .ok db

end Statement

end Rulebook
