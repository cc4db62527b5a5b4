import Rulebook.Settings.Params
import Rulebook.Store.Location
import Rulebook.Store.Script
import Rulebook.Store.Session

/-!
# Databases in files and in memory

A connection opens the database that its parameters name, in memory or in a file, and runs the
script of entities, if there is one. A database in memory belongs to its connection unless it is
shared; one in a file is shared by all.

* `connect_other_kind`: connections to other kinds of stores fail.
-/

namespace Rulebook

/-! ## Contents of files -/

/-- A script is a text of statements, or tables that are made with their rows. -/
inductive Script where
  | text (s : String)
  | tables (made : List (Table × List (List Cell)))

inductive Content where
  | script (s : Script)
  | database (db : Database)

namespace Script

/-- Inserts rows one after another, up to the first one that is refused. -/
def fill (name : String) : List (List Cell) → Database → Except String Database × Database
  | [], db => (.ok db, db)
  | row :: rest, db =>
    let inserted := Statement.afterInsert db .refuse (.plain name) none
      (.values [row.map .value])
    match inserted with
    | .ok db => fill name rest db
    | .error p => (.error p.message, db)

/-- Makes tables one after another, each with its rows, up to the first failure. -/
def make : List (Table × List (List Cell)) → Database → Except String Database × Database
  | [], db => (.ok db, db)
  | (t, rows) :: rest, db =>
    match db.table? t.name with
    | some _ => (.error ("table " ++ t.name ++ " already exists"), db)
    | none =>
      match fill t.name rows (db ++ [t]) with
      | (.ok db, _) => make rest db
      | (.error message, db) => (.error message, db)

/-- What becomes of a database by a script, and why it fails, if it does. -/
def apply (db : Database) : Script → Except String Database × Database
  | text s => run db s
  | tables made => make made db

/-- Whether a script holds statements. -/
def isBlank : Script → Bool
  | text s => s.toList.all Sql.isBlank
  | tables made => made.isEmpty

end Script

/-- The texts among files. -/
def Files.texts (files : Files Content) : Files String :=
  files.filterMap fun (name, content) =>
    match content with
    | .script (.text s) => some (name, s)
    | _ => none

/-- The working directory, databases in memory that connections share, and the parameters of
connections. -/
structure Disk where
  files : Files Content
  shared : Entries Database
  params : ConnectionParams

/-- What a connection holds: a database of its own, or the name of one. -/
inductive Handle where
  | own (db : Database)
  | shared (name : String)
  | file (name : String)

namespace Disk

def isFile (d : Disk) (name : String) : Bool := d.files.has name

def hasDatabase (d : Disk) : Handle → Bool
  | .own _ => true
  | .shared name => d.shared.has name
  | .file name => d.isFile name

def notDatabase : String := "file is not a database"

/-- The database of a handle; an empty file is an empty database. -/
def databaseOf (d : Disk) : Handle → Except String Database
  | .own db => .ok db
  | .shared name => .ok ((d.shared.find? name).getD [])
  | .file name =>
    match d.files.find? name with
    | none => .ok []
    | some (.database db) => .ok db
    | some (.script (.text "")) => .ok []
    | some (.script _) => .error notDatabase

/-- Gives a handle's database another state. -/
def setDatabase (d : Disk) (h : Handle) (db : Database) : Handle × Disk :=
  match h with
  | .own _ => (.own db, d)
  | .shared name => (h, { d with shared := d.shared.set name db })
  | .file name => (h, { d with files := d.files.set name (.database db) })

/-! ## Scripts of entities -/

/-- The script that a path leads to, or why it cannot be read. -/
def readScript (d : Disk) (path : String) : Except String Script :=
  match Path.place d.isFile path with
  | .here | .outside => .error "Is a directory (os error 21)"
  | .absent => .error "No such file or directory (os error 2)"
  | .blocked => .error "Not a directory (os error 20)"
  | .tooLong => .error "File name too long (os error 36)"
  | .file name =>
    match d.files.find? name with
    | some (.script s) => .ok s
    | some (.database (_ :: _)) => .error "stream did not contain valid UTF-8"
    | _ => .ok (.text "")

def entitiesScript (d : Disk) : Except String Script :=
  match d.params.entities with
  | none => .ok (.text "")
  | some path =>
    let read :=
      if path.toList.contains '\x00' then .error "file name contained an unexpected NUL byte"
      else d.readScript path
    read.mapError fun reason => "could not read entities '" ++ path ++ "': " ++ reason

/-! ## Opening -/

/-- The handle for a location. A file that has to be there is not made. -/
def handleAt (d : Disk) (location : Location) : Except String Handle :=
  match location with
  | .own => .ok (.own [])
  | .shared name => .ok (.shared name)
  | .file name => .ok (.file name)
  | .existing name | .readOnly name =>
    if d.isFile name then .ok (.file name)
    else .error (Location.unreachable d.params.database)

def readOnlyMessage : String := "attempt to write a readonly database"

/-- The database of a handle after a script. -/
def runScript (d : Disk) (location : Location) (h : Handle) (script : Script) :
    Except String Database × Database :=
  if script.isBlank then
    match d.databaseOf h with
    | .ok db => (.ok db, db)
    | .error _ => (.ok [], [])
  else
    match location, d.databaseOf h with
    | _, .error message => (.error message, [])
    | .readOnly _, .ok db => (.error readOnlyMessage, db)
    | _, .ok db => script.apply db

/-- The disk after a database is opened; one that is not there is made. -/
def enter (d : Disk) (h : Handle) : Disk :=
  if d.hasDatabase h then d else (d.setDatabase h []).2

/-- Runs the script of entities on a database that is opened. A database in memory that nothing else
holds is gone if this fails. -/
def prepare (d : Disk) (location : Location) (h : Handle) : Except String Handle × Disk :=
  let opened := d.enter h
  let gone : Disk := match h with
    | .shared _ => if d.hasDatabase h then opened else d
    | _ => opened
  match opened.entitiesScript with
  | .error message => (.error message, gone)
  | .ok script =>
    match opened.databaseOf h, opened.runScript location h script with
    | .error _, (.ok _, _) => (.ok h, opened)
    | .error _, (.error message, _) => (.error message, opened)
    | .ok _, (.ok db, _) =>
      let (h, d) := opened.setDatabase h db
      (.ok h, d)
    | .ok _, (.error message, db) =>
      match h with
      | .shared _ => (.error message, if d.hasDatabase h then (opened.setDatabase h db).2 else d)
      | _ => (.error message, (opened.setDatabase h db).2)

/-- Opens the database and runs the script of entities. -/
def openStore (d : Disk) : Except Failure Handle × Disk :=
  let opened := do
    let location ← Location.locate d.isFile d.params.database
    let h ← d.handleAt location
    return (location, h)
  match opened with
  | .error message => (.error (.storeInitialization message), d)
  | .ok (location, h) =>
    let (result, d) := d.prepare location h
    (result.mapError Failure.storeInitialization, d)

/-- Connects to the store, which must be of the kind that can be opened. -/
def connect (d : Disk) : Except Failure Handle × Disk :=
  if d.params.kind = .sqlite then d.openStore
  else
    (.error (.storeInitialization
      ("no connector for store kind '" ++ d.params.kind.name ++ "'")), d)

theorem connect_other_kind {d : Disk} (h : d.params.kind ≠ .sqlite) :
    d.connect = (.error (.storeInitialization
      ("no connector for store kind '" ++ d.params.kind.name ++ "'")), d) := by
  simp [connect, h]

/-! ## Look-up -/

def findOne (d : Disk) (h : Handle) (recordKind field : String) (value : Json) :
    Except Failure (Option Json.Members) :=
  match d.databaseOf h with
  | .ok db => db.findOne recordKind field value
  | .error message =>
    match Database.badName? recordKind field with
    | some s => .error (Database.notIdentifier s)
    | none => .error (.storeQuery message)

def backend : Backend Disk Handle where
  start := id
  finish := connect
  found d h recordKind field value := (d.findOne h recordKind field value).map Option.isSome

/-! ## Steps -/

inductive Step where
  | find (recordKind field : String) (value : Json)
  | evaluate (q : Query)
  | check (path : String) (field : Field) (value : Option Json)
  | insert (recordKind : String) (row : List Cell)
  | clear (recordKind : String)

inductive Outcome where
  | none
  | record (r : Except Failure (Option Json.Members))
  | answer (result : Except Failure Bool)
  | report (r : Except Failure FieldReport)

/-- A session on a shared connection, beside a store that is opened at the first direct search. -/
structure State where
  session : Session Disk Handle
  direct : Option Handle

def State.initial (d : Disk) : State := ⟨.initial d, none⟩

/-- The store for direct searches, opened if it is not open. -/
def State.openDirect (s : State) : Except Failure Handle × State :=
  match s.direct with
  | some h => (.ok h, s)
  | none =>
    let (opened, d) := s.session.world.openStore
    let s := { s with session := { s.session with world := d } }
    match opened with
    | .ok h => (.ok h, { s with direct := some h })
    | .error f => (.error f, s)

/-- Changes the database that the parameters name by a connection of its own, which shares nothing
in memory. -/
def change (d : Disk) (f : Database → Database) : Disk :=
  match Location.locate d.isFile d.params.database with
  | .ok (.file name) | .ok (.existing name) =>
    match d.databaseOf (.file name) with
    | .ok db => (d.setDatabase (.file name) (f db)).2
    | .error _ => d
  | _ => d

def State.change (f : Database → Database) (s : State) : State :=
  { s with session := { s.session with world := s.session.world.change f } }

def State.step (s : State) : Step → Outcome × State
  | .find recordKind field value =>
    match s.openDirect with
    | (.ok h, s) => (.record (s.session.world.findOne h recordKind field value), s)
    | (.error f, s) => (.record (.error f), s)
  | .evaluate q =>
    let (result, session) := s.session.evaluate backend q
    (.answer result, { s with session := session })
  | .check path field value =>
    let (result, session) := Session.run backend (field.validate path value) s.session
    (.report result, { s with session := session })
  | .insert recordKind row => (.none, s.change fun db => db.insert recordKind row)
  | .clear recordKind => (.none, s.change fun db => db.clear recordKind)

/-- The outcomes of steps, each with the state after it. -/
def State.run : List Step → State → List (Outcome × State)
  | [], _ => []
  | x :: xs, s =>
    let (outcome, s) := s.step x
    (outcome, s) :: run xs s

end Disk

end Rulebook
