import Rulebook.Store.Sql.Statement
import Rulebook.Store.Statement.Change

/-!
# Scripts

A script is a text of statements, which are carried out one after another up to the first one that
fails. What was done before a failure stays done, unless a transaction is under way.

* `step_rollback`: a transaction that is taken back leaves what was before;
* `run_blank`: a text without statements changes nothing.
-/

namespace Rulebook

namespace Script

open Sql

/-! ## Faults -/

def byteLength (text : List Char) : Nat := (String.ofList text).utf8ByteSize

/-- A message with the text that it is about, and the place in it, from which on the text that is
read has the size `left`. -/
def located (message : String) (text visible : List Char) (left : Nat) : String :=
  message ++ " in " ++ String.ofList text ++ " at offset " ++ toString (byteLength visible - left)

/-- What is said of a fault in a text, of which only a part is read. -/
def faultMessage (text visible : List Char) : Fault → String
  | .incomplete => "incomplete input"
  | .misplaced t =>
    let word := String.ofList t.text
    located
      (if t.kind = .stray then "unrecognized token: \"" ++ word ++ "\""
        else "near \"" ++ word ++ "\": syntax error")
      text visible t.left
  | .meaningless ⟨none, message⟩ => message
  | .meaningless ⟨some left, message⟩ => located message text visible left

/-! ## Transactions -/

/-- A database, with what it was when a transaction began that is under way, and at marks in it,
the last one first. A mark may have begun the transaction itself. -/
structure State where
  database : Database
  before : Option Database
  marks : List (String × Database)
  begunByMark : Bool

def State.initial (db : Database) : State := ⟨db, none, [], false⟩

/-- What stays when nothing more is done. -/
def State.settled (s : State) : Database := s.before.getD s.database

/-- The marks from the last one of that name on, without those made after it. -/
def State.since (s : State) (name : String) : List (String × Database) :=
  s.marks.dropWhile fun m => !sameName m.1 name

def noMark (name : String) : Fault := .plain ("no such savepoint: " ++ name)

/-- A step of a script. -/
def step (s : State) : Statement → Except Fault State
  | .start =>
    match s.before with
    | none => .ok ⟨s.database, some s.database, [], false⟩
    | some _ => .error (.plain "cannot start a transaction within a transaction")
  | .commit =>
    match s.before with
    | some _ => .ok (.initial s.database)
    | none => .error (.plain "cannot commit - no transaction is active")
  | .rollback =>
    match s.before with
    | some db => .ok (.initial db)
    | none => .error (.plain "cannot rollback - no transaction is active")
  | .mark name =>
    .ok
      { s with
        before := s.before.or (some s.database)
        marks := (name, s.database) :: s.marks
        begunByMark := s.begunByMark || s.before.isNone }
  | .release name =>
    match s.since name with
    | [] => .error (noMark name)
    | _ :: rest =>
      if rest.isEmpty && s.begunByMark then .ok (.initial s.database)
      else .ok { s with marks := rest }
  | .rollbackTo name =>
    match s.since name with
    | [] => .error (noMark name)
    | m :: rest => .ok { s with database := m.2, marks := m :: rest }
  | statement =>
    match Statement.change s.database statement with
    | .ok db => .ok { s with database := db }
    | .error p => .error (.meaningless p)

theorem step_rollback {s : State} {db : Database} (h : s.before = some db) :
    step s .rollback = .ok (.initial db) := by
  simp [step, h]

/-! ## Texts -/

/-- What is read of a text: all up to a NUL. -/
def visible (text : List Char) : List Char := text.takeWhile (· != '\x00')

/-- What is left of a text behind a statement. -/
def afterStatement (text : List Char) (ts : Tokens) : List Char :=
  match ts.getLast? with
  | some t =>
    if t.isSymbol ";" then text.drop ((visible text).length - t.rest.length) else []
  | none => []

/-- Carries out the statements of a text: why one fails, if one does, and the state then. -/
def runFrom : Nat → State → List Char → Option String × State
  | 0, s, _ => (none, s)
  | fuel + 1, s, text =>
    let ts := statementTokens ((visible text).length + 1) (visible text)
    if ts.isEmpty then (none, s)
    else
      match (statementOf ts).bind (step s) with
      | .ok s => runFrom fuel s (afterStatement text ts)
      | .error fault => (some (faultMessage text (visible text) fault), s)

/-- What becomes of a database by a script, and why it fails, if it does. -/
def run (db : Database) (text : String) : Except String Database × Database :=
  match runFrom (text.toList.length + 1) (.initial db) text.toList with
  | (none, s) => (.ok s.database, s.database)
  | (some message, s) => (.error message, s.settled)

theorem run_blank {text : String}
    (h : statementTokens ((visible text.toList).length + 1) (visible text.toList) = [])
    (db : Database) : run db text = (.ok db, db) := by
  simp [run, runFrom, h, State.initial]

end Script

end Rulebook
