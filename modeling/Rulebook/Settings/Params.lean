import Rulebook.Unicode.Hidden

/-!
# Connection parameters

Where the record store lives and how it is reached. The text for readers hides the password.

* `describe_password`: the text is the same for any two passwords.
-/

namespace Rulebook

inductive StoreKind where
  | sqlite
  | postgres
  | mysql
  deriving DecidableEq

namespace StoreKind

def name : StoreKind → String
  | sqlite => "sqlite"
  | postgres => "postgres"
  | mysql => "mysql"

def title : StoreKind → String
  | sqlite => "Sqlite"
  | postgres => "Postgres"
  | mysql => "Mysql"

def ofName? (s : String) : Option StoreKind :=
  [sqlite, postgres, mysql].find? fun k => k.name == s

theorem ofName?_name (k : StoreKind) : ofName? k.name = some k := by cases k <;> decide

end StoreKind

structure ConnectionParams where
  kind : StoreKind
  host : Option String
  /-- Fits 16 bits. -/
  port : Option Nat
  username : Option String
  password : Option String
  database : String
  /-- The file of a script that is run right after connecting. -/
  entities : Option String
  deriving DecidableEq

namespace ConnectionParams

def defaultDatabase : String := ":memory:"

def sqlite (database : String) : ConnectionParams :=
  ⟨.sqlite, none, none, none, none, database, none⟩

/-! ## Text for readers -/

def lowerHex (n : Nat) : List Char := Nat.toDigits 16 n

def escapeChar (c : Char) : List Char :=
  if c = '"' then ['\\', '"']
  else if c = '\\' then ['\\', '\\']
  else if c = '\x00' then ['\\', '0']
  else if c = '\t' then ['\\', 't']
  else if c = '\r' then ['\\', 'r']
  else if c = '\n' then ['\\', 'n']
  else if Unicode.isHidden c then
    ['\\', 'u', '{'] ++ lowerHex c.toNat ++ ['}']
  else [c]

def quoted (s : String) : String :=
  String.ofList ('"' :: (s.toList.flatMap escapeChar ++ ['"']))

def optionText (text : Option String) : String :=
  match text with
  | some s => "Some(" ++ s ++ ")"
  | none => "None"

/-- All parameters; a password is shown as three stars. -/
def describe (p : ConnectionParams) : String :=
  "ConnectionParams \x7b kind: " ++ p.kind.title ++
    ", host: " ++ optionText (p.host.map quoted) ++
    ", port: " ++ optionText (p.port.map toString) ++
    ", username: " ++ optionText (p.username.map quoted) ++
    ", password: " ++ optionText (p.password.map fun _ => quoted "***") ++
    ", database: " ++ quoted p.database ++
    ", entities: " ++ optionText (p.entities.map quoted) ++ " \x7d"

theorem describe_password (p : ConnectionParams) (s t : String) :
    describe { p with password := some s } = describe { p with password := some t } := rfl

end ConnectionParams

end Rulebook
