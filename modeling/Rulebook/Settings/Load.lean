import Rulebook.Failure
import Rulebook.Files.Path
import Rulebook.Json.Reader
import Rulebook.Settings.KeyPath
import Rulebook.Settings.Params
import Rulebook.Settings.Toml.Document

/-!
# Loading connection parameters

Parameters come from three layers: the file `fieldrule` in the working directory, if there is one,
a file that is named, and the variables of the environment whose names start with `DB_`. Later
layers replace single keys. What the layers amount to is converted at the end, and keys that are
not set have their defaults.

* `ofEntries_nil`: with no layer everything has its default.
-/

namespace Rulebook

/-! ## Files -/

inductive FileFormat where
  | json
  | toml
  deriving DecidableEq

namespace FileFormat

def ending : FileFormat → String
  | json => "json"
  | toml => "toml"

def ofEnding? (s : String) : Option FileFormat := [toml, json].find? fun f => f.ending == s

/-- The settings of a text, in front of which a byte order mark may stand. -/
def read? (text : String) (format : FileFormat) : Option (Entries Setting) :=
  let text := String.ofList (Toml.withoutMark text.toList)
  match format with
  | json =>
    match Json.read? text with
    | some (.object members) => some (Setting.ofMembers members)
    | _ => none
  | toml => Toml.read? text

end FileFormat

/-- The first file whose path is the given one with an ending for a known format. -/
def fileWithEnding? (files : Files String) (base : String) :
    List FileFormat → Option (FileFormat × String)
  | [] => none
  | f :: rest =>
    match files.at? (base ++ "." ++ f.ending) with
    | some (_, text) => some (f, text)
    | none => fileWithEnding? files base rest

/-- The settings file that a path names, and its format. A file of exactly that path must have an
ending for a known format; else endings are tried. -/
def settingsFile? (files : Files String) (path : String) : Option (FileFormat × String) :=
  match files.at? path with
  | some (name, text) =>
    ((Path.ending? name).bind FileFormat.ofEnding?).map fun f => (f, text)
  | none => (Path.base? path).bind fun base => fileWithEnding? files base [.toml, .json]

/-! ## Layers -/

/-- Sets the keys of a layer one after another; a key may be a path. -/
def layer (base entries : Entries Setting) : Entries Setting :=
  entries.foldl (fun es (key, value) => (KeyPath.ofKey key).set value es) base

/-- What a text from the environment stands for: a truth value, a number or itself. -/
def Setting.ofVariable (text : String) : Setting :=
  let word := text.toList.map Char.toLower
  if word = "true".toList then .bool true
  else if word = "false".toList then .bool false
  else
    let (negative, digits) := Digits.splitSign text.toList
    let value := Digits.signed negative (Digits.value digits)
    if !digits.isEmpty && digits.all Char.isDigit && Bits.fitsSigned 64 value then .whole value
    else match Extended.ofText text.toList with
      | some x => .float x
      | none => .string text

def variablePrefix : List Char := "db_".toList

/-- The key that a variable of the environment sets, if it sets one. -/
def variableKey? (name : String) : Option String :=
  let name := name.toList.map Char.toLower
  if variablePrefix.isPrefixOf name then some (String.ofList (name.drop variablePrefix.length))
  else none

def variableEntries (env : List (String × String)) : Entries Setting :=
  env.filterMap fun (name, text) =>
    (variableKey? name).map fun key => (key, Setting.ofVariable text)

def badFile (name : String) : Failure := .settings ("cannot read settings from " ++ name)

def defaultFile : String := "fieldrule"

/-- The layer of the default file, which may be missing. -/
def defaultEntries (files : Files String) : Except Failure (Entries Setting) :=
  match settingsFile? files defaultFile with
  | none => .ok []
  | some (f, text) =>
    match f.read? text with
    | some es => .ok es
    | none => .error (badFile defaultFile)

/-- The layer of a file that is named. -/
def namedEntries (files : Files String) : Option String → Except Failure (Entries Setting)
  | none => .ok []
  | some name =>
    match (settingsFile? files name).bind fun (f, text) => f.read? text with
    | some es => .ok es
    | none => .error (badFile name)

/-- All layers, one over the other. -/
def mergedEntries (files : Files String) (env : List (String × String)) (file : Option String) :
    Except Failure (Entries Setting) :=
  match defaultEntries files, namedEntries files file with
  | .error f, _ => .error f
  | .ok _, .error f => .error f
  | .ok base, .ok named => .ok (layer (layer (layer [] base) named) (variableEntries env))

/-! ## Conversion -/

namespace ConnectionParams

def badValue (key : String) : Failure := .settings ("invalid value for key " ++ key)

/-- The value of a key as converted; a key that is not set has none. -/
def get (es : Entries Setting) (key : String) (convert : Setting → Option α) :
    Except Failure (Option α) :=
  match es.find? key with
  | none => .ok none
  | some v =>
    match convert v with
    | some a => .ok (some a)
    | none => .error (badValue key)

/-- The value of a key that null unsets. -/
def getOptional (es : Entries Setting) (key : String) (convert : Setting → Option α) :
    Except Failure (Option α) :=
  match es.find? key with
  | some .null => .ok none
  | _ => get es key convert

def toKind? (v : Setting) : Option StoreKind := v.toChoice?.bind StoreKind.ofName?

def ofEntries (es : Entries Setting) : Except Failure ConnectionParams := do
  let kind ← get es "type" toKind?
  let host ← getOptional es "host" Setting.toText?
  let port ← getOptional es "port" Setting.toPort?
  let username ← getOptional es "username" Setting.toText?
  let password ← getOptional es "password" Setting.toText?
  let database ← get es "database" Setting.toText?
  let entities ← getOptional es "entities" Setting.toText?
  return ⟨kind.getD .sqlite, host, port, username, password, database.getD defaultDatabase,
    entities⟩

theorem ofEntries_nil : ofEntries [] = .ok (sqlite defaultDatabase) := rfl

/-- The parameters that the files, the environment and a file that is named amount to. -/
def load (files : Files String) (env : List (String × String)) (file : Option String) :
    Except Failure ConnectionParams :=
  match mergedEntries files env file with
  | .ok es => ofEntries es
  | .error f => .error f

end ConnectionParams

end Rulebook
