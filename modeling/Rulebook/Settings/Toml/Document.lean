import Rulebook.Settings.Toml.Number
import Rulebook.Settings.Toml.Quoted
import Rulebook.Settings.Toml.Time
import Rulebook.Settings.Toml.Tree

/-!
# TOML documents

A document holds lines `key = value` and headers of tables. Values are quoted texts, numbers, truth
values, dates and times, arrays and tables in braces.
-/

namespace Rulebook.Toml

/-! ## Keys -/

def isBareKeyChar (c : Char) : Bool := c.isAlphanum || c == '_' || c == '-'

def readKeyPart (text : List Char) : Option (String × List Char) :=
  let name := text.takeWhile isBareKeyChar
  if name.isEmpty then readQuotedLine text
  else some (String.ofList name, text.dropWhile isBareKeyChar)

/-- A key: the names in front of its last one, and the last one. -/
abbrev Key := List String × String

/-- The parts of a key, at most `limit`, with points between them, and the blanks behind it. -/
def readKeyParts : Nat → Reader Key
  | 0, _ => none
  | limit + 1, text => do
    let (part, rest) ← readKeyPart (skipBlanks text)
    match skipBlanks rest with
    | '.' :: rest =>
      let ((path, key), rest) ← readKeyParts limit rest
      some ((part :: path, key), rest)
    | rest => some (([], part), rest)

/-- Keys have at most that many parts, and values may be nested that deep. -/
def depthLimit : Nat := 80

def readKey : Reader Key := readKeyParts depthLimit

/-! ## Values -/

def isWordChar (c : Char) : Bool :=
  c.isAlphanum || c == '_' || c == '+' || c == '-' || c == '.' || c == ':'

/-- Digits with a hyphen or a colon behind them begin a date or a time. -/
def isMoment (word : List Char) : Bool :=
  match word.takeWhile Char.isDigit, word.dropWhile Char.isDigit with
  | _ :: _, c :: _ => c == '-' || c == ':'
  | _, _ => false

/-- A word; the blank between a date and a time belongs to it. -/
def readWord (text : List Char) : List Char × List Char :=
  let word := text.takeWhile isWordChar
  match text.dropWhile isWordChar with
  | ' ' :: c :: rest =>
    if isMoment word && c.isDigit then
      (word ++ ' ' :: (c :: rest).takeWhile isWordChar, (c :: rest).dropWhile isWordChar)
    else (word, ' ' :: c :: rest)
  | rest => (word, rest)

def wordOf (word : List Char) : Option Setting :=
  if word = "true".toList then some (.bool true)
  else if word = "false".toList then some (.bool false)
  else if isMoment word then (momentOf word).map Setting.string
  else numberOf word

def readScalar (text : List Char) : Option (Setting × List Char) :=
  match text with
  | '"' :: _ | '\x27' :: _ => (readQuoted text).map fun (s, rest) => (.string s, rest)
  | _ =>
    let (word, rest) := readWord text
    (wordOf word).map fun v => (v, rest)

/-- What follows the closing bracket of an array; a comma may follow the last item. -/
def readItems (item : Reader Setting) : Nat → List Char → Option (List Char)
  | 0, _ => none
  | fuel + 1, text =>
    match skipLines false text with
    | ']' :: rest => some rest
    | text => do
      let (_, rest) ← item text
      match skipLines false rest with
      | ']' :: rest => some rest
      | ',' :: rest => readItems item fuel rest
      | _ => none

/-- The entries of a table in braces up to the closing one; a comma may follow the last entry. -/
def readInline (item : Reader Setting) : Nat → Entries Node → Reader (Entries Node)
  | 0, _, _ => none
  | fuel + 1, done, text =>
    match skipLines false text with
    | '\x7d' :: rest => some (done, rest)
    | text => do
      let ((path, key), rest) ← readKey text
      let rest ← expect '=' rest
      let (v, rest) ← item (skipBlanks rest)
      let done ← Node.define path key v .stated done
      match skipLines false rest with
      | '\x7d' :: rest => some (done, rest)
      | ',' :: rest => readInline item fuel done rest
      | _ => none

/-- Reads a value that holds at most `depth` nested arrays and tables. -/
def readValue : Nat → Reader Setting
  | depth + 1, '[' :: rest =>
    (readItems (readValue depth) (rest.length + 1) rest).map fun rest => (.array, rest)
  | depth + 1, '\x7b' :: rest =>
    (readInline (readValue depth) (rest.length + 1) [] rest).map fun (es, rest) =>
      (.table (Node.toSettings es), rest)
  | _, text => readScalar text

/-! ## Documents -/

/-- A header in brackets, which may be double, up to the end of its line. -/
def readHeader (several : Bool) (text : List Char) : Option (Key × List Char) := do
  let (key, rest) ← readKey text
  let rest ← expect ']' rest
  let rest ← if several then expect ']' rest else some rest
  let rest ← endLine false rest
  some (key, rest)

/-- A line with a key and its value. -/
def readPair (text : List Char) : Option ((Key × Setting) × List Char) := do
  let (key, rest) ← readKey text
  let rest ← expect '=' rest
  let (v, rest) ← readValue depthLimit (skipBlanks rest)
  let rest ← endLine false rest
  some ((key, v), rest)

/-- Reads lines; `header` leads to the table that they are in. -/
def readLines : Nat → List String → Entries Node → List Char → Option (Entries Node)
  | 0, _, _, _ => none
  | fuel + 1, header, done, text =>
    match skipLines false text with
    | [] => some done
    | '[' :: rest => do
      let several := rest.head? == some '['
      let ((path, key), rest) ← readHeader several (if several then rest.drop 1 else rest)
      let done ← Node.open? several path key done
      readLines fuel (path ++ [key]) done rest
    | text => do
      let (((path, key), v), rest) ← readPair text
      let done ← Node.alter false (Node.define path key v) header .stated done
      readLines fuel header done rest

/-- A mark that may stand in front of a document. -/
def byteOrderMark : Char := '\ufeff'

def withoutMark (text : List Char) : List Char :=
  if text.head? = some byteOrderMark then text.drop 1 else text

/-- The settings of a TOML document, if it is one. -/
def read? (text : String) : Option (Entries Setting) :=
  let text := withoutMark text.toList
  (readLines (text.length + 1) [] [] text).map Node.toSettings

end Rulebook.Toml
