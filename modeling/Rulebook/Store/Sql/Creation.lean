import Rulebook.Store.Sql.Declaration
import Rulebook.Store.Sql.Selection
import Rulebook.Store.Statement.Basic

/-!
# Reading statements that make something

A table is made of columns and of constraints behind them, or of a selection; a view is made of a
selection, and an index of columns.

* `objectName_left`: a name stands where its token does.
-/

namespace Rulebook.Sql

open Statement

/-! ## Names of objects -/

/-- The name of a token, behind a schema perhaps, where the first of both is `first`. -/
def objectName (first t : Token) (schema : Option String) : ObjectName :=
  ⟨schema, t.nameOf, String.ofList t.text, first.left, t.left⟩

theorem objectName_left (first t : Token) (schema : Option String) :
    (objectName first t schema).left = t.left := rfl

/-- A name, with a schema in front of it perhaps. -/
def readObjectName (ts : Tokens) : Except Fault (ObjectName × Tokens) := do
  match ts with
  | [] => .error .incomplete
  | first :: _ =>
    let (schema, ts) ← readName ts
    if startsWithSymbol "." ts then
      match ts.drop 1 with
      | [] => .error .incomplete
      | t :: rest =>
        let _ ← readName (t :: rest)
        return (objectName first t (some schema), rest)
    else return (objectName first first none, ts)

def skipIfMissing (ts : Tokens) : Except Fault (Bool × Tokens) :=
  if startsWithWord "if" ts then
    (expectWords ["not", "exists"] (ts.drop 1)).map fun ts => (true, ts)
  else .ok (false, ts)

/-- The name of something new; some names are kept back. -/
def readNewName (ts : Tokens) : Except Fault (ObjectName × Tokens) := do
  let (name, ts) ← readObjectName ts
  if "sqlite_".toList.isPrefixOf (Collation.lowerAscii name.name) then
    .error (.plain ("object name reserved for internal use: " ++ name.name))
  else return (name, ts)

/-! ## Constraints of tables -/

/-- What is read of a table so far. -/
structure TableParts where
  columns : List Column
  types : List (List Char)
  rules : Rules

def TableParts.none : TableParts := ⟨[], [], Rules.none⟩

def TableParts.has (p : TableParts) (name : String) : Bool :=
  p.columns.any fun c => sameName c.name name

def manyKeys (table : String) : Fault :=
  .plain ("table \"" ++ table ++ "\" has more than one primary key")

/-- The columns of a key, which may have collations and directions. -/
def keyColumns (p : TableParts) (es : List Expression) : Except Fault (List String) :=
  es.mapM fun e =>
    match e with
    | .field f | .collate _ (.field f) =>
      if p.has f.name then .ok f.name else .error (.meaningless (.ofField f))
    | _ => .error (.plain "expressions prohibited in PRIMARY KEY and UNIQUE constraints")

/-- A key in parentheses, and whether numbers of deleted rows are kept from new ones. -/
def readKey (p : TableParts) (ts : Tokens) : Except Fault ((List String × Bool) × Tokens) := do
  let ts ← expectSymbol "(" ts
  let (es, ts) ← readTerms ts.length ts
  let counted := startsWithWord "autoincrement" ts
  let ts ← expectSymbol ")" (skipWord "autoincrement" ts)
  let ts ← skipConflict ts
  match keyColumns p es with
  | .ok key => return ((key, counted), ts)
  | .error fault => .error (fault.before mayFollowPart ts)

/-- A primary key of one column of whole numbers holds the row numbers; others are keys. -/
def TableParts.withPrimary (p : TableParts) (key : List String) (counted : Bool) : TableParts :=
  let rules := { p.rules with primary := key }
  let holds (c : Column) : Bool :=
    key.length == 1 && key.any (sameName c.name) && c.isWholeNumber
  if p.columns.any holds then
    { p with
      columns := p.columns.map fun c =>
        if holds c then { c with holdsRowNumber := true, isRequired := false, isCounted := counted }
        else c
      rules := rules }
  else { p with rules := rules.addKey key }

/-- Words that constraints of a whole table start with. -/
def tableConstraintWords : List String := ["constraint", "primary", "unique", "check", "foreign"]

/-- Reads one constraint of a whole table. -/
def readTableConstraint (table : String) (label : Option String) (p : TableParts) (ts : Tokens) :
    Except Fault (TableParts × Tokens) :=
  if startsWithWord "primary" ts then do
    let ts ← expectWord "key" (ts.drop 1)
    let ((key, counted), ts) ← readKey p ts
    if p.rules.primary.isEmpty then return (p.withPrimary key counted, ts)
    else .error ((manyKeys table).before mayFollowPart ts)
  else if startsWithWord "unique" ts then do
    let ((key, _), ts) ← readKey p (ts.drop 1)
    return ({ p with rules := p.rules.addKey key }, ts)
  else if startsWithWord "check" ts then do
    let (check, ts) ← readCondition (ts.drop 1)
    let ts ← skipConflict ts
    let check := (label.getD check.1, check.2)
    return ({ p with rules := { p.rules with checks := p.rules.checks ++ [check] } }, ts)
  else do
    let ts ← expectWords ["foreign", "key"] ts
    let ts ← expectSymbol "(" ts
    let (columns, ts) ← readNames ts.length ts
    let ts ← expectWord "references" ts
    let (reference, ts) ← readReference false columns ts
    let ts ← if startsWithWord "not" ts then skipDeferral (ts.drop 1)
      else if startsWithWord "deferrable" ts then skipDeferral ts else .ok ts
    match columns.find? fun c => !p.has c with
    | some c => .error (.plain ("unknown column \"" ++ c ++ "\" in foreign key definition"))
    | none =>
      return ({ p with rules := { p.rules with references := p.rules.references ++ [reference] } },
        ts)

/-- The constraints of a whole table, up to the closing parenthesis. -/
def readTableConstraints (table : String) : Nat → Option String → TableParts → Parser TableParts
  | 0, _, _, ts => .error (wrong ts)
  | fuel + 1, label, p, ts => do
    let ((label, p), ts) ←
      if startsWithWord "constraint" ts then
        (readName (ts.drop 1)).map fun (name, ts) => ((some name, p), ts)
      else (readTableConstraint table label p ts).map fun (p, ts) => ((label, p), ts)
    if startsWithSymbol ")" ts then return (p, ts)
    else if startsWithSymbol "," ts then readTableConstraints table fuel none p (ts.drop 1)
    else if startsWithOneOf tableConstraintWords ts then readTableConstraints table fuel label p ts
    else .error (wrong ts)

/-! ## Columns of tables -/

def TableParts.withColumn (p : TableParts) (d : Declaration) (type : List Char) : TableParts :=
  ⟨p.columns ++ [d.column], p.types ++ [type], p.rules.append d.rules⟩

/-- The columns of a table, and its constraints behind them. -/
def readColumns (table : String) : Nat → TableParts → Parser TableParts
  | 0, _, ts => .error (wrong ts)
  | fuel + 1, p, ts => do
    let (name, ts) ← readName ts
    let (type, _) ← readType ts
    let (d, ts) ← readColumn name ts
    if p.has name then .error (.plain ("duplicate column name: " ++ name))
    else if !p.rules.primary.isEmpty && !d.rules.primary.isEmpty then
      .error ((manyKeys table).before mayFollowPart ts)
    else
      let p := p.withColumn d type
      if startsWithSymbol "," ts then
        if startsWithOneOf tableConstraintWords (ts.drop 1) then
          readTableConstraints table ts.length none p (ts.drop 1)
        else readColumns table fuel p (ts.drop 1)
      else return (p, ts)

/-! ## Options of tables -/

/-- Types that a strict table may have. -/
def strictTypes : List String := ["any", "blob", "int", "integer", "real", "text"]

/-- Every column of a strict table has one of a few types. -/
def checkStrict (table : String) : List Column → List (List Char) → Except Fault Unit
  | c :: columns, type :: types =>
    let name := table ++ "." ++ c.name
    if type.isEmpty then .error (.plain ("missing datatype for " ++ name))
    else if strictTypes.contains (String.ofList (type.map Char.toLower)) then
      checkStrict table columns types
    else
      .error (.plain ("unknown datatype for " ++ name ++ ": \"" ++ String.ofList type ++ "\""))
  | _, _ => .ok ()

/-- A table without row numbers has a primary key, none of whose columns is null. -/
def TableParts.withoutNumbers (table : String) (p : TableParts) : Except Fault TableParts :=
  if p.rules.primary.isEmpty then .error (.plain ("PRIMARY KEY missing on table " ++ table))
  else
    let isKey (c : Column) : Bool := p.rules.primary.any (sameName c.name)
    .ok
      { p with
        columns := p.columns.map fun c =>
          { c with holdsRowNumber := false, isRequired := c.isRequired || isKey c }
        rules := { p.rules.addKey p.rules.primary with isNumbered := false } }

/-- A fault of options, which is found where they end. -/
def optionFault (f : Fault) : Tokens → Fault
  | [] => f
  | t :: ts => f.before (fun t => t.isSymbol "," || t.isSymbol ";") (t :: ts)

/-- One option of a table: what it makes of the table. -/
def tableOption (table : String) (p : TableParts) (isLack : Bool) (t : Token) :
    Except Fault TableParts :=
  if isLack && sameName t.nameOf "rowid" then p.withoutNumbers table
  else if !isLack && sameName t.nameOf "strict" then
    (checkStrict table p.columns p.types).map fun () => p
  else .error (.plain ("unknown table option: " ++ String.ofList t.text))

/-- The options of a table behind its columns, with commas between them. -/
def readTableOptions (table : String) : Nat → TableParts → Parser TableParts
  | 0, p, ts => .ok (p, ts)
  | fuel + 1, p, ts => do
    let isLack := startsWithWord "without" ts
    match skipWord "without" ts with
    | [] => .error .incomplete
    | t :: ts =>
      if !isName t then .error (.misplaced t)
      else
        let p ← (tableOption table p isLack t).mapError fun fault => optionFault fault ts
        if startsWithSymbol "," ts then readTableOptions table fuel p (ts.drop 1)
        else return (p, ts)

def hasOptions (ts : Tokens) : Bool :=
  match ts with
  | t :: _ => isName t
  | [] => false

/-! ## Statements -/

/-- The text from the start of a token to the start of others. -/
def textUntil (t : Token) (ts : Tokens) : List Char :=
  let left := match ts with
    | next :: _ => next.text.length + next.rest.length
    | [] => 0
  (t.text ++ t.rest).take (t.text.length + t.rest.length - left)

/-- The statement that makes something, from its name on, which is among some tokens. -/
def statementText (kind : String) (name : ObjectName) (ts after : Tokens) : String :=
  match ts.find? fun t => t.left == name.left with
  | some t => "CREATE " ++ kind ++ " " ++ String.ofList (trimBack (textUntil t after))
  | none => ""

/-- The text of a table that is made of a selection. -/
def columnsText (name : String) (s : Selection) : String :=
  "CREATE TABLE " ++ name ++ "(" ++ ",".intercalate ((s.results.filterMap fun
    | .one name _ => some name
    | .all => none)) ++ ")"

def readSelection (ts : Tokens) : Except Fault (Selection × Tokens) := do
  let (parts, ts) ← readSelections ts
  match parts with
  | [s] => return (s, ts)
  | s :: _ => return ({ s with source := .several [] }, ts)
  | [] => .error (wrong ts)

def readTable (ts : Tokens) : Except Fault (Statement × Tokens) := do
  let start := ts
  let (ifMissing, ts) ← skipIfMissing ts
  let (name, ts) ← readNewName ts
  if startsWithWord "as" ts then
    let (s, ts) ← readSelection (ts.drop 1)
    return (.create ifMissing name (.rows s) (columnsText name.name s), ts)
  else
    let ts ← expectSymbol "(" ts
    let (p, ts) ← readColumns name.name (ts.length + 1) .none ts
    let ts ← expectSymbol ")" ts
    let (p, ts) ←
      if startsWithSymbol "," ts then readTableOptions name.name ts.length p (ts.drop 1)
      else if hasOptions ts then readTableOptions name.name ts.length p ts
      else .ok (p, ts)
    return (.create ifMissing name (.columns p.columns p.rules)
      (statementText "TABLE" name start ts), ts)

def readView (ts : Tokens) : Except Fault (Statement × Tokens) := do
  let start := ts
  let (ifMissing, ts) ← skipIfMissing ts
  let (name, ts) ← readNewName ts
  let (names, ts) ←
    if startsWithSymbol "(" ts then
      (readNames ts.length (ts.drop 1)).map fun (names, ts) => (some names, ts)
    else .ok (none, ts)
  let ts ← expectWord "as" ts
  let (s, ts) ← readSelection ts
  return (.create ifMissing name (.view names s) (statementText "VIEW" name start ts), ts)

def readIndex (isUnique : Bool) (ts : Tokens) : Except Fault (Statement × Tokens) := do
  let start := ts
  let (ifMissing, ts) ← skipIfMissing ts
  let (name, ts) ← readNewName ts
  let ts ← expectWord "on" ts
  let (table, ts) ← readObjectName ts
  let ts ← expectSymbol "(" ts
  let (columns, ts) ← readTerms ts.length ts
  let ts ← expectSymbol ")" ts
  let (condition, ts) ← readWhere ts
  let kind := if isUnique then "UNIQUE INDEX" else "INDEX"
  return (.createIndex ifMissing (isUnique && condition.isNone) name table columns
    (statementText kind name start ts), ts)

/-- Passes all that is left of a statement, whatever its words are. -/
def skipRest : Tokens → Except Fault Tokens
  | [] => .ok []
  | t :: ts =>
    if t.isSymbol ";" ∧ ts.isEmpty then .ok (t :: ts)
    else if t.kind = .stray then .error (.misplaced t)
    else skipRest ts

/-- Passes statements up to a semicolon and the word `end` behind them. -/
def skipBody : Tokens → Except Fault Tokens
  | [] => .error .incomplete
  | t :: ts =>
    if t.kind = .stray then .error (.misplaced t)
    else if t.isSymbol ";" && startsWithWord "end" ts then .ok (ts.drop 1)
    else skipBody ts

/-- Passes what a trigger waits for. -/
def skipOccasion (ts : Tokens) : Except Fault Tokens := do
  let ts ←
    if startsWithWord "instead" ts then expectWord "of" (ts.drop 1)
    else .ok (skipWord "after" (skipWord "before" ts))
  if startsWithWord "update" ts && startsWithWord "of" (ts.drop 1) then
    return (ts.drop 2).dropWhile fun t => isName t || t.isSymbol ","
  else expectOneOf ["delete", "insert", "update"] ts

/-- A trigger, which is accepted if its table is there. -/
def readTrigger (ts : Tokens) : Except Fault (Statement × Tokens) := do
  let (_, ts) ← skipIfMissing ts
  let (_, ts) ← readObjectName ts
  let ts ← skipOccasion ts
  let ts ← expectWord "on" ts
  let (table, ts) ← readObjectName ts
  let ts ← if startsWithWord "for" ts then expectWords ["each", "row"] (ts.drop 1) else .ok ts
  let ts ← if startsWithWord "when" ts then (readExpression (ts.drop 1)).map Prod.snd else .ok ts
  let ts ← expectWord "begin" ts
  let ts ← skipBody ts
  return (.createTrigger table, ts)

/-- Reads a statement that makes something behind its first word. -/
def readCreate (ts : Tokens) : Except Fault (Statement × Tokens) := do
  let isTemporary := startsWithOneOf ["temp", "temporary"] ts
  let ts := if isTemporary then ts.drop 1 else ts
  if startsWithWord "view" ts then readView (ts.drop 1)
  else if startsWithWord "trigger" ts then readTrigger (ts.drop 1)
  else if isTemporary then do
    let ts ← expectWord "table" ts
    readTable ts
  else if startsWithWord "index" ts then readIndex false (ts.drop 1)
  else if startsWithWord "unique" ts then do
    let ts ← expectWord "index" (ts.drop 1)
    readIndex true ts
  else if startsWithWord "virtual" ts then do
    let ts ← expectWord "table" (ts.drop 1)
    let (_, ts) ← skipIfMissing ts
    let (_, ts) ← readObjectName ts
    let ts ← expectWord "using" ts
    let (module, _) ← readName ts
    .error (.plain ("no such module: " ++ module))
  else do
    let ts ← expectWord "table" ts
    readTable ts

end Rulebook.Sql
