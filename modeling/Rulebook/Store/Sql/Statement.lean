import Rulebook.Store.Sql.Creation

/-!
# Reading statements

A statement is read by its first word. Statements that have no effect on tables are accepted.

* `finishStatement_nil`, `finishStatement_semicolon`: where a statement may end.
-/

namespace Rulebook.Sql

open Statement

/-! ## Dropping and altering -/

def skipIfPresent (ts : Tokens) : Except Fault (Bool × Tokens) :=
  if startsWithWord "if" ts then (expectWord "exists" (ts.drop 1)).map fun ts => (true, ts)
  else .ok (false, ts)

def readDrop (ts : Tokens) : Except Fault (Statement × Tokens) := do
  match [ObjectKind.table, .view, .index, .trigger].find? fun k => startsWithWord k.name ts with
  | none => .error (wrong ts)
  | some kind =>
    let (ifPresent, ts) ← skipIfPresent (ts.drop 1)
    let (name, ts) ← readObjectName ts
    return (.drop kind ifPresent name, ts)

/-- The size of the text from the first of some tokens on. -/
def leftOf (ts : Tokens) : Nat := (ts.head?.map Token.left).getD 0

def readAlteration (ts : Tokens) : Except Fault (Alteration × Tokens) := do
  if startsWithWord "rename" ts then
    if startsWithWord "to" (ts.drop 1) then
      let (name, ts) ← readName (ts.drop 2)
      return (.rename name, ts)
    else
      let place := leftOf (skipWord "column" (ts.drop 1))
      let (column, ts) ← readName (skipWord "column" (ts.drop 1))
      let ts ← expectWord "to" ts
      let (name, ts) ← readName ts
      return (.renameColumn column place name, ts)
  else if startsWithWord "add" ts then
    let (name, ts) ← readName (skipWord "column" (ts.drop 1))
    let (d, ts) ← readColumn name ts
    return (.add d.column d.rules, ts)
  else if startsWithWord "drop" ts then
    let place := leftOf (skipWord "column" (ts.drop 1))
    let (column, ts) ← readName (skipWord "column" (ts.drop 1))
    return (.drop column place, ts)
  else .error (wrong ts)

def readAlter (ts : Tokens) : Except Fault (Statement × Tokens) := do
  let ts ← expectWord "table" ts
  let (name, ts) ← readObjectName ts
  let (change, ts) ← readAlteration ts
  return (.alter name change, ts)

/-! ## Rows -/

def conflictWords : List (String × OnConflict) :=
  [("rollback", .refuse), ("abort", .refuse), ("fail", .refuse), ("ignore", .ignore),
    ("replace", .replace)]

def readOnConflict (ts : Tokens) : Except Fault (OnConflict × Tokens) :=
  if startsWithWord "or" ts then
    match conflictWords.find? fun w => startsWithWord w.1 (ts.drop 1) with
    | some (_, onConflict) => .ok (onConflict, ts.drop 2)
    | none => .error (wrong (ts.drop 1))
  else .ok (.refuse, ts)

/-- Passes another name of a table, behind the word for it, and says whether there is one. -/
def skipAlias (ts : Tokens) : Except Fault (Bool × Tokens) :=
  if startsWithWord "as" ts then (readName (ts.drop 1)).map fun (_, ts) => (true, ts)
  else .ok (false, ts)

/-- Passes results of a statement on rows. -/
def skipReturning (ts : Tokens) : Except Fault Tokens :=
  if startsWithWord "returning" ts then (readResults ts.length (ts.drop 1)).map Prod.snd
  else .ok ts

/-- What is to be done with rows that others stand in the way of, behind the rows. -/
def readUpsert (onConflict : OnConflict) (ts : Tokens) : Except Fault (OnConflict × Tokens) := do
  if startsWithWord "on" ts then
    let ts ← expectWord "conflict" (ts.drop 1)
    let ts ← if startsWithSymbol "(" ts then expectGroup ts else .ok ts
    let (_, ts) ← readWhere ts
    let ts ← expectWord "do" ts
    if startsWithWord "nothing" ts then return (.ignore, ts.drop 1)
    else
      let ts ← expectWord "update" ts
      let ts ← expectWord "set" ts
      return (.ignore, ts.dropWhile fun t => !(t.isSymbol ";" || t.isWord "returning"))
  else return (onConflict, ts)

def readInsertedRows (ts : Tokens) : Except Fault (Rows × Tokens) :=
  if startsWithWord "values" ts then do
    let (parts, after) ← readSelections ts
    if parts.all fun s => match s.source with | .nothing => s.condition.isNone | _ => false then
      return (.values (parts.map fun s => s.results.filterMap fun
        | .one _ e => some e
        | .all => none), after)
    else return (.selected parts, after)
  else if startsWithWord "default" ts then
    (expectWord "values" (ts.drop 1)).map fun ts => (.default, ts)
  else if startsWithWord "with" ts then
    (skipRest ts).map fun ts => (.selected [], ts)
  else if startsWithWord "select" ts then
    (readSelections ts).map fun (parts, ts) => (.selected parts, ts)
  else .error (wrong ts)

def readInsert (onConflict : OnConflict) (ts : Tokens) : Except Fault (Statement × Tokens) := do
  let ts ← expectWord "into" ts
  let (name, ts) ← readObjectName ts
  let (_, ts) ← skipAlias ts
  let (columns, ts) : Option (List String) × Tokens ←
    if startsWithSymbol "(" ts then
      (readNames ts.length (ts.drop 1)).map fun (names, ts) => (some names, ts)
    else .ok (none, ts)
  let (rows, ts) ← readInsertedRows ts
  let (onConflict, ts) ← readUpsert onConflict ts
  let ts ← skipReturning ts
  return (.insert onConflict name columns rows, ts)

/-- Values that are assigned to columns, with commas between them. What is assigned to several
columns at once is not worked out. -/
def readAssignments : Nat → Parser (List (String × Expression))
  | 0, ts => .error (wrong ts)
  | fuel + 1, ts => do
    let (first, ts) ←
      if startsWithSymbol "(" ts then do
        let (_, ts) ← readNames ts.length (ts.drop 1)
        let ts ← expectSymbol "=" ts
        (readExpression ts).map fun (_, ts) => ([], ts)
      else do
        let (name, ts) ← readName ts
        let ts ← expectSymbol "=" ts
        (readExpression ts).map fun (e, ts) => ([(name, e)], ts)
    if startsWithSymbol "," ts then
      let (rest, ts) ← readAssignments fuel (ts.drop 1)
      return (first ++ rest, ts)
    else return (first, ts)

/-- A condition on rows of a table; under another name it is not worked out. -/
def readRowCondition (isRenamed : Bool) (ts : Tokens) :
    Except Fault (Option Expression × Tokens) :=
  (readWhere ts).map fun (e, ts) => (if isRenamed then e.map fun _ => .unknown else e, ts)

def readUpdate (ts : Tokens) : Except Fault (Statement × Tokens) := do
  let (onConflict, ts) ← readOnConflict ts
  let (name, ts) ← readObjectName ts
  let (isRenamed, ts) ← skipAlias ts
  let ts ← expectWord "set" ts
  let (assignments, ts) ← readAssignments ts.length ts
  let (isJoined, ts) ←
    if startsWithWord "from" ts then
      (readSources ts.length (ts.drop 1)).map fun (_, ts) => (true, ts)
    else .ok (false, ts)
  let (condition, ts) ← readRowCondition (isRenamed || isJoined) ts
  let ts ← skipReturning ts
  let assignments := if isRenamed || isJoined then [] else assignments
  return (.update onConflict name assignments condition, ts)

def readDelete (ts : Tokens) : Except Fault (Statement × Tokens) := do
  let ts ← expectWord "from" ts
  let (name, ts) ← readObjectName ts
  let (isRenamed, ts) ← skipAlias ts
  let (condition, ts) ← readRowCondition isRenamed ts
  let ts ← skipReturning ts
  return (.delete name condition, ts)

/-! ## Transactions -/

def skipTransactionName (ts : Tokens) : Tokens :=
  if startsWithWord "transaction" ts then skipName (ts.drop 1) else ts

def beginModes : List String := ["deferred", "immediate", "exclusive"]

def readBegin (ts : Tokens) : Tokens :=
  skipTransactionName (if startsWithOneOf beginModes ts then ts.drop 1 else ts)

def readRollback (ts : Tokens) : Except Fault (Statement × Tokens) :=
  let ts := skipTransactionName ts
  if startsWithWord "to" ts then
    (readName (skipWord "savepoint" (ts.drop 1))).map fun (name, ts) => (.rollbackTo name, ts)
  else .ok (.rollback, ts)

/-! ## Statements -/

/-- Words that are a statement by themselves. -/
def loneWords : List String := ["analyze", "reindex", "vacuum"]

def readPragma (ts : Tokens) : Except Fault (Statement × Tokens) := do
  let (_, ts) ← readObjectName ts
  if startsWithSymbol "(" ts then (expectGroup ts).map fun ts => (.nothing, ts)
  else if startsWithSymbol "=" ts then
    let ts := if startsWithSymbol "-" (ts.drop 1) || startsWithSymbol "+" (ts.drop 1) then
      ts.drop 2 else ts.drop 1
    match ts with
    | t :: rest =>
      let isValue := t.kind = .number || isName t || t.isWord "on" || t.isWord "delete" ||
        t.isWord "default"
      if isValue then return (.nothing, rest) else .error (.misplaced t)
    | [] => .error .incomplete
  else return (.nothing, ts)

def readAttach (ts : Tokens) : Except Fault (Statement × Tokens) := do
  let (_, ts) ← readExpression (skipWord "database" ts)
  let ts ← expectWord "as" ts
  let (_, ts) ← readExpression ts
  return (.nothing, ts)

def readDetach (ts : Tokens) : Except Fault (Statement × Tokens) := do
  let (name, _) ← readName (skipWord "database" ts)
  .error (.plain ("no such database: " ++ name))

/-- Reads a statement by its first word. -/
def readStatement : Parser Statement
  | [] => .error .incomplete
  | t :: ts =>
    if t.isWord "begin" then .ok (.start, readBegin ts)
    else if t.isWord "commit" || t.isWord "end" then .ok (.commit, skipTransactionName ts)
    else if t.isWord "rollback" then readRollback ts
    else if t.isWord "savepoint" then (readName ts).map fun (name, ts) => (.mark name, ts)
    else if t.isWord "release" then
      (readName (skipWord "savepoint" ts)).map fun (name, ts) => (.release name, ts)
    else if t.isWord "create" then readCreate ts
    else if t.isWord "drop" then readDrop ts
    else if t.isWord "alter" then readAlter ts
    else if t.isWord "insert" then do
      let (onConflict, ts) ← readOnConflict ts
      readInsert onConflict ts
    else if t.isWord "replace" then readInsert .replace ts
    else if t.isWord "update" then readUpdate ts
    else if t.isWord "delete" then readDelete ts
    else if t.isWord "select" || t.isWord "values" then
      (readSelections (t :: ts)).map fun (parts, ts) => (.select parts, ts)
    else if t.isWord "with" then
      if ts.isEmpty then .error .incomplete else (skipRest ts).map fun ts => (.nothing, ts)
    else if t.isWord "pragma" then readPragma ts
    else if t.isWord "attach" then readAttach ts
    else if t.isWord "detach" then readDetach ts
    else if loneWords.any fun word => t.isWord word then .ok (.nothing, skipName ts)
    else .error (.misplaced t)

/-- A statement ends at its semicolon or where its text ends. -/
def finishStatement (s : Statement) : Tokens → Except Fault Statement
  | [] => .ok s
  | t :: _ => if t.isSymbol ";" then .ok s else .error (.misplaced t)

theorem finishStatement_nil (s : Statement) : finishStatement s [] = .ok s := rfl

theorem finishStatement_semicolon (s : Statement) {t : Token} (h : t.isSymbol ";" = true)
    (ts : Tokens) : finishStatement s (t :: ts) = .ok s := by
  simp [finishStatement, h]

/-- Passes words that ask for how a statement would be carried out. -/
def skipExplain (ts : Tokens) : Except Fault (Bool × Tokens) :=
  if startsWithWord "explain" ts then
    if startsWithWord "query" (ts.drop 1) then
      (expectWord "plan" (ts.drop 2)).map fun ts => (true, ts)
    else .ok (true, ts.drop 1)
  else .ok (false, ts)

def isSelection : Statement → Bool
  | .select _ => true
  | _ => false

/-- The statement that tokens are. How another one than a selection would be carried out is not
worked out. -/
def statementOf (ts : Tokens) : Except Fault Statement := do
  let (isExplained, ts) ← skipExplain ts
  let (s, rest) ← readStatement ts
  let s ← finishStatement s rest
  return if isExplained && !isSelection s then .nothing else s

end Rulebook.Sql
