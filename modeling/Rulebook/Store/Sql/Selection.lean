import Rulebook.Store.Selection.Basic
import Rulebook.Store.Sql.Expression

/-!
# Reading selections

A selection names results, tables, a condition, and an order. Several of them may be joined by words
such as `union`.

* `ofRow_results`: a row of values is a selection of that many results.
-/

namespace Rulebook.Sql

/-! ## Names -/

/-- Words of joins, which are no names of results and tables. -/
def joinWords : List String := ["cross", "full", "inner", "left", "natural", "outer", "right"]

def startsWithOneOf (words : List String) (ts : Tokens) : Bool :=
  words.any fun word => startsWithWord word ts

/-- Another name, if one stands there. -/
def readAlias (ts : Tokens) : Except Fault (Option String × Tokens) :=
  if startsWithWord "as" ts then (readName (ts.drop 1)).map fun (name, ts) => (some name, ts)
  else if startsWithOneOf joinWords ts then .ok (none, ts)
  else
    match ts with
    | t :: rest => .ok (if isName t then (some t.nameOf, rest) else (none, t :: rest))
    | [] => .ok (none, [])

/-! ## Results -/

def readResult : Parser Selection.Result
  | [] => .error .incomplete
  | t :: ts =>
    if t.isSymbol "*" then .ok (.all, ts)
    else if isName t && startsWithSymbol "." ts && startsWithSymbol "*" (ts.drop 1) then
      .ok (.all, ts.drop 2)
    else do
      let (e, rest) ← readExpression (t :: ts)
      let text := String.ofList (spanned t (ts.take (ts.length - rest.length)))
      let (name, rest) ← readAlias rest
      return (.one (name.getD (Selection.outputName text e)) e, rest)

def readResults : Nat → Parser (List Selection.Result)
  | 0, ts => .error (wrong ts)
  | fuel + 1, ts => do
    let (r, ts) ← readResult ts
    if startsWithSymbol "," ts then
      let (rs, ts) ← readResults fuel (ts.drop 1)
      return (r :: rs, ts)
    else return ([r], ts)

/-! ## Tables -/

/-- A name, with a schema in front of it perhaps, which counts unless every database has it. -/
def readTableName (ts : Tokens) : Except Fault (String × Tokens) := do
  let (first, ts) ← readName ts
  if startsWithSymbol "." ts then
    let (name, ts) ← readName (ts.drop 1)
    let isLocal := sameName first "main" || sameName first "temp"
    return (if isLocal then name else first ++ "." ++ name, ts)
  else return (first, ts)

/-- A table with another name perhaps, or something else that rows are taken from. -/
def readSource (ts : Tokens) : Except Fault (Selection.Source × Tokens) :=
  if startsWithSymbol "(" ts then do
    let ts ← expectGroup ts
    let (_, ts) ← readAlias ts
    return (.several [], ts)
  else do
    let (name, ts) ← readTableName ts
    if startsWithSymbol "(" ts then
      let ts ← expectGroup ts
      let (_, ts) ← readAlias ts
      return (.several [], ts)
    else
      let (other, ts) ← readAlias ts
      return (.table name other, ts)

def tableNames : Selection.Source → List String
  | .nothing => []
  | .table name _ => [name]
  | .several names => names

/-- Passes the words and symbols of a join, if there is one. -/
def skipJoin (ts : Tokens) : Except Fault (Bool × Tokens) :=
  if startsWithSymbol "," ts then .ok (true, ts.drop 1)
  else if startsWithWord "join" ts then .ok (true, ts.drop 1)
  else if startsWithOneOf joinWords ts then
    let words := (ts.drop 1).takeWhile isName
    (expectWord "join" (ts.drop (words.length + 1))).map fun ts => (true, ts)
  else .ok (false, ts)

/-- Passes the condition of a join. -/
def skipJoinCondition (ts : Tokens) : Except Fault Tokens :=
  if startsWithWord "on" ts then (readExpression (ts.drop 1)).map Prod.snd
  else if startsWithWord "using" ts then expectGroup (ts.drop 1)
  else .ok ts

def readSources : Nat → Parser Selection.Source
  | 0, ts => .error (wrong ts)
  | fuel + 1, ts => do
    let (source, ts) ← readSource ts
    let ts ← skipJoinCondition ts
    let (joins, ts) ← skipJoin ts
    if joins then
      let (more, ts) ← readSources fuel ts
      return (.several (tableNames source ++ tableNames more), ts)
    else return (source, ts)

/-! ## Clauses -/

/-- Passes the direction of an order. -/
def skipDirection (ts : Tokens) : Except Fault Tokens :=
  let ts := skipWord "desc" (skipWord "asc" ts)
  if startsWithWord "nulls" ts then expectOneOf ["first", "last"] (ts.drop 1) else .ok ts

def readTerms : Nat → Parser (List Expression)
  | 0, ts => .error (wrong ts)
  | fuel + 1, ts => do
    let (e, ts) ← readExpression ts
    let ts ← skipDirection ts
    if startsWithSymbol "," ts then
      let (es, ts) ← readTerms fuel (ts.drop 1)
      return (e :: es, ts)
    else return ([e], ts)

def readWhere (ts : Tokens) : Except Fault (Option Expression × Tokens) :=
  if startsWithWord "where" ts then (readExpression (ts.drop 1)).map fun (e, ts) => (some e, ts)
  else .ok (none, ts)

def readGrouping (ts : Tokens) : Except Fault (List Expression × Tokens) := do
  let (groups, ts) ←
    if startsWithWord "group" ts then do
      let ts ← expectWord "by" (ts.drop 1)
      readExpressions ts
    else .ok ([], ts)
  if startsWithWord "having" ts then
    let (e, ts) ← readExpression (ts.drop 1)
    return (groups ++ [e], ts)
  else return (groups, ts)

/-- An order and a limit at the end. -/
def readOrder (ts : Tokens) : Except Fault (List Expression × Tokens) := do
  let (terms, ts) ←
    if startsWithWord "order" ts then do
      let ts ← expectWord "by" (ts.drop 1)
      readTerms ts.length ts
    else .ok ([], ts)
  if startsWithWord "limit" ts then
    let (limit, ts) ← readExpression (ts.drop 1)
    if startsWithWord "offset" ts || startsWithSymbol "," ts then
      let (offset, ts) ← readExpression (ts.drop 1)
      return (terms ++ [limit, offset], ts)
    else return (terms ++ [limit], ts)
  else return (terms, ts)

/-! ## Rows of values -/

/-- Rows in parentheses with commas between them. -/
def readRows : Nat → Parser (List (List Expression))
  | 0, ts => .error (wrong ts)
  | fuel + 1, ts => do
    let ts ← expectSymbol "(" ts
    let (row, ts) ← readExpressions ts
    let ts ← expectSymbol ")" ts
    if startsWithSymbol "," ts then
      let (rows, ts) ← readRows fuel (ts.drop 1)
      return (row :: rows, ts)
    else return ([row], ts)

/-- The columns of a row of values are numbered from `n`. -/
def numbered : List Expression → Nat → List Selection.Result
  | [], _ => []
  | e :: rest, n => .one ("column" ++ toString n) e :: numbered rest (n + 1)

def ofRow (row : List Expression) : Selection := ⟨numbered row 1, .nothing, none, []⟩

theorem length_numbered (row : List Expression) (n : Nat) :
    (numbered row n).length = row.length := by
  induction row generalizing n with
  | nil => rfl
  | cons e rest ih => simp [numbered, ih]

theorem ofRow_results (row : List Expression) : (ofRow row).results.length = row.length :=
  length_numbered row 1

/-- Rows have the same number of values. -/
def readValues (ts : Tokens) : Except Fault (List Selection × Tokens) := do
  let (rows, ts) ← readRows ts.length ts
  if rows.all fun row => row.length == (rows.head?.map List.length).getD 0 then
    return (rows.map ofRow, ts)
  else .error (.plain "all VALUES must have the same number of terms")

/-! ## Selections -/

/-- Passes a word that joins two selections. -/
def skipCompound (ts : Tokens) : Bool × Tokens :=
  if startsWithWord "union" ts then (true, skipWord "all" (ts.drop 1))
  else if startsWithOneOf ["except", "intersect"] ts then (true, ts.drop 1)
  else (false, ts)

/-- A selection behind its first word. -/
def readPart (ts : Tokens) : Except Fault (Selection × Tokens) := do
  let ts := skipWord "all" (skipWord "distinct" ts)
  let (results, ts) ← readResults ts.length ts
  let (source, ts) ←
    if startsWithWord "from" ts then readSources ts.length (ts.drop 1) else .ok (.nothing, ts)
  let (condition, ts) ← readWhere ts
  let (groups, ts) ← readGrouping ts
  return (⟨results, source, condition, groups⟩, ts)

/-- Reads selections up to their order. -/
def readParts : Nat → Parser (List Selection)
  | 0, ts => .error (wrong ts)
  | fuel + 1, ts => do
    let (parts, ts) ←
      if startsWithWord "values" ts then readValues (ts.drop 1)
      else ((expectWord "select" ts).bind readPart).map fun (s, ts) => ([s], ts)
    let (continues, ts) := skipCompound ts
    if continues then
      let (rest, ts) ← readParts fuel ts
      return (parts ++ rest, ts)
    else return (parts, ts)

/-- Reads selections with their order, which is that of the last one. -/
def readSelections (ts : Tokens) : Except Fault (List Selection × Tokens) := do
  let (parts, ts) ← readParts ts.length ts
  let (terms, ts) ← readOrder ts
  match parts.getLast? with
  | some s => return (parts.dropLast ++ [{ s with others := s.others ++ terms }], ts)
  | none => return (parts, ts)

end Rulebook.Sql
