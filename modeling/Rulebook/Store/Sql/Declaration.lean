import Rulebook.Store.Sql.Expression
import Rulebook.Store.Table.Basic

/-!
# Declarations of columns

A column is declared by a type, which may be missing, and constraints behind it. Some constraints
are about the values of the column, others about the rows of its table.

* `column_affinity`: the affinity of a column is that of its type;
* `column_isRequired`: row numbers are never missing.
-/

namespace Rulebook.Sql

/-! ## Constraints -/

/-- What constraints say of a column. -/
structure Constraints where
  /-- The name that the next conditions are known by. -/
  label : Option String
  collation : Collation
  isPrimary : Bool
  isDescending : Bool
  isUnique : Bool
  isRequired : Bool
  isCounted : Bool
  default : Cell
  checks : List (String × Expression)
  references : List Reference
  generated : Option Expression

def Constraints.none : Constraints :=
  ⟨Option.none, .binary, false, false, false, false, false, .null, [], [], Option.none⟩

/-- Passes what is to be done when a constraint fails. -/
def skipConflict (ts : Tokens) : Except Fault Tokens :=
  if startsWithWord "on" ts then do
    let ts ← expectWord "conflict" (ts.drop 1)
    expectOneOf ["rollback", "abort", "fail", "ignore", "replace"] ts
  else .ok ts

def readPrimary (c : Constraints) (ts : Tokens) : Except Fault (Constraints × Tokens) := do
  let ts ← expectWord "key" ts
  let descending := startsWithWord "desc" ts
  let ts := if descending then ts.drop 1 else skipWord "asc" ts
  let ts ← skipConflict ts
  let counted := startsWithWord "autoincrement" ts
  return ({ c with isPrimary := true, isDescending := descending, isCounted := counted },
    skipWord "autoincrement" ts)

/-- What may follow the declaration of a column, or stand in it. -/
def mayFollowPart (t : Token) : Bool := t.isSymbol "," || t.isSymbol ")" || t.kind == .word

def notConstant (column : String) : Fault :=
  .plain ("default value of column [" ++ column ++ "] is not constant")

/-- A value behind a sign. -/
def readSigned (negative : Bool) : Parser Cell
  | t :: ts =>
    if t.kind = .number then .ok (numberCell negative t.text, ts)
    else
      match literalOf? t with
      | some c =>
        if isTruthWord [t] then .error (.misplaced t)
        else .ok (if negative then c.negate else c, ts)
      | none => .error (.misplaced t)
  | [] => .error .incomplete

/-- A value that a column has where none is stated: an expression in parentheses, a value that is
written out, or a name. -/
def readDefault (column : String) : Parser Cell
  | [] => .error .incomplete
  | t :: ts =>
    if t.isSymbol "(" then do
      let ((_, e), ts) ← readCondition (t :: ts)
      if e.fields.all FieldName.mayBeText then return (e.constant, ts)
      else .error ((notConstant column).before mayFollowPart ts)
    else if t.isSymbol "-" then readSigned true ts
    else if t.isSymbol "+" then readSigned false ts
    else
      match literalOf? t with
      | some c => .ok (c, ts)
      | none =>
        if timeWords.any fun word => t.isWord word then .ok (.null, ts)
        else if isName t then .ok (.text t.nameOf, ts)
        else .error (.misplaced t)

/-- Passes the actions of a reference. -/
def skipActions : Nat → Tokens → Except Fault Tokens
  | 0, ts => .ok ts
  | fuel + 1, ts =>
    if startsWithWord "match" ts then do
      let (_, ts) ← readName (ts.drop 1)
      skipActions fuel ts
    else if startsWithWord "on" ts then do
      let ts ← expectOneOf ["delete", "update", "insert"] (ts.drop 1)
      let ts ←
        if startsWithWord "set" ts then expectOneOf ["null", "default"] (ts.drop 1)
        else if startsWithWord "no" ts then expectWord "action" (ts.drop 1)
        else expectOneOf ["cascade", "restrict"] ts
      skipActions fuel ts
    else .ok ts

/-- A table that columns refer to, with columns of it perhaps, behind the word for it; `ofColumn`
says whether a single column declares it. -/
def readReference (ofColumn : Bool) (columns : List String) (ts : Tokens) :
    Except Fault (Reference × Tokens) := do
  let place := ts
  let (target, ts) ← readName ts
  let (targets, ts) ←
    if startsWithSymbol "(" ts then readNames ts.length (ts.drop 1) else .ok ([], ts)
  let ts ← skipActions ts.length ts
  if targets.isEmpty || targets.length == columns.length then
    return (⟨columns, target, targets⟩, ts)
  else
    let fault : Fault := match ofColumn, columns with
      | true, [column] =>
        .meaningless ⟨(place.head?).map Token.left, "foreign key on " ++ column ++
          " should reference only one column of table " ++ target⟩
      | _, _ =>
        .plain ("number of columns in foreign key does not match the number of columns in " ++
          "the referenced table")
    .error (fault.before mayFollowPart ts)

def skipDeferral (ts : Tokens) : Except Fault Tokens := do
  let ts ← expectWord "deferrable" ts
  if startsWithWord "initially" ts then expectOneOf ["deferred", "immediate"] (ts.drop 1)
  else .ok ts

def readCollation : Parser Collation
  | t :: ts =>
    if isName t then
      match Collation.ofName? t.nameOf with
      | some collation => .ok (collation, ts)
      | none => .error (.plain ("no such collation sequence: " ++ t.nameOf))
    else .error (.misplaced t)
  | [] => .error .incomplete

/-- An expression that a column is worked out from, and perhaps whether the result is kept. -/
def readGenerated (column : String) (ts : Tokens) : Except Fault (Expression × Tokens) := do
  let ((_, e), ts) ← readCondition ts
  match ts with
  | t :: rest =>
    if t.isWord "stored" || t.isWord "virtual" then return (e, rest)
    else if t.kind == .word && isName t then
      .error (.plain ("error in generated column \"" ++ column ++ "\""))
    else return (e, ts)
  | [] => return (e, [])

def Constraints.named (c : Constraints) (check : String × Expression) : String × Expression :=
  (c.label.getD check.1, check.2)

/-- Reads one constraint of a column, which its first word tells. -/
def readConstraint (column : String) (c : Constraints) (word : String) (t : Token) (ts : Tokens) :
    Except Fault (Constraints × Tokens) :=
  match word with
  | "constraint" => (readName ts).map fun (name, ts) => ({ c with label := some name }, ts)
  | "default" => (readDefault column ts).map fun (value, ts) => ({ c with default := value }, ts)
  | "null" => (skipConflict ts).map fun ts => (c, ts)
  | "not" =>
    if startsWithWord "deferrable" ts then (skipDeferral ts).map fun ts => (c, ts)
    else do
      let ts ← expectWord "null" ts
      let ts ← skipConflict ts
      return ({ c with isRequired := true }, ts)
  | "primary" => readPrimary c ts
  | "unique" => (skipConflict ts).map fun ts => ({ c with isUnique := true }, ts)
  | "check" => do
    let (check, ts) ← readCondition ts
    let ts ← skipConflict ts
    return ({ c with checks := c.checks ++ [c.named check] }, ts)
  | "references" =>
    (readReference true [column] ts).map fun (r, ts) =>
      ({ c with references := c.references ++ [r] }, ts)
  | "deferrable" => (skipDeferral (t :: ts)).map fun ts => (c, ts)
  | "collate" =>
    (readCollation ts).map fun (collation, ts) => ({ c with collation := collation }, ts)
  | "generated" => do
    let ts ← expectWords ["always", "as"] ts
    (readGenerated column ts).map fun (e, ts) => ({ c with generated := some e }, ts)
  | "as" => (readGenerated column ts).map fun (e, ts) => ({ c with generated := some e }, ts)
  | _ => .error (.misplaced t)

/-- Words that constraints of a column start with. -/
def constraintWords : List String :=
  ["as", "check", "collate", "constraint", "default", "deferrable", "generated", "not", "null",
    "primary", "references", "unique"]

/-- Reads constraints as far as there are any. -/
def readConstraints (column : String) : Nat → Constraints → Parser Constraints
  | 0, c, ts => .ok (c, ts)
  | _, c, [] => .ok (c, [])
  | fuel + 1, c, t :: ts =>
    if t.kind = .word ∧ constraintWords.contains (lowerText t) then do
      let (c, ts) ← readConstraint column c (lowerText t) t ts
      readConstraints column fuel c ts
    else .ok (c, t :: ts)

/-! ## Columns -/

/-- A column with what it demands of the rows of its table. -/
structure Declaration where
  column : Column
  rules : Rules

namespace Constraints

/-- A primary key of whole numbers holds the row numbers unless it is descending. -/
def holdsRowNumber (c : Constraints) (isWholeNumber : Bool) : Bool :=
  c.isPrimary && !c.isDescending && isWholeNumber

/-- The column of that name and type. -/
def column (c : Constraints) (name : String) (type : List Char) : Column :=
  let isWholeNumber := (unquoted type).map Char.toLower == "integer".toList
  let holds := c.holdsRowNumber isWholeNumber
  { name := name
    affinity := affinityOf type
    collation := c.collation
    isWholeNumber := isWholeNumber
    holdsRowNumber := holds
    isRequired := c.isRequired && !holds
    isCounted := c.isCounted && holds
    default := c.default
    generated := c.generated }

theorem column_affinity (c : Constraints) (name : String) (type : List Char) :
    (c.column name type).affinity = affinityOf type := rfl

theorem column_isRequired {c : Constraints} {name : String} {type : List Char}
    (h : (c.column name type).holdsRowNumber = true) :
    (c.column name type).isRequired = false := by
  have h : c.holdsRowNumber _ = true := h
  change (c.isRequired && !c.holdsRowNumber _) = false
  rw [h, Bool.not_true, Bool.and_false]

def rules (c : Constraints) (column : Column) : Rules :=
  let isKey := (c.isPrimary && !column.holdsRowNumber) || c.isUnique
  { checks := c.checks
    keys := if isKey then [[column.name]] else []
    primary := if c.isPrimary then [column.name] else []
    references := c.references
    isNumbered := true }

end Constraints

/-- What stands behind the name of a column. -/
def readColumn (name : String) : Parser Declaration := fun ts => do
  let (type, ts) ← readType ts
  let (c, ts) ← readConstraints name ts.length .none ts
  let column := c.column name type
  if c.isCounted && !column.holdsRowNumber then
    .error (.plain "AUTOINCREMENT is only allowed on an INTEGER PRIMARY KEY")
  else return (⟨column, c.rules column⟩, ts)

/-- The column that a text declares; one that declares none has a plain column. -/
def declared (name : String) (text : String) : Declaration :=
  match readColumn name (statementTokens (text.length + 1) text.toList) with
  | .ok (d, _) => d
  | .error _ => ⟨.plain name, .none⟩

/-- A name in double quotes. -/
def quotedName (name : String) : String :=
  "\"" ++ String.ofList (name.toList.flatMap fun c => if c = '"' then ['"', '"'] else [c]) ++ "\""

/-- A table without rows, whose columns are declared by names and texts. -/
def declaredTable (name : String) (columns : List (String × String)) : Table :=
  let texts := columns.map fun (column, text) =>
    if text = "" then quotedName column else quotedName column ++ " " ++ text
  let declarations := columns.map fun (column, text) => declared column text
  .empty name (declarations.map Declaration.column)
    ((declarations.map Declaration.rules).foldl Rules.append .none)
    ("CREATE TABLE " ++ quotedName name ++ " (" ++ ", ".intercalate texts ++ ")")

end Rulebook.Sql
