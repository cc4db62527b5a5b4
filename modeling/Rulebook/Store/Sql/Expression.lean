import Rulebook.Store.Sql.Literal

/-!
# Reading expressions

Operators have levels: an operator takes as its right side all that stands at higher levels, and as
its left side what is read so far. What is not an operand where one is needed is misplaced; an
expression ends before the first token that does not continue it.

* `readOperators_nil`: an expression may end where the text ends.
-/

namespace Rulebook.Sql

/-! ## Operators -/

def notLevel : Nat := 3

/-- The level of tests such as `=` and `in`. -/
def testLevel : Nat := 4

def orderLevel : Nat := 5

def bitLevel : Nat := 7

/-- An operator, with its level. -/
def symbolOperators : List (String × Nat × Operator) :=
  [("=", testLevel, .equal), ("==", testLevel, .equal), ("<>", testLevel, .unequal),
    ("!=", testLevel, .unequal), ("<", orderLevel, .less), ("<=", orderLevel, .atMost),
    (">", orderLevel, .greater), (">=", orderLevel, .atLeast), ("&", bitLevel, .bitAnd),
    ("|", bitLevel, .bitOr), ("<<", bitLevel, .shiftLeft), (">>", bitLevel, .shiftRight),
    ("+", 8, .add), ("-", 8, .subtract), ("*", 9, .multiply), ("/", 9, .divide),
    ("%", 9, .remainder), ("||", 10, .join)]

def operatorOf? (t : Token) : Option (Nat × (Expression → Expression → Expression)) :=
  if t.isWord "or" then some (1, .binary .or)
  else if t.isWord "and" then some (2, .binary .and)
  else if t.isSymbol "->" || t.isSymbol "->>" then some (10, fun _ _ => .unknown)
  else
    (symbolOperators.find? fun o => t.isSymbol o.1).map fun (_, level, op) => (level, .binary op)

/-! ## Operands -/

def fieldName (t : Token) (table : Option String) (name : String) : FieldName :=
  ⟨table, name, t.left, table.isNone && t.text.head? == some '"'⟩

/-- The rest of a name behind its first part; of three parts the first one does not count. -/
def readField (t : Token) (ts : Tokens) : Except Fault (Expression × Tokens) := do
  if startsWithSymbol "." ts then
    let (second, ts) ← readName (ts.drop 1)
    if startsWithSymbol "." ts then
      let (third, ts) ← readName (ts.drop 1)
      return (.field (fieldName t (some second) third), ts)
    else return (.field (fieldName t (some t.nameOf) second), ts)
  else return (.field (fieldName t none t.nameOf), ts)

def startsQuery (ts : Tokens) : Bool :=
  startsWithWord "select" ts || startsWithWord "values" ts || startsWithWord "with" ts

/-- Words that stand for the time. -/
def timeWords : List String := ["current_date", "current_time", "current_timestamp"]

/-- Passes what may stand behind the arguments of a function, and says whether it does. -/
def skipWindow (ts : Tokens) : Except Fault (Bool × Tokens) := do
  let filtered := startsWithWord "filter" ts && startsWithSymbol "(" (ts.drop 1)
  let ts ← if filtered then expectGroup (ts.drop 1) else .ok ts
  if startsWithWord "over" ts then
    if startsWithSymbol "(" (ts.drop 1) then (expectGroup (ts.drop 1)).map fun ts => (true, ts)
    else (readName (ts.drop 1)).map fun (_, ts) => (true, ts)
  else return (filtered, ts)

/-- The character behind which others of a pattern stand for themselves. -/
def escapeOf : Expression → Option Char
  | .value (.text s) => s.toList.head?
  | _ => none

/-- One of some values. -/
def anyOf (a : Expression) : List Expression → Expression
  | [] => .value (.integer 0)
  | [b] => .binary .equal a (.plain b)
  | b :: rest => .binary .or (.binary .equal a (.plain b)) (anyOf a rest)

def isNull (e : Expression) : Expression := .binary .same e (.value .null)

/-- Whether the next word stands for true or false. -/
def isTruthWord (ts : Tokens) : Bool := startsWithWord "true" ts || startsWithWord "false" ts

mutual

/-- Reads an expression whose operators have at least a level. -/
def readLevel : Nat → Nat → Parser Expression
  | 0, _, ts => .error (wrong ts)
  | fuel + 1, level, ts => do
    let (a, ts) ← readOperand fuel ts
    readOperators fuel level a ts

/-- Expressions with commas between them. -/
def readList : Nat → Parser (List Expression)
  | 0, ts => .error (wrong ts)
  | fuel + 1, ts => do
    let (e, ts) ← readLevel fuel 0 ts
    if startsWithSymbol "," ts then
      let (es, ts) ← readList fuel (ts.drop 1)
      return (e :: es, ts)
    else return ([e], ts)

def readOperand : Nat → Parser Expression
  | _, [] => .error .incomplete
  | 0, ts => .error (wrong ts)
  | fuel + 1, t :: ts =>
    if t.isSymbol "-" then
      match ts with
      | n :: rest =>
        if n.kind = .number then .ok (.value (numberCell true n.text), rest)
        else (readOperand fuel ts).map fun (e, ts) => (.negate e, ts)
      | [] => .error .incomplete
    else if t.isSymbol "+" then (readOperand fuel ts).map fun (e, ts) => (.plain e, ts)
    else if t.isSymbol "~" then (readOperand fuel ts).map fun (e, ts) => (.invert e, ts)
    else if t.isWord "not" then (readLevel fuel notLevel ts).map fun (e, ts) => (.not e, ts)
    else if t.isSymbol "(" then
      if startsQuery ts then (skipGroup 0 ts).map fun ts => (.unknown, ts)
      else do
        let (es, ts) ← readList fuel ts
        let ts ← expectSymbol ")" ts
        match es with
        | [e] => return (e, ts)
        | _ => return (.unknown, ts)
    else if t.isWord "exists" then (expectGroup ts).map fun ts => (.unknown, ts)
    else if t.isWord "case" then
      if startsWithWord "when" ts then readBranches fuel none ts
      else do
        let (e, ts) ← readLevel fuel 0 ts
        readBranches fuel (some e) ts
    else if t.isWord "cast" && startsWithSymbol "(" ts then do
      let (e, ts) ← readLevel fuel 0 (ts.drop 1)
      let ts ← expectWord "as" ts
      let (type, ts) ← readType ts
      let ts ← expectSymbol ")" ts
      return (.cast (affinityOf type) e, ts)
    else if t.kind = .parameter then .ok (.value .null, ts)
    else if t.kind = .text && startsWithSymbol "." ts then readField t ts
    else
      match literalOf? t with
      | some c => .ok (.value c, ts)
      | none =>
        if !isName t then .error (.misplaced t)
        else if startsWithSymbol "(" ts then readCall fuel (fieldName t none t.nameOf) (ts.drop 1)
        else if timeWords.any fun word => t.isWord word then .ok (.unknown, ts)
        else readField t ts

/-- The arguments of a function behind the opening parenthesis. -/
def readCall : Nat → FieldName → Parser Expression
  | 0, _, ts => .error (wrong ts)
  | fuel + 1, f, ts => do
    let ts := skipWord "all" (skipWord "distinct" ts)
    let (es, ts) ←
      if startsWithSymbol ")" ts then .ok ([], ts)
      else if startsWithSymbol "*" ts then .ok ([], ts.drop 1)
      else readList fuel ts
    let ts ← expectSymbol ")" ts
    let (isWindow, ts) ← skipWindow ts
    return (if isWindow then .unknown else .call f es, ts)

/-- The branches of a choice, by conditions or by values that something is compared with. -/
def readBranches : Nat → Option Expression → Parser Expression
  | 0, _, ts => .error (wrong ts)
  | fuel + 1, base, ts => do
    let ts ← expectWord "when" ts
    let (a, ts) ← readLevel fuel 0 ts
    let ts ← expectWord "then" ts
    let (b, ts) ← readLevel fuel 0 ts
    let condition := match base with
      | some e => .binary .equal e a
      | none => a
    if startsWithWord "when" ts then
      let (rest, ts) ← readBranches fuel base ts
      return (.choose condition b rest, ts)
    else if startsWithWord "else" ts then
      let (c, ts) ← readLevel fuel 0 (ts.drop 1)
      let ts ← expectWord "end" ts
      return (.choose condition b c, ts)
    else
      let ts ← expectWord "end" ts
      return (.choose condition b (.value .null), ts)

/-- What continues an expression. -/
def readOperators : Nat → Nat → Expression → Parser Expression
  | _, _, a, [] => .ok (a, [])
  | 0, _, _, ts => .error (wrong ts)
  | fuel + 1, level, a, t :: ts =>
    match operatorOf? t with
    | some (l, make) =>
      if l < level then .ok (a, t :: ts)
      else do
        let (b, ts) ← readLevel fuel (l + 1) ts
        readOperators fuel level (make a b) ts
    | none =>
      if t.isWord "collate" then do
        let (name, ts) ← readName ts
        readOperators fuel level (.collate ((Collation.ofName? name).getD .binary) a) ts
      else if testLevel < level then .ok (a, t :: ts)
      else do
        match ← readTest fuel a (t :: ts) with
        | (some e, ts) => readOperators fuel level e ts
        | (none, _) => return (a, t :: ts)

/-- A test behind an expression, if one stands there. -/
def readTest : Nat → Expression → Parser (Option Expression)
  | 0, _, ts => .error (wrong ts)
  | _, _, [] => .ok (none, [])
  | fuel + 1, a, t :: ts =>
    if t.isWord "isnull" then .ok (some (isNull a), ts)
    else if t.isWord "notnull" then .ok (some (.not (isNull a)), ts)
    else if t.isWord "is" then do
      let negated := startsWithWord "not" ts
      let ts := skipWord "not" ts
      let distinct := startsWithWord "distinct" ts
      let ts ← if distinct then expectWord "from" (ts.drop 1) else .ok ts
      let (b, rest) ← readLevel fuel orderLevel ts
      let a := if isTruthWord ts && rest.length + 1 = ts.length then .not (.not a) else a
      return (some (.binary (if negated = distinct then .same else .different) a b), rest)
    else if t.isWord "not" then
      if startsWithWord "null" ts then .ok (some (.not (isNull a)), ts.drop 1)
      else do
        match ← readPredicate fuel a ts with
        | (some e, ts) => return (some (.not e), ts)
        | (none, _) => .error (wrong ts)
    else readPredicate fuel a (t :: ts)

/-- A test that may be negated by a word in front of it. -/
def readPredicate : Nat → Expression → Parser (Option Expression)
  | 0, _, ts => .error (wrong ts)
  | _, _, [] => .ok (none, [])
  | fuel + 1, a, t :: ts =>
    if t.isWord "like" || t.isWord "glob" || t.isWord "regexp" || t.isWord "match" then do
      let (b, ts) ← readLevel fuel orderLevel ts
      let (escape, ts) ←
        if startsWithWord "escape" ts then
          (readLevel fuel bitLevel (ts.drop 1)).map fun (e, ts) => (escapeOf e, ts)
        else .ok (none, ts)
      if t.isWord "like" then return (some (.binary (.like escape) a b), ts)
      else if t.isWord "glob" then return (some (.binary .glob a b), ts)
      else return (some .unknown, ts)
    else if t.isWord "between" then do
      let (low, ts) ← readLevel fuel testLevel ts
      let (low, ts) ←
        if startsWithWord "or" ts then readOperators fuel 1 low ts else .ok (low, ts)
      let ts ← expectWord "and" ts
      let (high, ts) ← readLevel fuel orderLevel ts
      return (some (.binary .and (.binary .atLeast a low) (.binary .atMost a high)), ts)
    else if t.isWord "in" then
      if startsWithSymbol "(" ts then
        if startsQuery (ts.drop 1) then
          (skipGroup 0 (ts.drop 1)).map fun ts => (some .unknown, ts)
        else if startsWithSymbol ")" (ts.drop 1) then .ok (some (anyOf a []), ts.drop 2)
        else do
          let (es, ts) ← readList fuel (ts.drop 1)
          let ts ← expectSymbol ")" ts
          return (some (anyOf a es), ts)
      else do
        let (_, ts) ← readName ts
        let ts ← if startsWithSymbol "." ts then (readName (ts.drop 1)).map Prod.snd else .ok ts
        let ts ← if startsWithSymbol "(" ts then expectGroup ts else .ok ts
        return (some .unknown, ts)
    else .ok (none, t :: ts)

end

theorem readOperators_nil (fuel level : Nat) (a : Expression) :
    readOperators fuel level a [] = .ok (a, []) := by
  cases fuel <;> simp [readOperators]

/-- More steps than an expression of these tokens takes. -/
def expressionFuel (ts : Tokens) : Nat := 8 * (ts.length + 1)

def readExpression (ts : Tokens) : Except Fault (Expression × Tokens) :=
  readLevel (expressionFuel ts) 0 ts

def readExpressions (ts : Tokens) : Except Fault (List Expression × Tokens) :=
  readList (expressionFuel ts) ts

/-- An expression in parentheses, with its text; of a text that starts with a quote only what is
between quotes. -/
def readCondition (ts : Tokens) : Except Fault ((String × Expression) × Tokens) := do
  let inside ← expectSymbol "(" ts
  let (e, after) ← readExpression inside
  let text := match inside with
    | t :: rest => spanned t (rest.take (rest.length - after.length))
    | [] => []
  let after ← expectSymbol ")" after
  return ((String.ofList (unquoted text), e), after)

end Rulebook.Sql
