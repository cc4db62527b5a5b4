import Rulebook.Store.Expression.Basic
import Rulebook.Store.Sql.Token

/-!
# Reading tokens

A statement is read token by token. It is wrong from the first token on that cannot follow those
before it, or incomplete if there is none.

* `expectWord_of_isWord`, `expectWord_of_not`: the word that must come next, and its absence.
-/

namespace Rulebook.Sql

/-- Why a statement is refused. -/
inductive Fault where
  | incomplete
  /-- A token that cannot stand where it stands. -/
  | misplaced (t : Token)
  /-- A statement that means nothing. -/
  | meaningless (p : Expression.Problem)

/-- The size of the text from a token on. -/
def Token.left (t : Token) : Nat := (String.ofList (t.text ++ t.rest)).utf8ByteSize

def Fault.plain (message : String) : Fault := .meaningless ⟨none, message⟩

abbrev Tokens := List Token

/-- Reads something, and returns the tokens behind it. -/
abbrev Parser (α : Type) := Tokens → Except Fault (α × Tokens)

/-- The fault of the first of some tokens. -/
def wrong : Tokens → Fault
  | [] => .incomplete
  | t :: _ => .misplaced t

/-- A fault that is found only if the next token can stand where it stands. -/
def Fault.before (f : Fault) (mayFollow : Token → Bool) : Tokens → Fault
  | [] => .incomplete
  | t :: _ => if mayFollow t then f else .misplaced t

/-! ## Words and symbols -/

def startsWithWord (word : String) : Tokens → Bool
  | t :: _ => t.isWord word
  | [] => false

def startsWithSymbol (symbol : String) : Tokens → Bool
  | t :: _ => t.isSymbol symbol
  | [] => false

/-- Passes a word if it comes next. -/
def skipWord (word : String) (ts : Tokens) : Tokens :=
  if startsWithWord word ts then ts.drop 1 else ts

def expectWord (word : String) (ts : Tokens) : Except Fault Tokens :=
  if startsWithWord word ts then .ok (ts.drop 1) else .error (wrong ts)

def expectSymbol (symbol : String) (ts : Tokens) : Except Fault Tokens :=
  if startsWithSymbol symbol ts then .ok (ts.drop 1) else .error (wrong ts)

/-- Passes words one after another. -/
def expectWords : List String → Tokens → Except Fault Tokens
  | [], ts => .ok ts
  | word :: words, ts => (expectWord word ts).bind (expectWords words)

/-- Passes one of some words. -/
def expectOneOf (words : List String) (ts : Tokens) : Except Fault Tokens :=
  if words.any fun word => startsWithWord word ts then .ok (ts.drop 1) else .error (wrong ts)

theorem expectWord_of_isWord {word : String} {t : Token} (h : t.isWord word = true) (ts : Tokens) :
    expectWord word (t :: ts) = .ok ts := by
  simp [expectWord, startsWithWord, h]

theorem expectWord_of_not {word : String} {ts : Tokens} (h : startsWithWord word ts = false) :
    expectWord word ts = .error (wrong ts) := by
  simp [expectWord, h]

/-- Passes what stands in parentheses, whatever it is, behind the opening one. -/
def skipGroup : Nat → Tokens → Except Fault Tokens
  | _, [] => .error .incomplete
  | depth, t :: ts =>
    if t.kind = .stray ∨ t.isSymbol ";" then .error (.misplaced t)
    else if t.isSymbol "(" then skipGroup (depth + 1) ts
    else if t.isSymbol ")" then
      match depth with
      | 0 => .ok ts
      | depth + 1 => skipGroup depth ts
    else skipGroup depth ts

def expectGroup (ts : Tokens) : Except Fault Tokens :=
  (expectSymbol "(" ts).bind (skipGroup 0)

/-! ## Names -/

/-- Words that are no names unless they are quoted. -/
def reserved : List String :=
  ["add", "all", "alter", "and", "as", "autoincrement", "between", "case", "check", "collate",
    "commit", "constraint", "create", "default", "deferrable", "delete", "distinct", "drop",
    "else", "escape", "except", "exists", "foreign", "from", "group", "having", "in", "index",
    "insert", "intersect", "into", "is", "isnull", "join", "limit", "not", "nothing", "notnull",
    "null", "on", "or", "order", "primary", "references", "returning", "select", "set", "table",
    "then", "to", "transaction", "union", "unique", "update", "using", "values", "when", "where"]

def lowerText (t : Token) : String := String.ofList (t.text.map Char.toLower)

/-- What stands between quotes, where a quote is written twice. -/
def unquoteInside (quote : Char) : List Char → List Char
  | [] => []
  | [c] => if c = quote then [] else [c]
  | c :: d :: rest =>
    if c = quote then if d = quote then quote :: unquoteInside quote rest else []
    else c :: unquoteInside quote (d :: rest)

def unquoted (text : List Char) : List Char :=
  match text with
  | '[' :: rest => rest.takeWhile (· != ']')
  | quote :: rest =>
    if quote = '"' ∨ quote = '\x27' ∨ quote = '\x60' then unquoteInside quote rest else text
  | [] => []

/-- The name that a token stands for. -/
def Token.nameOf (t : Token) : String :=
  if t.kind = .word then String.ofList t.text else String.ofList (unquoted t.text)

def isName (t : Token) : Bool :=
  t.kind == .name || t.kind == .text || (t.kind == .word && !reserved.contains (lowerText t))

def readName : Parser String
  | t :: ts => if isName t then .ok (t.nameOf, ts) else .error (.misplaced t)
  | [] => .error .incomplete

/-- Passes a name if one comes next. -/
def skipName : Tokens → Tokens
  | t :: ts => if isName t then ts else t :: ts
  | [] => []

/-- Names with commas between them, and the parenthesis that closes them. -/
def readNames : Nat → Parser (List String)
  | 0, ts => .error (wrong ts)
  | fuel + 1, ts => do
    let (name, ts) ← readName ts
    if startsWithSymbol "," ts then
      let (names, ts) ← readNames fuel (ts.drop 1)
      return (name :: names, ts)
    else
      let ts ← expectSymbol ")" ts
      return ([name], ts)

end Rulebook.Sql
