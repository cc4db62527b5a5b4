import Rulebook.Text.Digits

/-!
# Words of SQL

A text is cut into words, names and texts in quotes, numbers, bytes, parameters and symbols. Blanks
and comments are left out. What is no word stands at the place where it is met.

* `first_text_append_rest`: a token and what stands behind it make up the text.
-/

namespace Rulebook.Sql

/-! ## Characters -/

/-- Blanks between words, among them the byte order mark. -/
def isBlank (c : Char) : Bool :=
  c == ' ' || c == '\t' || c == '\n' || c == '\x0c' || c == '\r' || c == '\ufeff'

/-- All characters beyond ASCII may stand in names. -/
def isNameStart (c : Char) : Bool := c.isAlpha || c == '_' || 0x80 ≤ c.toNat

def isNameChar (c : Char) : Bool := isNameStart c || c.isDigit || c == '$'

def isHex (c : Char) : Bool := (Digits.hexValue? c).isSome

/-! ## Tokens -/

inductive TokenKind where
  /-- A keyword or a name without quotes. -/
  | word
  /-- A name in double quotes, backticks or brackets. -/
  | name
  /-- A text in single quotes. -/
  | text
  | number
  | bytes
  | parameter
  | symbol
  /-- Nothing that SQL has a use for. -/
  | stray
  deriving DecidableEq

/-- A token as written, with what stands behind it. -/
structure Token where
  kind : TokenKind
  text : List Char
  rest : List Char
  deriving DecidableEq

namespace Token

def isSymbol (t : Token) (symbol : String) : Bool := t.kind == .symbol && t.text == symbol.toList

/-- Whether the token is that word, in either case; the word is given in lower case. -/
def isWord (t : Token) (word : String) : Bool :=
  t.kind == .word && t.text.map Char.toLower == word.toList

end Token

/-! ## Single tokens -/

/-- The token made of the first characters of a text. -/
def Token.first (kind : TokenKind) (size : Nat) (text : List Char) : Token :=
  ⟨kind, text.take size, text.drop size⟩

theorem Token.first_text_append_rest (kind : TokenKind) (size : Nat) (text : List Char) :
    (Token.first kind size text).text ++ (Token.first kind size text).rest = text :=
  List.take_append_drop size text

/-- The length of a text in quotes, from the opening quote on, and whether it is closed. A quote
inside is written twice. -/
def quotedSize (quote : Char) : Nat → List Char → Nat × Bool
  | size, [] => (size, false)
  | size, [c] => if c = quote then (size + 1, true) else (size + 1, false)
  | size, c :: d :: rest =>
    if c = quote then
      if d = quote then quotedSize quote (size + 2) rest else (size + 1, true)
    else quotedSize quote (size + 1) (d :: rest)

def quoted (kind : TokenKind) (quote : Char) (text : List Char) : Token :=
  let (size, closed) := quotedSize quote 1 (text.drop 1)
  .first (if closed then kind else .stray) size text

/-- A name in brackets ends with the first closing one. -/
def bracketed (text : List Char) : Token :=
  let inside := text.takeWhile (· != ']')
  if inside.length < text.length then .first .name (inside.length + 1) text
  else .first .stray inside.length text

def isDigitOrGap (c : Char) : Bool := c.isDigit || c == '_'

def isHexOrGap (c : Char) : Bool := isHex c || c == '_'

/-- The length of an exponent, if one stands at the front of a text. -/
def exponentSize : List Char → Nat
  | e :: c :: rest =>
    if e = 'e' ∨ e = 'E' then
      if c.isDigit then ((c :: rest).takeWhile isDigitOrGap).length + 1
      else if (c = '+' ∨ c = '-') ∧ (rest.head?.map Char.isDigit).getD false then
        (rest.takeWhile isDigitOrGap).length + 2
      else 0
    else 0
  | _ => 0

/-- The length of a fraction with its point, if one stands at the front of a text. -/
def fractionSize : List Char → Nat
  | '.' :: rest => (rest.takeWhile isDigitOrGap).length + 1
  | _ => 0

def decimalSize (text : List Char) : Nat :=
  let whole := (text.takeWhile isDigitOrGap).length
  let fraction := fractionSize (text.drop whole)
  whole + fraction + exponentSize (text.drop (whole + fraction))

def hexSize : List Char → Option Nat
  | '0' :: x :: c :: rest =>
    if (x = 'x' ∨ x = 'X') ∧ isHex c then some ((rest.takeWhile isHexOrGap).length + 3) else none
  | _ => none

/-- A number, behind which no character of a name may stand. -/
def number (text : List Char) : Token :=
  let size := (hexSize text).getD (decimalSize text)
  let more := ((text.drop size).takeWhile isNameChar).length
  .first (if more = 0 then .number else .stray) (size + more) text

/-- The length of a parameter behind its mark: characters of a name, pairs of colons, and something
in parentheses at its end. Says also how many characters of a name there are, and whether
parentheses are closed. -/
def parameterSize (size names : Nat) : List Char → Nat × Nat × Bool
  | [] => (size, names, true)
  | ':' :: ':' :: rest => parameterSize (size + 2) names rest
  | c :: rest =>
    if isNameChar c then parameterSize (size + 1) (names + 1) rest
    else if c = '(' ∧ 0 < names then
      let inside := rest.takeWhile fun d => !isBlank d && d != ')'
      if (rest.drop inside.length).head? = some ')' then (size + inside.length + 2, names, true)
      else (size + inside.length + 1, names, false)
    else (size, names, true)

def parameter (text : List Char) : Token :=
  let (size, names, closed) := parameterSize 1 0 (text.drop 1)
  .first (if 0 < names ∧ closed then .parameter else .stray) size text

/-- Bytes in hexadecimal digits, two for each. -/
def bytes (text : List Char) : Token :=
  let digits := (text.drop 2).takeWhile isHex
  let size := digits.length + 2
  if (text.drop size).head? = some '\x27' ∧ digits.length % 2 = 0 then .first .bytes (size + 1) text
  else
    let more := ((text.drop size).takeWhile (· != '\x27')).length
    .first .stray (min (size + more + 1) text.length) text

/-- Symbols of more than one character, longer ones first. -/
def longSymbols : List String := ["->>", "->", "==", "<=", "<>", "<<", ">=", ">>", "!=", "||"]

def isSymbolChar (c : Char) : Bool := "-();+*/%=<>|,&~.".toList.contains c

def symbolOf (text : List Char) : Token :=
  match longSymbols.find? fun s => s.toList.isPrefixOf text with
  | some s => .first .symbol s.length text
  | none => .first (if (text.head?.map isSymbolChar).getD false then .symbol else .stray) 1 text

/-- The token at the front of a text that is not empty and starts with no blank and no comment. -/
def tokenAt (text : List Char) : Token :=
  match text with
  | '\x27' :: _ => quoted .text '\x27' text
  | '"' :: _ => quoted .name '"' text
  | '\x60' :: _ => quoted .name '\x60' text
  | '[' :: _ => bracketed text
  | '?' :: rest => .first .parameter ((rest.takeWhile Char.isDigit).length + 1) text
  | c :: d :: _ =>
    if c.isDigit ∨ (c = '.' ∧ d.isDigit) then number text
    else if (c = 'x' ∨ c = 'X') ∧ d = '\x27' then bytes text
    else if isNameStart c then .first .word (text.takeWhile isNameChar).length text
    else if c = '$' ∨ c = '@' ∨ c = '#' ∨ c = ':' then parameter text
    else symbolOf text
  | [c] =>
    if c.isDigit then .first .number 1 text
    else if isNameStart c then .first .word 1 text
    else symbolOf text
  | [] => ⟨.stray, [], []⟩

/-! ## Blanks and comments -/

/-- What follows `*/`; a comment that is not closed reaches to the end. -/
def afterComment : List Char → List Char
  | '*' :: '/' :: rest => rest
  | _ :: rest => afterComment rest
  | [] => []

/-- Drops blanks and comments. -/
def skipBlanks : Nat → List Char → List Char
  | 0, text => text
  | fuel + 1, text =>
    match text.dropWhile isBlank with
    | '-' :: '-' :: rest => skipBlanks fuel (rest.dropWhile (· != '\n'))
    | '/' :: '*' :: c :: rest => skipBlanks fuel (afterComment (c :: rest))
    | rest => rest

/-- The next token of a text, if there is one. -/
def nextToken? (text : List Char) : Option Token :=
  match skipBlanks text.length text with
  | [] => none
  | c :: rest => some (tokenAt (c :: rest))

/-- Whether tokens start a statement that holds other statements. -/
def holdsStatements : List Token → Bool
  | c :: t :: rest =>
    c.isWord "create" &&
      (t.isWord "trigger" || ((t.isWord "temp" || t.isWord "temporary") &&
        (rest.head?.map fun t => t.isWord "trigger").getD false))
  | _ => false

/-- Whether a statement goes on behind a semicolon; `before` are its tokens, the last one first. One
that holds others ends behind a semicolon and the word `end`. -/
def goesOn (before : List Token) : Bool :=
  holdsStatements before.reverse &&
    match before with
    | e :: s :: _ => !(e.isWord "end" && s.isSymbol ";")
    | _ => true

/-- The tokens of a statement behind some of its tokens, which are given with the last one first. -/
def tokensFrom : Nat → List Token → List Char → List Token
  | 0, before, _ => before.reverse
  | fuel + 1, before, text =>
    match nextToken? text with
    | none => before.reverse
    | some t =>
      if t.isSymbol ";" && !goesOn before then (t :: before).reverse
      else tokensFrom fuel (t :: before) t.rest

/-- The tokens of a text up to a semicolon, which is the last of them. Semicolons that nothing
stands before are passed. -/
def statementTokens : Nat → List Char → List Token
  | 0, _ => []
  | fuel + 1, text =>
    match nextToken? text with
    | none => []
    | some t =>
      if t.isSymbol ";" then statementTokens fuel t.rest else tokensFrom fuel [t] t.rest

end Rulebook.Sql
