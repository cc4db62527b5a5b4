import Rulebook.Store.Sql.Parser

/-!
# Values and types

Values that are written out, and types of columns. A type is the text from its first word to its
last one; one that starts in quotes is what stands between them.

* `affinityOf_nil`: without a type values are kept as they are.
-/

namespace Rulebook.Sql

/-! ## Values -/

/-- The value of a number as written, with a sign in front of it perhaps; gaps between digits do not
count. -/
def numberCell (negative : Bool) (text : List Char) : Cell :=
  let text := text.filter (· != '_')
  match hexSize text with
  | some _ =>
    let n := (Digits.hexNumber? (text.drop 2)).getD 0 % Bits.count 64
    let i : Int := if n < Bits.count 63 then n else (n : Int) - Bits.count 64
    .integer (if negative then -i else i)
  | none =>
    match NumberText.read? (if negative then '-' :: text else text) with
    | some n => .ofNumeral n
    | none => .null

/-- Two hexadecimal digits for each byte. -/
def bytesOf : List Char → List Nat
  | a :: b :: rest => (Digits.hexNumber? [a, b]).getD 0 :: bytesOf rest
  | _ => []

/-- The value of a token that is written out, if it is one. -/
def literalOf? (t : Token) : Option Cell :=
  match t.kind with
  | .number => some (numberCell false t.text)
  | .text => some (.text t.nameOf)
  | .bytes => some (.blob (bytesOf ((t.text.drop 2).takeWhile isHex)))
  | .word =>
    if t.isWord "null" then some .null
    else if t.isWord "true" then some (.integer 1)
    else if t.isWord "false" then some (.integer 0)
    else none
  | _ => none

/-! ## Types -/

/-- The number of a size, with a sign perhaps. -/
def expectSigned (ts : Tokens) : Except Fault Tokens :=
  let ts := if startsWithSymbol "+" ts || startsWithSymbol "-" ts then ts.drop 1 else ts
  match ts with
  | t :: rest => if t.kind = .number then .ok rest else .error (.misplaced t)
  | [] => .error .incomplete

/-- Passes a size in parentheses, or two, if there are any. -/
def skipSizes (ts : Tokens) : Except Fault Tokens :=
  if startsWithSymbol "(" ts then do
    let ts ← expectSigned (ts.drop 1)
    let ts ← if startsWithSymbol "," ts then expectSigned (ts.drop 1) else .ok ts
    expectSymbol ")" ts
  else .ok ts

/-- The text from the start of a token to the end of the tokens passed behind it. -/
def spanned (t : Token) (passed : Tokens) : List Char :=
  let last := (passed.getLast?).getD t
  (t.text ++ t.rest).take (t.text.length + t.rest.length - last.rest.length)

def trimBack (text : List Char) : List Char := (text.reverse.dropWhile isBlank).reverse

/-- What stands before a word at the end of a text, in either case. -/
def beforeWord? (word : String) (text : List Char) : Option (List Char) :=
  let before := text.take (text.length - word.length)
  if word.length ≤ text.length ∧ (text.drop before.length).map Char.toLower = word.toList then
    some (trimBack before)
  else none

/-- A type without words at its end that tell that a column is worked out. -/
def bareType (type : List Char) : List Char :=
  if type.length < "generated always".length then type
  else
    match beforeWord? "always" type with
    | none => type
    | some type => (beforeWord? "generated" type).getD type

/-- The type of a column as written, empty if there is none. -/
def readType : Parser (List Char)
  | [] => .ok ([], [])
  | t :: ts =>
    if isName t then do
      let after ← skipSizes (ts.dropWhile isName)
      return (bareType (spanned t (ts.take (ts.length - after.length))), after)
    else .ok ([], t :: ts)

/-- The affinity of a type; one in quotes with nothing between them is numeric. -/
def affinityOf (type : List Char) : Affinity :=
  match type, unquoted type with
  | [], _ => .none
  | _, [] => .numeric
  | _, type => .ofDeclared type

theorem affinityOf_nil : affinityOf [] = .none := rfl

end Rulebook.Sql
