import Rulebook.Json.Basic
import Rulebook.Number.Decimal

/-!
# JSON text

Compact text has no blanks; indented text puts every member and item on a line of its own, two
blanks deeper than its container. Objects are written in the order of their members.
-/

namespace Rulebook

namespace Number

/-- Positional from `0.00001` up to the digits of `10 ^ 15`, with `.0` after a whole number. -/
def layout : Decimal.Layout := ⟨-5, 15, true, false, 1⟩

def text : Number → List Char
  | whole i _ => (toString i).toList
  | float x => (if x.negative then ['-'] else []) ++ layout.text (Decimal.shortest .even x)

end Number

namespace Json

/-! ## Quoted strings -/

def hexDigit (n : Nat) : Char :=
  if n < 10 then Char.ofNat (n + '0'.toNat) else Char.ofNat (n - 10 + 'a'.toNat)

def escapeChar (c : Char) : List Char :=
  if c = '"' then ['\\', '"']
  else if c = '\\' then ['\\', '\\']
  else if c = '\x08' then ['\\', 'b']
  else if c = '\t' then ['\\', 't']
  else if c = '\n' then ['\\', 'n']
  else if c = '\x0c' then ['\\', 'f']
  else if c = '\r' then ['\\', 'r']
  else if c.toNat < 32 then
    ['\\', 'u', '0', '0', hexDigit (c.toNat / 16), hexDigit (c.toNat % 16)]
  else [c]

def quoted (s : String) : List Char :=
  '"' :: (s.toList.flatMap escapeChar ++ ['"'])

/-! ## Compact text -/

mutual

def compactChars : Json → List Char
  | null => ['n', 'u', 'l', 'l']
  | bool true => ['t', 'r', 'u', 'e']
  | bool false => ['f', 'a', 'l', 's', 'e']
  | number n => n.text
  | string s => quoted s
  | array [] => ['[', ']']
  | array (x :: xs) => '[' :: (compactChars x ++ compactItems xs)
  | object [] => ['{', '}']
  | object ((k, x) :: ms) => '{' :: (quoted k ++ ':' :: (compactChars x ++ compactMembers ms))

def compactItems : List Json → List Char
  | [] => [']']
  | x :: xs => ',' :: (compactChars x ++ compactItems xs)

def compactMembers : List (String × Json) → List Char
  | [] => ['}']
  | (k, x) :: ms => ',' :: (quoted k ++ ':' :: (compactChars x ++ compactMembers ms))

end

def compact (v : Json) : String := String.ofList v.compactChars

/-! ## Indented text -/

def newline (depth : Nat) : List Char := '\n' :: List.replicate (2 * depth) ' '

mutual

/-- The text of a value that stands at this depth. -/
def indentedChars : Nat → Json → List Char
  | _, null => ['n', 'u', 'l', 'l']
  | _, bool true => ['t', 'r', 'u', 'e']
  | _, bool false => ['f', 'a', 'l', 's', 'e']
  | _, number n => n.text
  | _, string s => quoted s
  | _, array [] => ['[', ']']
  | d, array (x :: xs) =>
    '[' :: (newline (d + 1) ++ indentedChars (d + 1) x ++ indentedItems d xs)
  | _, object [] => ['{', '}']
  | d, object ((k, x) :: ms) =>
    '{' :: (newline (d + 1) ++ quoted k ++ ':' :: ' ' :: indentedChars (d + 1) x ++
      indentedMembers d ms)

def indentedItems : Nat → List Json → List Char
  | d, [] => newline d ++ [']']
  | d, x :: xs => ',' :: (newline (d + 1) ++ indentedChars (d + 1) x ++ indentedItems d xs)

def indentedMembers : Nat → List (String × Json) → List Char
  | d, [] => newline d ++ ['}']
  | d, (k, x) :: ms =>
    ',' :: (newline (d + 1) ++ quoted k ++ ':' :: ' ' :: indentedChars (d + 1) x ++
      indentedMembers d ms)

end

def indented (v : Json) : String := String.ofList (indentedChars 0 v)

end Json

end Rulebook
