import Rulebook.Json.Numeral

/-!
# Reading JSON text

A text is one value with blanks around it. Reading fails on anything else, on numbers out of
range, on control characters and lone surrogates in strings, and on values nested too deep. Of
several members of one key the last is kept.
-/

namespace Rulebook.Json

/-- A reader takes a value from the front of a text. -/
abbrev Reader (α : Type) := List Char → Option (α × List Char)

def isBlank (c : Char) : Bool := c = ' ' || c = '\n' || c = '\t' || c = '\r'

def skipBlanks (text : List Char) : List Char := text.dropWhile isBlank

/-! ## Numerals -/

def takeDigits (text : List Char) : List Char × List Char :=
  (text.takeWhile Char.isDigit, text.dropWhile Char.isDigit)

def readFraction : Reader (Option (List Char))
  | '.' :: text =>
    match takeDigits text with
    | ([], _) => none
    | (digits, rest) => some (some digits, rest)
  | text => some (none, text)

def readExponentDigits (down : Bool) (text : List Char) :
    Option (Option (Bool × List Char) × List Char) :=
  match takeDigits text with
  | ([], _) => none
  | (digits, rest) => some (some (down, digits), rest)

def readExponent : Reader (Option (Bool × List Char))
  | c :: text =>
    if c = 'e' || c = 'E' then
      match text with
      | '+' :: text => readExponentDigits false text
      | '-' :: text => readExponentDigits true text
      | text => readExponentDigits false text
    else some (none, c :: text)
  | [] => some (none, [])

def readNumeral (negative : Bool) (text : List Char) : Option (Numeral × List Char) :=
  match takeDigits text with
  | ([], _) => none
  | ('0' :: _ :: _, _) => none
  | (whole, rest) => do
    let (fraction, rest) ← readFraction rest
    let (exponent, rest) ← readExponent rest
    some (⟨negative, whole, fraction, exponent⟩, rest)

def readNumber (negative : Bool) (text : List Char) : Option (Json × List Char) := do
  let (numeral, rest) ← readNumeral negative text
  let n ← numeral.toNumber
  some (number n, rest)

/-! ## Strings -/

def isHighSurrogate (n : Nat) : Bool := 0xD800 ≤ n && n < 0xDC00

def isLowSurrogate (n : Nat) : Bool := 0xDC00 ≤ n && n < 0xE000

def simpleEscape (c : Char) : Option Char :=
  if c = '"' || c = '\\' || c = '/' then some c
  else if c = 'b' then some '\x08'
  else if c = 'f' then some '\x0c'
  else if c = 'n' then some '\n'
  else if c = 'r' then some '\r'
  else if c = 't' then some '\t'
  else none

/-- The character of a surrogate pair. -/
def pairChar (high low : Nat) : Char :=
  Char.ofNat (0x10000 + (high - 0xD800) * 0x400 + (low - 0xDC00))

/-- The characters up to the closing quote, in reverse order. -/
def readStringFrom : List Char → List Char → Option (List Char × List Char)
  | _, [] => none
  | done, '"' :: rest => some (done, rest)
  | done, '\\' :: 'u' :: a :: b :: c :: d :: rest =>
    match Digits.hexNumber? [a, b, c, d] with
    | none => none
    | some high =>
      if isHighSurrogate high then
        match rest with
        | '\\' :: 'u' :: e :: f :: g :: h :: rest =>
          match Digits.hexNumber? [e, f, g, h] with
          | none => none
          | some low =>
            if isLowSurrogate low then readStringFrom (pairChar high low :: done) rest else none
        | _ => none
      else if isLowSurrogate high then none
      else readStringFrom (Char.ofNat high :: done) rest
  | done, '\\' :: c :: rest =>
    match simpleEscape c with
    | some x => readStringFrom (x :: done) rest
    | none => none
  | done, c :: rest => if c.toNat < 32 then none else readStringFrom (c :: done) rest

def readString (text : List Char) : Option (String × List Char) :=
  (readStringFrom [] text).map fun (done, rest) => (String.ofList done.reverse, rest)

/-! ## Values -/

def expect (word : List Char) (value : Json) (text : List Char) : Option (Json × List Char) :=
  if text.take word.length = word then some (value, text.drop word.length) else none

/-- The items after the first, up to the closing bracket, in reverse order. -/
def readItems (item : Reader Json) : Nat → List Json → Reader (List Json)
  | 0, _, _ => none
  | fuel + 1, done, text =>
    match skipBlanks text with
    | ']' :: rest => some (done, rest)
    | ',' :: rest => do
      let (v, rest) ← item (skipBlanks rest)
      readItems item fuel (v :: done) rest
    | _ => none

def readMember (item : Reader Json) : Reader (String × Json)
  | '"' :: text => do
    let (key, rest) ← readString text
    match skipBlanks rest with
    | ':' :: rest => do
      let (v, rest) ← item (skipBlanks rest)
      some ((key, v), rest)
    | _ => none
  | _ => none

/-- The members after the first, up to the closing brace. -/
def readMembers (item : Reader Json) : Nat → Members → Reader Members
  | 0, _, _ => none
  | fuel + 1, done, text =>
    match skipBlanks text with
    | '}' :: rest => some (done, rest)
    | ',' :: rest => do
      let ((key, v), rest) ← readMember item (skipBlanks rest)
      readMembers item fuel (done.insert key v) rest
    | _ => none

/-- Reads a value that starts at the first character and holds at most `depth` nested arrays and
objects. -/
def readValue : Nat → Reader Json
  | _, 'n' :: rest => expect ['u', 'l', 'l'] null rest
  | _, 't' :: rest => expect ['r', 'u', 'e'] (bool true) rest
  | _, 'f' :: rest => expect ['a', 'l', 's', 'e'] (bool false) rest
  | _, '"' :: rest => (readString rest).map fun (s, rest) => (string s, rest)
  | depth + 1, '[' :: rest =>
    match skipBlanks rest with
    | ']' :: rest => some (array [], rest)
    | text => do
      let (v, rest) ← readValue depth text
      let (items, rest) ← readItems (readValue depth) (rest.length + 1) [v] rest
      some (array items.reverse, rest)
  | depth + 1, '{' :: rest =>
    match skipBlanks rest with
    | '}' :: rest => some (object [], rest)
    | text => do
      let ((key, v), rest) ← readMember (readValue depth) text
      let (members, rest) ← readMembers (readValue depth) (rest.length + 1) [(key, v)] rest
      some (object members, rest)
  | _, '-' :: rest => readNumber true rest
  | _, text => readNumber false text

/-- Arrays and objects may be nested this deep. -/
def depthLimit : Nat := 127

def readWithin (depth : Nat) (text : String) : Option Json :=
  match readValue depth (skipBlanks text.toList) with
  | some (v, rest) => if (skipBlanks rest).isEmpty then some v else none
  | none => none

/-- The value of a JSON text, if it is one. -/
def read? (text : String) : Option Json := readWithin depthLimit text

end Rulebook.Json
