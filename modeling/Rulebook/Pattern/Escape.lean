import Rulebook.Pattern.Flags
import Rulebook.Unicode.Named

/-!
# Escapes

What a backslash and the characters behind it stand for in a pattern.
-/

namespace Rulebook.Pattern

inductive Escape where
  | char (c : Char)
  | set (s : CharSet)
  | edge (e : Edge)

namespace Escape

/-! ## Characters by number -/

def hexWidth (c : Char) : Option Nat :=
  if c = 'x' then some 2 else if c = 'u' then some 4 else if c = 'U' then some 8 else none

def charOfHex (digits : List Char) : Option Char :=
  if digits.isEmpty then none else (Digits.hexNumber? digits).bind Digits.charOf?

def takeHex (flags : Flags) : Nat → List Char → Option (List Char × List Char)
  | 0, text => some ([], text)
  | n + 1, text =>
    match flags.skip text with
    | [] => none
    | c :: rest => (takeHex flags n rest).map fun (digits, rest) => (c :: digits, rest)

/-- Digits in braces, or exactly as many as `width`. Two digits stand for a byte, which must be
an ASCII character where only those are known. -/
def readHex (flags : Flags) (width : Nat) (text : List Char) : Option (Escape × List Char) :=
  match flags.skip text with
  | '{' :: rest =>
    match flags.take (· != '}') false rest with
    | (digits, _ :: rest) => (charOfHex digits).map fun c => (char c, rest)
    | (_, []) => none
  | rest => do
    let (digits, rest) ← takeHex flags width rest
    let c ← charOfHex digits
    if flags.ascii ∧ width = 2 ∧ 128 ≤ c.toNat then none else some (char c, rest)

/-! ## Sets -/

/-- Splits a text in front of the first place where a mark stands, and behind the mark. -/
def splitAt? (mark : List Char) : List Char → Option (List Char × List Char)
  | [] => none
  | c :: rest =>
    if mark.isPrefixOf (c :: rest) then some ([], (c :: rest).drop mark.length)
    else (splitAt? mark rest).map fun (front, back) => (c :: front, back)

/-- A property, alone or behind its kind. -/
def namedSet (name : List Char) : Option CharSet :=
  match splitAt? ['!', '='] name, splitAt? [':'] name, splitAt? ['='] name with
  | some (kind, name), _, _ => Unicode.namedBy? kind name
  | none, some (kind, name), _ => Unicode.namedBy? kind name
  | none, none, some (kind, name) => Unicode.namedBy? kind name
  | none, none, none => Unicode.named? name

/-- Reads a name of one letter, or a name in braces. -/
def readNamedSet (flags : Flags) (negated : Bool) (text : List Char) :
    Option (Escape × List Char) := do
  if flags.ascii then none
  let (name, rest) ←
    match flags.skip text with
    | '{' :: rest =>
      match flags.take (· != '}') false rest with
      | (name, _ :: rest) => some (name, rest)
      | (_, []) => none
    | c :: rest => if c = '\\' then none else some ([c], rest)
    | [] => none
  let s ← namedSet name
  let s ← flags.finish negated s
  some (set s, rest)

/-- The sets of one letter; a capital stands for the complement. -/
def letterSet (flags : Flags) (c : Char) : Option CharSet :=
  if c = 'd' ∨ c = 'D' then
    flags.negate (c = 'D') (if flags.ascii then .range '0' '9' else Unicode.digit)
  else if c = 's' ∨ c = 'S' then
    flags.negate (c = 'S') (if flags.ascii then .ofText "9-D 20" else Unicode.blank)
  else if c = 'w' ∨ c = 'W' then
    flags.negate (c = 'W') (if flags.ascii then asciiWord else Unicode.word)
  else none

def isSetLetter (c : Char) : Bool := ['d', 's', 'w', 'D', 'S', 'W'].contains c

/-! ## Tests of positions -/

def namedWordEdge (name : List Char) : Option WordEdge :=
  if name = "start".toList then some .start
  else if name = "end".toList then some .stop
  else if name = "start-half".toList then some .startHalf
  else if name = "end-half".toList then some .stopHalf
  else none

/-- Reads what follows `\b`: the edge of a word, or the one named in braces. Braces that do not
begin with a letter or a hyphen belong to a repetition. -/
def readWordEdge (flags : Flags) (text : List Char) : Option (Escape × List Char) :=
  match text with
  | '{' :: rest =>
    match flags.take (fun c => c.isAlpha || c == '-') false rest with
    | ([], []) => none
    | ([], _) => some (edge (.word .edge flags.ascii), text)
    | (name, '}' :: rest) =>
      (namedWordEdge name).map fun kind => (edge (.word kind flags.ascii), rest)
    | _ => none
  | rest => some (edge (.word .edge flags.ascii), rest)

def edgeEscape (flags : Flags) (c : Char) : Option Edge :=
  if c = 'A' then some .start
  else if c = 'z' then some .stop
  else if c = 'B' then some (.word .noEdge flags.ascii)
  else if c = '<' then some (.word .start flags.ascii)
  else if c = '>' then some (.word .stop flags.ascii)
  else none

/-! ## All escapes -/

def controlEscape (c : Char) : Option Char :=
  if c = 'a' then some '\x07'
  else if c = 'f' then some '\x0c'
  else if c = 't' then some '\t'
  else if c = 'n' then some '\n'
  else if c = 'r' then some '\r'
  else if c = 'v' then some '\x0b'
  else none

/-- Reads what follows a backslash. Any ASCII character that is no letter or digit may be
escaped and then stands for itself. -/
def read (flags : Flags) : List Char → Option (Escape × List Char)
  | [] => none
  | c :: rest =>
    match hexWidth c, controlEscape c, edgeEscape flags c with
    | some width, _, _ => readHex flags width rest
    | _, some d, _ => some (char d, rest)
    | _, _, some e => some (edge e, rest)
    | none, none, none =>
      if c = 'p' ∨ c = 'P' then readNamedSet flags (c = 'P') rest
      else if c = 'b' then readWordEdge flags rest
      else if isSetLetter c then (letterSet flags c).map fun s => (set s, rest)
      else if c.toNat < 128 ∧ !c.isAlphanum then some (char c, rest)
      else none

end Escape

end Rulebook.Pattern
