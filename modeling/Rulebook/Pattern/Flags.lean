import Rulebook.Pattern.Basic
import Rulebook.Unicode.Blank
import Rulebook.Unicode.CaseFold

/-!
# Flags

What flags change about a pattern: whether case, line ends and blanks in the pattern count, which
characters the escapes know, and which matches repetitions prefer.
-/

namespace Rulebook.Pattern

structure Flags where
  ignoreCase : Bool
  multiLine : Bool
  dotAll : Bool
  preferShort : Bool
  /-- Carriage returns end lines, too. -/
  returns : Bool
  /-- Blanks and comments in the pattern do not count. -/
  spaced : Bool
  /-- Only ASCII characters are known. -/
  ascii : Bool

namespace Flags

def none : Flags := ⟨false, false, false, false, false, false, false⟩

def set (flags : Flags) (c : Char) (on : Bool) : Option Flags :=
  if c = 'i' then some { flags with ignoreCase := on }
  else if c = 'm' then some { flags with multiLine := on }
  else if c = 's' then some { flags with dotAll := on }
  else if c = 'U' then some { flags with preferShort := on }
  else if c = 'R' then some { flags with returns := on }
  else if c = 'x' then some { flags with spaced := on }
  else if c = 'u' then some { flags with ascii := !on }
  else Option.none

/-- Reads flags up to `:` or `)`, each at most once. A minus turns off the flags after it. -/
def read : List Char → Bool → Flags → List Char → Option (Flags × List Char)
  | _, _, _, [] => Option.none
  | seen, on, flags, c :: rest =>
    if c = ':' ∨ c = ')' then
      if seen.head? == some '-' then Option.none else some (flags, c :: rest)
    else if seen.contains c then Option.none
    else if c = '-' then read (c :: seen) false flags rest
    else match flags.set c on with
      | some flags => read (c :: seen) on flags rest
      | Option.none => Option.none

/-! ## Blanks and comments -/

/-- Skips blanks and comments; a comment goes up to the end of its line. -/
def skipFrom (inComment : Bool) : List Char → List Char
  | [] => []
  | c :: rest =>
    if inComment then skipFrom (c != '\n') rest
    else if Unicode.isBlank c then skipFrom false rest
    else if c = '#' then skipFrom true rest
    else c :: rest

def skip (flags : Flags) (text : List Char) : List Char :=
  if flags.spaced then skipFrom false text else text

/-- Takes characters of a kind from the front; blanks and comments between them are left out. -/
def take (flags : Flags) (p : Char → Bool) (inComment : Bool) :
    List Char → List Char × List Char
  | [] => ([], [])
  | c :: rest =>
    if inComment then take flags p (c != '\n') rest
    else if flags.spaced && Unicode.isBlank c then take flags p false rest
    else if flags.spaced && c == '#' then take flags p true rest
    else if p c then
      let (taken, rest) := take flags p false rest
      (c :: taken, rest)
    else ([], c :: rest)

/-- The first character that is no blank; here the sign of a comment counts as one, and the
comment does not end. -/
def peekFrom (inComment : Bool) : List Char → Option Char
  | [] => Option.none
  | c :: rest =>
    if Unicode.isBlank c then peekFrom inComment rest
    else if c = '#' ∧ !inComment then peekFrom true rest
    else some c

def peek (flags : Flags) (text : List Char) : Option Char :=
  if flags.spaced then peekFrom false text else text.head?

/-! ## Sets of characters -/

/-- A set with all variants in case, if case does not count. -/
def fold (flags : Flags) (s : CharSet) : CharSet :=
  if !flags.ignoreCase then s else if flags.ascii then s.foldAscii else s.fold

/-- The complement, if it is asked for; that of ASCII characters alone is none. -/
def negate (flags : Flags) (negated : Bool) (s : CharSet) : Option CharSet :=
  if !negated then some s else if flags.ascii then Option.none else some s.compl

def finish (flags : Flags) (negated : Bool) (s : CharSet) : Option CharSet :=
  flags.negate negated (flags.fold s)

/-- The characters that a dot stands for. -/
def dot (flags : Flags) : Option CharSet :=
  if flags.ascii then Option.none
  else if flags.dotAll then some .all
  else if flags.returns then some (CharSet.union (.single '\n') (.single '\r')).compl
  else some (CharSet.single '\n').compl

end Flags

end Rulebook.Pattern
