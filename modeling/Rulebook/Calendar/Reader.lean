import Rulebook.Calendar.Moment
import Rulebook.Text.Digits
import Rulebook.Unicode.Blank

/-!
# Reading dates and times

A timestamp has digits of fixed width and states its offset from UTC. Plain dates and times state
no offset and are taken as UTC; their numbers may be shorter and may follow blanks.

* `fixedDigits_length`: a number of fixed width takes that many characters.
-/

namespace Rulebook.Calendar

abbrev Reader (α : Type) := List Char → Option (α × List Char)

/-! ## Numbers and separators -/

def fixedDigits (width : Nat) (text : List Char) : Option (Nat × List Char) :=
  if (text.take width).length = width ∧ (text.take width).all Char.isDigit then
    some (Digits.value (text.take width), text.drop width)
  else none

theorem fixedDigits_length {width n : Nat} {text rest : List Char}
    (h : fixedDigits width text = some (n, rest)) : text.length = width + rest.length := by
  simp only [fixedDigits, List.length_take] at h
  split at h
  · next hw =>
    simp only [Option.some.injEq, Prod.mk.injEq] at h
    rw [← h.2, List.length_drop]
    omega
  · simp at h

/-- One digit at least and `width` digits at most. -/
def upToDigits (width : Nat) (text : List Char) : Option (Nat × List Char) :=
  let digits := (text.take width).takeWhile Char.isDigit
  if digits.isEmpty then none else some (Digits.value digits, text.drop digits.length)

def skipBlanks (text : List Char) : List Char := text.dropWhile Unicode.isBlank

def expect (test : Char → Bool) : List Char → Option (List Char)
  | [] => none
  | c :: rest => if test c then some rest else none

/-- Nine digits after the point count; further digits are dropped. -/
def fractionNanos (digits : List Char) : Nat :=
  let kept := digits.take 9
  Digits.value kept * Nat.pow 10 (9 - kept.length)

/-- A point and digits, or nothing. -/
def readFraction : List Char → Option (Nat × List Char)
  | '.' :: text =>
    let digits := text.takeWhile Char.isDigit
    if digits.isEmpty then none else some (fractionNanos digits, text.dropWhile Char.isDigit)
  | text => some (0, text)

/-- Hours, minutes and seconds, with colons between them, and a fraction of a second. -/
def readClock (number : Reader Nat) (text : List Char) : Option (Clock × List Char) := do
  let (hour, text) ← number text
  let text ← expect (· == ':') text
  let (minute, text) ← number text
  let text ← expect (· == ':') text
  let (second, text) ← number text
  let (nanos, text) ← readFraction text
  some (⟨hour, minute, second, nanos⟩, text)

/-- Year, month and day, with hyphens between them. -/
def readDate (year : Reader Int) (number : Reader Nat) (text : List Char) :
    Option (Date × List Char) := do
  let (year, text) ← year text
  let text ← expect (· == '-') text
  let (month, text) ← number text
  let text ← expect (· == '-') text
  let (day, text) ← number text
  some (⟨year, month, day⟩, text)

/-! ## Timestamps -/

def isMinus (c : Char) : Bool := c == '-' || c == '\u2212'

/-- The offset from UTC in seconds: `Z`, or a sign, hours and minutes. -/
def readOffset : List Char → Option (Int × List Char)
  | [] => none
  | c :: text =>
    if c = 'Z' ∨ c = 'z' then some (0, text)
    else if c = '+' ∨ isMinus c then do
      let (hours, text) ← fixedDigits 2 text
      let text ← expect (· == ':') text
      let (minutes, text) ← fixedDigits 2 text
      if hours < 24 ∧ minutes < 60 then
        let seconds : Int := hours * 3600 + minutes * 60
        some (if isMinus c then -seconds else seconds, text)
      else none
    else none

def fixedYear (text : List Char) : Option (Int × List Char) :=
  (fixedDigits 4 text).map fun (n, rest) => ((n : Int), rest)

def isDateTimeMark (c : Char) : Bool := c == 'T' || c == 't' || c == ' '

/-- The moment of a timestamp such as `2024-03-01T10:15:00.5+02:00`. -/
def readTimestamp (text : List Char) : Option Moment := do
  let (date, text) ← readDate fixedYear (fixedDigits 2) text
  let text ← expect isDateTimeMark text
  let (clock, text) ← readClock (fixedDigits 2) text
  let (offset, text) ← readOffset text
  if text.isEmpty then Moment.of? date clock offset else none

/-! ## Plain dates and times -/

def shortNumber (text : List Char) : Option (Nat × List Char) := upToDigits 2 (skipBlanks text)

/-- A year has at most four digits, after a sign any number of digits. -/
def shortYear (text : List Char) : Option (Int × List Char) :=
  match skipBlanks text with
  | '-' :: rest => (upToDigits rest.length rest).map fun (n, rest) => (-(n : Int), rest)
  | '+' :: rest => (upToDigits rest.length rest).map fun (n, rest) => ((n : Int), rest)
  | rest => (upToDigits 4 rest).map fun (n, rest) => ((n : Int), rest)

/-- A date and a time, separated as `separator` reads. -/
def readPlain (separator : List Char → Option (List Char)) (text : List Char) :
    Option Moment := do
  let (date, text) ← readDate shortYear shortNumber text
  let text ← separator text
  let (clock, text) ← readClock shortNumber text
  if text.isEmpty then Moment.of? date clock 0 else none

def readBareDate (text : List Char) : Option Moment := do
  let (date, text) ← readDate shortYear shortNumber text
  if text.isEmpty then Moment.of? date Clock.midnight 0 else none

/-- The moment a text names: a timestamp, a date and time separated by `T` or by blanks, or a
date. -/
def readMoment (text : List Char) : Option Moment :=
  (readTimestamp text).or <|
    (readPlain (expect (· == 'T')) text).or <|
      (readPlain (fun text => some (skipBlanks text)) text).or (readBareDate text)

end Rulebook.Calendar
