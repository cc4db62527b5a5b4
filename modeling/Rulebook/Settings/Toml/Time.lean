import Rulebook.Calendar.Reader

/-!
# Dates and times

A date, a time, or both, and then perhaps an offset from UTC. Seconds may be missing, and second 60
is allowed. Dates and times are settings by their text: `T` stands between date and time, `Z` for
UTC, and nine digits of a fraction count, without the zeros at its end.

* `length_fraction_le`: at most nine digits of a fraction are kept, and one at least.
-/

namespace Rulebook.Toml

abbrev Words := List Char × List Char

/-- Digits at the front of a text that are in a range, and the text behind them. -/
def digitsUpTo (width greatest : Nat) (text : List Char) : Option Words :=
  (Calendar.fixedDigits width text).bind fun (n, rest) =>
    if n ≤ greatest then some (text.take width, rest) else none

/-- What follows a character that must come next. -/
def expect (c : Char) (text : List Char) : Option (List Char) :=
  if text.head? = some c then some (text.drop 1) else none

/-- What follows a year, a month and a day; the month has to have the day. -/
def afterDate? (text : List Char) : Option (List Char) := do
  let (year, text) ← Calendar.fixedDigits 4 text
  let text ← expect '-' text
  let (month, text) ← Calendar.fixedDigits 2 text
  let text ← expect '-' text
  let (day, text) ← Calendar.fixedDigits 2 text
  if Calendar.Date.isValid ⟨year, month, day⟩ then some text else none

def dateLength : Nat := 10

def fraction (digits : List Char) : List Char :=
  match ((digits.take 9).reverse.dropWhile (· == '0')).reverse with
  | [] => ['0']
  | kept => kept

theorem length_fraction_le (digits : List Char) :
    1 ≤ (fraction digits).length ∧ (fraction digits).length ≤ 9 := by
  have h : (((digits.take 9).reverse.dropWhile (· == '0')).reverse).length ≤ 9 := by
    rw [List.length_reverse]
    refine Nat.le_trans (List.dropWhile_sublist _).length_le ?_
    rw [List.length_reverse, List.length_take]
    exact Nat.min_le_left ..
  unfold fraction
  split
  · simp
  · next kept hne =>
    refine ⟨?_, h⟩
    exact List.length_pos_iff.2 hne

/-- A point and digits, or nothing. -/
def readFraction : List Char → Option Words
  | '.' :: text =>
    let digits := text.takeWhile Char.isDigit
    if digits.isEmpty then none else some ('.' :: fraction digits, text.dropWhile Char.isDigit)
  | text => some ([], text)

/-- Seconds with a fraction, or nothing. -/
def readSeconds : List Char → Option Words
  | ':' :: text => do
    let (second, text) ← digitsUpTo 2 60 text
    let (part, text) ← readFraction text
    some (':' :: second ++ part, text)
  | text => some ([], text)

def readHourMinute (text : List Char) : Option Words := do
  let (hour, text) ← digitsUpTo 2 23 text
  let text ← expect ':' text
  let (minute, text) ← digitsUpTo 2 59 text
  some (hour ++ ':' :: minute, text)

def readTime (text : List Char) : Option Words := do
  let (start, text) ← readHourMinute text
  let (seconds, text) ← readSeconds text
  some (start ++ seconds, text)

/-- The offset that a whole text is; an empty text is none. An offset of zero is written with a
plus. -/
def offsetOf : List Char → Option (List Char)
  | [] => some []
  | sign :: text =>
    if sign = 'Z' ∨ sign = 'z' then if text.isEmpty then some ['Z'] else none
    else if sign = '+' ∨ sign = '-' then
      match readHourMinute text with
      | some (offset, []) => some ((if offset = "00:00".toList then '+' else sign) :: offset)
      | _ => none
    else none

def timeOf (text : List Char) : Option (List Char) :=
  match readTime text with
  | some (time, []) => some time
  | _ => none

def isTimeMark (c : Char) : Bool := c == 'T' || c == 't' || c == ' '

/-- The text of the date or time that a word is, if it is one. -/
def momentOf (text : List Char) : Option String :=
  match afterDate? text with
  | none => (timeOf text).map String.ofList
  | some [] => some (String.ofList text)
  | some (mark :: rest) =>
    if isTimeMark mark then do
      let (time, rest) ← readTime rest
      let offset ← offsetOf rest
      some (String.ofList (text.take dateLength ++ 'T' :: time ++ offset))
    else none

end Rulebook.Toml
