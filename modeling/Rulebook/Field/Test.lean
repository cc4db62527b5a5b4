import Rulebook.Calendar.Reader
import Rulebook.Json.Printer
import Rulebook.Pattern.Source
import Rulebook.Text.DecimalText
import Rulebook.Text.Email
import Rulebook.Text.Uuid

/-!
# Tests of single values

A test needs nothing but the value. No test holds of an absent value.

* `holds_none`: an absent value passes no test.
-/

namespace Rulebook

inductive Test where
  | notEmpty
  | email
  | text
  | pattern (p : Pattern)
  | minLength (n : Nat)
  | maxLength (n : Nat)
  | oneOf (values : List Json)
  | decimal
  | integer
  | number
  | date
  | uuid
  | sequence

/-- Characters of a string and items of an array are counted. -/
def Json.length? : Json → Option Nat
  | .string s => some s.length
  | .array items => some items.length
  | _ => none

/-- A string as it is, any other value as JSON text. -/
def Json.display : Json → String
  | .string s => s
  | v => v.compact

namespace Test

def holdsOf : Test → Json → Bool
  | notEmpty, .null => false
  | notEmpty, .string s => !s.isEmpty
  | notEmpty, _ => true
  | email, .string s => Email.isAddress s.toList
  | text, .string _ => true
  | pattern p, .string s => p.isMatch s
  | minLength n, v => v.length?.any fun length => n ≤ length
  | maxLength n, v => v.length?.any fun length => length ≤ n
  | oneOf values, v => values.any fun w => w == v
  | decimal, .number _ => true
  | decimal, .string s => DecimalText.isDecimal s.toList
  | integer, .number n => n.isWhole
  | number, .number _ => true
  | date, .string s => (Calendar.readTimestamp s.toList).isSome
  | uuid, .string s => Uuid.isUuid s.toList
  | sequence, .array _ => true
  | _, _ => false

def holds (t : Test) : Option Json → Bool
  | none => false
  | some v => t.holdsOf v

theorem holds_none (t : Test) : t.holds none = false := rfl

/-- What is wrong with a property that fails the test. -/
def describe (property : String) : Test → String
  | notEmpty => property ++ " should not be empty"
  | email => property ++ " must be an email"
  | text => property ++ " must be a string"
  | pattern p => property ++ " must match " ++ p.source ++ " regular expression"
  | minLength n => property ++ " must be longer than or equal to " ++ toString n ++ " characters"
  | maxLength n => property ++ " must be shorter than or equal to " ++ toString n ++ " characters"
  | oneOf values =>
    property ++ " must be one of the following values: " ++
      ", ".intercalate (values.map Json.display)
  | decimal => property ++ " is not a valid decimal number"
  | integer => property ++ " must be an integer number"
  | number => property ++ " must be a number"
  | date => property ++ " must be a valid date"
  | uuid => property ++ " must be a UUID"
  | sequence => property ++ " must be an array"

end Test

end Rulebook
