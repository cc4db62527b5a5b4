import Rulebook.Calendar.Reader
import Rulebook.Json.Basic

/-!
# Coercion of dates

A `date` rule replaces what names a moment, a text or a count of milliseconds, by a timestamp in
UTC with milliseconds.
-/

namespace Rulebook

open Calendar

/-- The count of milliseconds a number stands for; a fraction is dropped. -/
def Number.millis : Number → Int
  | .whole i _ => i
  | .float x => x.truncate

/-- The moment a value names. Counts of milliseconds must be in the range of dates. -/
def Json.moment? : Json → Option Moment
  | .string s => readMoment s.toList
  | .number n => Moment.ofMillis? n.millis
  | _ => none

/-- The timestamp of the moment a value names. -/
def coerceDate (value : Json) : Option Json :=
  value.moment?.map fun m => .string (String.ofList m.text)

end Rulebook
