import Rulebook.Json.Basic

/-!
# Questions to a record store

A store is asked whether it holds a record of some kind whose field has some value. A `unique` rule
wants it absent, an `exist` rule present.

* `verdict_unique`, `verdict_exist`: for one finding the two answers are opposite.
-/

namespace Rulebook

inductive Mode where
  | unique
  | exist
  deriving DecidableEq

def Mode.name : Mode → String
  | .unique => "unique"
  | .exist => "exist"

/-- Where a rule looks, and what it wants to find. -/
structure Lookup where
  recordKind : String
  field : String
  mode : Mode
  deriving DecidableEq

structure Query where
  recordKind : String
  field : String
  value : Json
  mode : Mode

def Lookup.query (l : Lookup) (value : Json) : Query := ⟨l.recordKind, l.field, value, l.mode⟩

/-- The answer to a question, given whether a record was found. -/
def Mode.verdict : Mode → Bool → Bool
  | .unique, found => !found
  | .exist, found => found

theorem Mode.verdict_unique (found : Bool) :
    Mode.unique.verdict found = !Mode.exist.verdict found := rfl

theorem Mode.verdict_exist (found : Bool) : Mode.exist.verdict found = found := rfl

end Rulebook
