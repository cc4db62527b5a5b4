import Rulebook.Failure

/-!
# Kinds of rules

There are eighteen kinds of rules, each known by its name.

* `ofName?_name`, `name_of_ofName?`: names and kinds determine each other.
-/

namespace Rulebook

inductive Kind where
  | required
  | optional
  | email
  | string
  | unique
  | exist
  | enum
  | max
  | min
  | float
  | int
  | number
  | decimal
  | date
  | uuid
  | object
  | array
  | pattern
  deriving DecidableEq, Repr

namespace Kind

def all : List Kind :=
  [required, optional, email, string, unique, exist, enum, max, min, float, int, number, decimal,
    date, uuid, object, array, pattern]

def name : Kind → String
  | required => "required"
  | optional => "optional"
  | email => "email"
  | string => "string"
  | unique => "unique"
  | exist => "exist"
  | enum => "enum"
  | max => "max"
  | min => "min"
  | float => "float"
  | int => "int"
  | number => "number"
  | decimal => "decimal"
  | date => "date"
  | uuid => "uuid"
  | object => "object"
  | array => "array"
  | pattern => "pattern"

def ofName? (s : String) : Option Kind := all.find? fun k => k.name == s

/-- The kind of that name; any other name is unknown. -/
def ofName (s : String) : Except Failure Kind :=
  match ofName? s with
  | some k => .ok k
  | none => .error (.unknownRule s)

theorem mem_all (k : Kind) : k ∈ all := by cases k <;> decide

theorem ofName?_name (k : Kind) : ofName? k.name = some k := by cases k <;> decide

theorem name_of_ofName? {s : String} {k : Kind} (h : ofName? s = some k) : k.name = s := by
  simpa using List.find?_some h

end Kind

end Rulebook
