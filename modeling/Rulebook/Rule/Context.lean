import Rulebook.Field.Basic

/-!
# Parameters of rules

Some rules need more than their rule string says: a set of allowed values, a nested schema, the
type of an array's elements, a pattern, a kind of records. Their context supplies it.

* `Element.ofArg?_eq_some_iff`: the arguments that name a type of elements.
-/

namespace Rulebook

/-- A closed set of allowed values, named for documentation. -/
structure Enumeration where
  name : String
  values : List Json

/-- The type of an array's elements. -/
inductive Element where
  | string
  | number
  | nested (schema : Schema)

/-- The types of elements that a rule string can name. -/
def Element.ofArg? (arg : String) : Option Element :=
  if arg = "string" then some .string else if arg = "number" then some .number else none

theorem Element.ofArg?_eq_some_iff (arg : String) (e : Element) :
    Element.ofArg? arg = some e ↔
      (arg = "string" ∧ e = .string) ∨ (arg = "number" ∧ e = .number) := by
  unfold Element.ofArg?
  split
  · next h => subst h; simp [eq_comm]
  · split
    · next h => subst h; simp [eq_comm]
    · simp_all

structure Context where
  enumeration : Option Enumeration
  nested : Option Schema
  element : Option Element
  pattern : Option Pattern
  entity : Option String
  example? : Option Json
  /-- Whether each rule applies to the elements of an array instead of the array. -/
  each : Bool
  /-- Replaces the default message of violations. -/
  message : Option String

def Context.empty : Context := ⟨none, none, none, none, none, none, false, none⟩

end Rulebook
