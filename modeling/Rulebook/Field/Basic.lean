import Rulebook.Field.Coercion
import Rulebook.Field.Metadata
import Rulebook.Field.Test
import Rulebook.Rule.Kind
import Rulebook.Store.Query

/-!
# Fields, checks and schemas

A field is a list of checks with the metadata they amount to; a schema is a named list of fields.
A check holds a predicate, which may in turn refer to a schema or apply to the elements of an
array.

* `Schema.get?_insert_self`, `Schema.get?_insert_of_ne`: declaring a field changes that field only;
* `Schema.mem_fields_of_get?`, `Schema.get?_eq_none_iff`: what looking up a name tells;
* `Schema.names_insert`: a name is declared at most once, where it was first declared.
-/

namespace Rulebook

mutual

inductive Predicate where
  /-- Lets an absent value skip every check of its field; always holds. -/
  | optional
  /-- Replaces a value that names a moment by its timestamp; always holds. -/
  | coerceDate
  | test (t : Test)
  | lookup (l : Lookup)
  | nested (schema : Schema)
  /-- Applies to every element of an array. -/
  | each (inner : Predicate)

structure Schema where
  name : String
  fields : List (String × Field)

structure Field where
  checks : List Check
  metadata : Metadata

/-- A check knows the kind of its rule and the index of its token in the rule string. -/
structure Check where
  kind : Kind
  position : Nat
  predicate : Predicate
  metadata : Metadata
  message : Option String

end

/-! ## Predicates -/

namespace Predicate

def isOptional : Predicate → Bool
  | optional => true
  | _ => false

/-- Whether every item satisfies `p`, up to the first that does not; unknown if that is. -/
def allHold (p : Json → Option Bool) : List Json → Option Bool
  | [] => some true
  | x :: xs =>
    match p x with
    | none => none
    | some false => some false
    | some true => allHold p xs

/-- Whether a predicate holds, without coercion; unknown if it needs a record store or a nested
schema. -/
def holds : Predicate → Option Json → Option Bool
  | optional, _ => some true
  | coerceDate, _ => some true
  | test t, value => some (t.holds value)
  | lookup _, _ => none
  | nested _, _ => none
  | each inner, some (.array items) => allHold (fun x => inner.holds (some x)) items
  | each _, _ => some false

end Predicate

def Check.holds (c : Check) (value : Json) : Option Bool := c.predicate.holds (some value)

/-! ## Fields -/

namespace Field

/-- Whether an absent or null value skips every check. -/
def isOptional (f : Field) : Bool := f.checks.any fun c => c.predicate.isOptional

/-- The kinds of checks, one for each run of checks at the same position. -/
def kindsFrom : Option Nat → List Check → List Kind
  | _, [] => []
  | last, c :: rest =>
    if last = some c.position then kindsFrom last rest
    else c.kind :: kindsFrom (some c.position) rest

/-- One kind for each token, in order. -/
def kinds (f : Field) : List Kind := kindsFrom none f.checks

end Field

/-! ## Schemas -/

namespace Schema

def insertField (name : String) (field : Field) : List (String × Field) → List (String × Field)
  | [] => [(name, field)]
  | (n, f) :: rest => if n = name then (n, field) :: rest else (n, f) :: insertField name field rest

/-- Declares a field; one of that name is replaced in place. -/
def insert (s : Schema) (name : String) (field : Field) : Schema :=
  { s with fields := insertField name field s.fields }

def getField? (name : String) : List (String × Field) → Option Field
  | [] => none
  | (n, f) :: rest => if n = name then some f else getField? name rest

def get? (s : Schema) (name : String) : Option Field := getField? name s.fields

def names (s : Schema) : List String := s.fields.map Prod.fst

def empty (name : String) : Schema := ⟨name, []⟩

theorem get?_insert_self (s : Schema) (name : String) (field : Field) :
    (s.insert name field).get? name = some field := by
  simp only [get?, insert]
  induction s.fields with
  | nil => simp [insertField, getField?]
  | cons f fs ih => by_cases h : f.1 = name <;> simp [insertField, getField?, h, ih]

theorem get?_insert_of_ne (s : Schema) {name other : String} (h : other ≠ name) (field : Field) :
    (s.insert name field).get? other = s.get? other := by
  simp only [get?, insert]
  induction s.fields with
  | nil => simp [insertField, getField?, h.symm]
  | cons f fs ih =>
    by_cases hf : f.1 = name
    · simp [insertField, getField?, hf, h.symm]
    · simp [insertField, getField?, hf, ih]

theorem mem_fields_of_get? {s : Schema} {name : String} {field : Field}
    (h : s.get? name = some field) : (name, field) ∈ s.fields := by
  simp only [get?] at h
  generalize s.fields = fields at h ⊢
  induction fields with
  | nil => cases h
  | cons f fs ih =>
    simp only [getField?] at h
    split at h
    · next e =>
      obtain rfl := Option.some.inj h
      exact e ▸ List.mem_cons_self ..
    · exact List.mem_cons_of_mem _ (ih h)

theorem get?_eq_none_iff {s : Schema} {name : String} : s.get? name = none ↔ name ∉ s.names := by
  simp only [get?, names]
  induction s.fields with
  | nil => simp [getField?]
  | cons f fs ih =>
    by_cases h : f.1 = name
    · simp [getField?, h]
    · simp [getField?, h, ih, Ne.symm h]

theorem map_insertField (name : String) (field : Field) (fields : List (String × Field)) :
    (insertField name field fields).map Prod.fst =
      if name ∈ fields.map Prod.fst then fields.map Prod.fst
      else fields.map Prod.fst ++ [name] := by
  induction fields with
  | nil => simp [insertField]
  | cons f fs ih =>
    by_cases h : f.1 = name
    · simp [insertField, h]
    · have hn : name ≠ f.1 := fun e => h e.symm
      by_cases hm : name ∈ fs.map Prod.fst <;> simp_all [insertField]

theorem names_insert (s : Schema) (name : String) (field : Field) :
    (s.insert name field).names = if name ∈ s.names then s.names else s.names ++ [name] :=
  map_insertField name field s.fields

/-! ## Description -/

/-- The schema for documentation: its properties, and the names of those that are required.
Nested types are referred to by name. -/
def describe (s : Schema) : Json :=
  let required := (s.fields.filter fun f => f.2.metadata.isRequired).map fun f => Json.string f.1
  let properties := Json.Members.ofList (s.fields.map fun f => (f.1, f.2.metadata.toJson))
  let members : List (String × Json) :=
    [("title", .string s.name), ("type", .string "object"), ("properties", .object properties)]
  .object (Json.Members.ofList (if required.isEmpty then members
    else members ++ [("required", .array required)]))

end Schema

end Rulebook
