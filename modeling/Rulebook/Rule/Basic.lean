import Rulebook.Rule.Context
import Rulebook.Rule.Token
import Rulebook.Text.Length

/-!
# Rules

A rule is a token with its argument read and its parameters picked from the context. It says which
checks its token contributes: two for `date` and `array`, one for any other.

* `kind_of_ofToken`: a token becomes a rule of the kind that its name says;
* `mem_checks`: the checks of a rule have its kind and its position;
* `any_isOptional_checks`: the rule `optional`, and no other, lets absent values skip checks;
* `length_checks`: how many checks a rule has.
-/

namespace Rulebook

inductive Rule where
  | required
  | optional
  | email
  | string
  | pattern (p : Pattern)
  | min (n : Nat)
  | max (n : Nat)
  | enum (e : Enumeration)
  | float
  | decimal
  | int
  | number
  | date
  | uuid
  | unique (recordKind field : String)
  | exist (recordKind field : String)
  | object (schema : Schema)
  | array (element : Element)

namespace Rule

def kind : Rule → Kind
  | required => .required
  | optional => .optional
  | email => .email
  | string => .string
  | pattern _ => .pattern
  | min _ => .min
  | max _ => .max
  | enum _ => .enum
  | float => .float
  | decimal => .decimal
  | int => .int
  | number => .number
  | date => .date
  | uuid => .uuid
  | unique _ _ => .unique
  | exist _ _ => .exist
  | object _ => .object
  | array _ => .array

/-! ## Reading tokens -/

/-- The argument of a token; an empty one counts as missing. -/
def givenArg (t : Token) : Option String := t.arg.filter fun arg => !arg.isEmpty

/-- The length that a token of the rule `name` states. -/
def lengthArg (t : Token) (name : String) : Except Failure Nat :=
  match givenArg t with
  | none =>
    .error (.missingArgument name ("a length is required, as in '" ++ name ++ ":3'"))
  | some arg =>
    match Length.ofText arg.toList with
    | some n => .ok n
    | none => .error (.invalidArgument name ("'" ++ arg ++ "' is not a non-negative integer"))

/-- The kind of records and the field that a token of the rule `name` asks about. -/
def lookupArgs (t : Token) (context : Context) (name : String) :
    Except Failure (String × String) :=
  match context.entity, givenArg t with
  | some entity, some field => .ok (entity, field)
  | _, _ =>
    .error (.missingArgument name
      ("an entity and a field name are required for " ++ name ++ " validation"))

def require (parameter : Option α) (name text : String) : Except Failure α :=
  match parameter with
  | some a => .ok a
  | none => .error (.missingArgument name text)

def ofKind (t : Token) (context : Context) : Kind → Except Failure Rule
  | .required => .ok required
  | .optional => .ok optional
  | .email => .ok email
  | .string => .ok string
  | .pattern =>
    (require context.pattern "pattern"
      "a regular expression is required for pattern validation").map pattern
  | .min => (lengthArg t "min").map min
  | .max => (lengthArg t "max").map max
  | .enum =>
    (require context.enumeration "enum" "an enum type is required for enum validation").map enum
  | .float => .ok float
  | .decimal => .ok decimal
  | .int => .ok int
  | .number => .ok number
  | .date => .ok date
  | .uuid => .ok uuid
  | .unique => (lookupArgs t context "unique").map fun (k, f) => unique k f
  | .exist => (lookupArgs t context "exist").map fun (k, f) => exist k f
  | .object =>
    (require context.nested "object" "a nested type is required for object validation").map object
  | .array =>
    (require (context.element.or (t.arg.bind Element.ofArg?)) "array"
      "an array element type is required for array validation").map array

/-- The rule that a token states in a context. -/
def ofToken (t : Token) (context : Context) : Except Failure Rule :=
  match Kind.ofName t.name with
  | .ok k => ofKind t context k
  | .error f => .error f

theorem kind_of_ofKind {t : Token} {context : Context} {k : Kind} {r : Rule}
    (h : ofKind t context k = .ok r) : r.kind = k := by
  cases k <;> simp only [ofKind, Except.ok.injEq, Except.map] at h <;>
    first
    | (subst h; rfl)
    | (split at h <;> simp only [Except.ok.injEq, reduceCtorEq] at h; subst h; rfl)

theorem kind_of_ofToken {t : Token} {context : Context} {r : Rule}
    (h : ofToken t context = .ok r) : r.kind.name = t.name := by
  simp only [ofToken, Kind.ofName] at h
  cases hk : Kind.ofName? t.name with
  | none => simp [hk] at h
  | some k =>
    simp only [hk] at h
    rw [kind_of_ofKind h, Kind.name_of_ofName? hk]

/-! ## Checks -/

/-- What the checks of one token have in common. -/
structure Place where
  kind : Kind
  position : Nat
  each : Bool
  message : Option String
  example? : Option Json

namespace Place

/-- Metadata with nothing but the example. -/
def fragment (p : Place) : Metadata := { Metadata.empty with example? := p.example? }

/-- A check as it stands, with the default message. -/
def plain (p : Place) (predicate : Predicate) (metadata : Metadata) : Check :=
  ⟨p.kind, p.position, predicate, metadata, none⟩

/-- The rule's own check: it may apply to the elements, and has the message asked for. -/
def own (p : Place) (predicate : Predicate) (metadata : Metadata) : Check :=
  ⟨p.kind, p.position, if p.each then .each predicate else predicate, metadata, p.message⟩

end Place

/-- The check of the elements of an array, and what it adds to the metadata. -/
def elementCheck (m : Metadata) : Element → Predicate × Metadata
  | .string => (.test .text, { m with isArray := some true, items := some "string" })
  | .number => (.test .number, { m with isArray := some true, items := some "number" })
  | .nested schema =>
    (.nested schema,
      { m with isArray := some true, items := some "object", nestedType := some schema.name })

def checksAt (p : Place) : Rule → List Check
  | required => [p.own (.test .notEmpty) { p.fragment with required := some true }]
  | optional => [p.plain .optional { p.fragment with required := some false }]
  | email => [p.own (.test .email) { p.fragment with format := some "email" }]
  | string => [p.own (.test .text) { p.fragment with type := some "string" }]
  | pattern q => [p.own (.test (.pattern q)) { p.fragment with pattern := some q.source }]
  | min n => [p.own (.test (.minLength n)) { p.fragment with minLength := some n }]
  | max n => [p.own (.test (.maxLength n)) { p.fragment with maxLength := some n }]
  | enum e =>
    [p.own (.test (.oneOf e.values))
      { p.fragment with values := some e.values, enumName := some e.name }]
  | float =>
    [p.own (.test .decimal) { p.fragment with type := some "number", format := some "float" }]
  | decimal =>
    [p.own (.test .decimal) { p.fragment with type := some "number", format := some "decimal" }]
  | int => [p.own (.test .integer) { p.fragment with type := some "integer" }]
  | number => [p.own (.test .number) { p.fragment with type := some "number" }]
  | date =>
    [p.plain (if p.each then .each .coerceDate else .coerceDate) p.fragment,
      p.own (.test .date) { p.fragment with type := some "string", format := some "date-time" }]
  | uuid => [p.own (.test .uuid) { p.fragment with format := some "uuid" }]
  | unique recordKind field =>
    [p.own (.lookup ⟨recordKind, field, .unique⟩) { p.fragment with uniqueItems := some true }]
  | exist recordKind field => [p.own (.lookup ⟨recordKind, field, .exist⟩) p.fragment]
  | object schema =>
    [p.own (.nested schema)
      { p.fragment with type := some "object", nestedType := some schema.name }]
  | array element =>
    [⟨p.kind, p.position, .test .sequence, { p.fragment with type := some "array" }, p.message⟩,
      p.plain (.each (elementCheck p.fragment element).1) (elementCheck p.fragment element).2]

/-- The checks of a rule whose token stands at that position, in the order in which they apply. -/
def checks (r : Rule) (position : Nat) (context : Context) : List Check :=
  r.checksAt ⟨r.kind, position, context.each, context.message, context.example?⟩

theorem mem_checks {r : Rule} {position : Nat} {context : Context} {c : Check}
    (h : c ∈ r.checks position context) : c.kind = r.kind ∧ c.position = position := by
  cases r <;>
    simp only [checks, checksAt, Place.own, Place.plain, List.mem_cons, List.not_mem_nil,
      or_false] at h <;>
    first
    | (subst h; exact ⟨rfl, rfl⟩)
    | (obtain rfl | rfl := h <;> exact ⟨rfl, rfl⟩)

theorem any_isOptional_checks (r : Rule) (position : Nat) (context : Context) :
    (r.checks position context).any (fun c => c.predicate.isOptional) =
      decide (r.kind = .optional) := by
  cases r <;> cases h : context.each <;>
    simp [checks, checksAt, Place.own, Place.plain, Predicate.isOptional, kind, h]

theorem length_checks (r : Rule) (position : Nat) (context : Context) :
    (r.checks position context).length =
      if r.kind = .date ∨ r.kind = .array then 2 else 1 := by
  cases r <;> rfl

end Rule

end Rulebook
