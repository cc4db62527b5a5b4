import Rulebook.Field.Basic
import Rulebook.Validation.Inquiry

/-!
# Validation

Checks run in the order of their tokens. A check that does not hold is reported as a violation,
and the checks of the same token after it are skipped; the checks of other tokens all run. Values
are coerced on the way.

* `runChecks_of_skipped`: a check at the position of the last failure is skipped;
* `Field.validate_of_absent`: an absent or null value of an optional field is not checked.
-/

namespace Rulebook

structure Violation where
  path : String
  rule : Kind
  message : String
  deriving DecidableEq

def Violation.toJson (v : Violation) : Json :=
  .object [("path", .string v.path), ("rule", .string v.rule.name), ("message", .string v.message)]

/-- What running a predicate on a value gives: whether it held, the value as coerced, and the
violations reported. -/
structure Verdict where
  passed : Bool
  value : Option Json
  violations : List Violation

namespace Verdict

def accept (value : Option Json) : Verdict := ⟨true, value, []⟩

end Verdict

/-- On whose behalf a predicate runs: a rule, the message that replaces the default one, and the
path of the value. -/
structure Site where
  kind : Kind
  message : Option String
  path : String

namespace Site

def reject (s : Site) (value : Option Json) (text : String) : Verdict :=
  ⟨false, value, [⟨s.path, s.kind, s.message.getD text⟩]⟩

def item (s : Site) (i : Nat) : Site := { s with path := s.path ++ "[" ++ toString i ++ "]" }

end Site

/-- What is wrong with a value that a record store does not answer for. -/
def Lookup.complaint (l : Lookup) : String :=
  match l.mode with
  | .unique => l.field ++ " must be unique"
  | .exist => l.field ++ " must exist in database"

/-! ## Elements of arrays -/

/-- What running a predicate on the elements of an array gives. -/
structure ItemsVerdict where
  passed : Bool
  items : List Json
  violations : List Violation

/-- Runs a predicate on every element; the first has the index `i`. -/
def runItems (run : Site → Option Json → Inquiry Verdict) (site : Site) :
    Nat → List Json → Inquiry ItemsVerdict
  | _, [] => pure ⟨true, [], []⟩
  | i, x :: xs => do
    let first ← run (site.item i) (some x)
    let rest ← runItems run site (i + 1) xs
    pure ⟨first.passed && rest.passed, first.value.getD .null :: rest.items,
      first.violations ++ rest.violations⟩

/-! ## Predicates, checks and fields -/

/-- A value as coerced by checks, and the violations reported. -/
structure FieldReport where
  value : Option Json
  violations : List Violation

/-- The members of an object as coerced by the fields of a schema, and the violations reported. -/
structure MembersReport where
  members : Json.Members
  violations : List Violation

def isAbsent : Option Json → Bool
  | none => true
  | some .null => true
  | some _ => false

/-- Runs the checks of a field, none of them if the field is optional and the value absent. -/
def unlessSkipped (checks : List Check) (value : Option Json) (run : Inquiry FieldReport) :
    Inquiry FieldReport :=
  if checks.any (fun c => c.predicate.isOptional) && isAbsent value then pure ⟨value, []⟩ else run

mutual

def Predicate.run : Predicate → Site → Option Json → Inquiry Verdict
  | .optional, _, value => pure (.accept value)
  | .coerceDate, _, value => pure (.accept ((value.bind coerceDate).or value))
  | .test t, site, value =>
    pure (if t.holds value then .accept value
      else site.reject value (t.describe site.path))
  | .lookup l, site, value =>
    .ask (l.query (value.getD .null)) site.path fun answer =>
      pure (if answer then .accept value else site.reject value l.complaint)
  | .nested ⟨_, fields⟩, site, value =>
    match value with
    | none => pure (.accept none)
    | some .null => pure (.accept (some .null))
    | some (.object members) => do
      let report ← runFields fields (site.path ++ ".") members
      pure ⟨report.violations.isEmpty, some (.object report.members), report.violations⟩
    | some v =>
      pure (site.reject (some v) ("nested property " ++ site.path ++ " must be an object"))
  | .each inner, site, value =>
    match value with
    | some (.array items) => do
      let verdict ← runItems inner.run site 0 items
      pure ⟨verdict.passed, some (.array verdict.items), verdict.violations⟩
    | v => pure (site.reject v ("each value in " ++ site.path ++ " requires an array"))

/-- Runs checks on a value. `failed` is the position of the last check that did not hold. -/
def runChecks : List Check → String → Option Nat → Option Json → Inquiry FieldReport
  | [], _, _, value => pure ⟨value, []⟩
  | ⟨kind, position, predicate, _, message⟩ :: rest, path, failed, value =>
    if failed = some position then runChecks rest path failed value
    else do
      let verdict ← predicate.run ⟨kind, message, path⟩ value
      let report ←
        runChecks rest path (if verdict.passed then failed else some position) verdict.value
      pure ⟨report.value, verdict.violations ++ report.violations⟩

/-- Runs the fields of a schema on the members of an object, in order; `base` stands in front of
the names in paths. -/
def runFields : List (String × Field) → String → Json.Members → Inquiry MembersReport
  | [], _, members => pure ⟨members, []⟩
  | (name, ⟨checks, _⟩) :: rest, base, members => do
    let value := Json.Members.find? name members
    let report ← unlessSkipped checks value (runChecks checks (base ++ name) none value)
    let after := match report.value with
      | some v => Json.Members.replace name v members
      | none => members
    let rest ← runFields rest base after
    pure ⟨rest.members, report.violations ++ rest.violations⟩

end

theorem runChecks_of_skipped {c : Check} {rest : List Check} {path : String} {failed : Option Nat}
    {value : Option Json} (h : failed = some c.position) :
    runChecks (c :: rest) path failed value = runChecks rest path failed value := by
  cases c
  simp only at h
  simp [runChecks, h]

/-- Validates a single value; `path` names it in violations. -/
def Field.validate (f : Field) (path : String) (value : Option Json) : Inquiry FieldReport :=
  unlessSkipped f.checks value (runChecks f.checks path none value)

theorem Field.validate_of_absent {f : Field} (path : String) {value : Option Json}
    (hf : f.isOptional = true) (hv : isAbsent value = true) :
    f.validate path value = .done ⟨value, []⟩ := by
  simp only [Field.isOptional] at hf
  simp [Field.validate, unlessSkipped, hf, hv]
  rfl

theorem runFields_cons (name : String) (f : Field) (rest : List (String × Field)) (base : String)
    (members : Json.Members) :
    runFields ((name, f) :: rest) base members = (do
      let report ← f.validate (base ++ name) (Json.Members.find? name members)
      let rest ← runFields rest base (match report.value with
        | some v => Json.Members.replace name v members
        | none => members)
      pure ⟨rest.members, report.violations ++ rest.violations⟩) := by
  cases f
  rfl

/-! ## Documents -/

/-- A document as coerced, and the violations reported. -/
structure Report where
  value : Json
  violations : List Violation

def Report.isValid (r : Report) : Bool := r.violations.isEmpty

def FieldReport.isValid (r : FieldReport) : Bool := r.violations.isEmpty

def Report.violationsAt (r : Report) (path : String) : List Violation :=
  r.violations.filter fun v => v.path == path

/-- Validates a document, which must be an object. -/
def Schema.validate (s : Schema) : Json → Inquiry Report
  | .object members => do
    let report ← runFields s.fields "" members
    pure ⟨.object report.members, report.violations⟩
  | document => pure ⟨document, [⟨"", .object, s.name ++ " must be an object"⟩]⟩

end Rulebook
