import Mathlib.Data.List.Forall2
import Rulebook.Proofs.Validation.Results
import Rulebook.Rule.Compile

/-!
# Values at other places

Validation does not look at the path of a value: it only puts it in front of the paths below. So
the same value at two places leads to the same questions, is coerced in the same way and breaks the
same rules at the same places below. An object that a rule holds against a nested schema is
validated as a document of that schema is, but for the path in front.

* `Inquiry.Moved`: inquiries about values that stand at two places;
* `Inquiry.Moved.result`: what they come to;
* `moved_run`, `moved_runChecks`, `moved_runFields`: a value at two places;
* `nesting_relocates`: objects in a nested schema, and fields at any two paths.
-/

namespace Rulebook

open Json (Members)

/-! ## Inquiries that differ in places -/

/-- Both come to results, which `R` ties together, or both fail, with failures tied by `E`. -/
inductive Outcomes {α β : Type} (E : Failure → Failure → Prop) (R : α → β → Prop) :
    Except Failure α → Except Failure β → Prop
  | ok {a : α} {b : β} (h : R a b) : Outcomes E R (.ok a) (.ok b)
  | error {e f : Failure} (h : E e f) : Outcomes E R (.error e) (.error f)

namespace Inquiry

variable {α β γ δ : Type} {p q : String} {R : α → β → Prop}

/-- Two inquiries ask the same questions, on behalf of values at the same places below `p` and
below `q`, and come to results which `R` ties together. -/
inductive Moved (p q : String) (R : α → β → Prop) : Inquiry α → Inquiry β → Prop
  | done {a : α} {b : β} (h : R a b) : Moved p q R (.done a) (.done b)
  | ask (query : Query) (rest : String) {next : Bool → Inquiry α} {next' : Bool → Inquiry β}
      (h : ∀ answer, Moved p q R (next answer) (next' answer)) :
      Moved p q R (.ask query (p ++ rest) next) (.ask query (q ++ rest) next')

theorem moved_pure {a : α} {b : β} (h : R a b) :
    (pure a : Inquiry α).Moved p q R (pure b : Inquiry β) :=
  .done h

theorem Moved.bind {S : γ → δ → Prop} {i : Inquiry α} {j : Inquiry β} {f : α → Inquiry γ}
    {g : β → Inquiry δ} (h : i.Moved p q R j)
    (hfg : ∀ a b, R a b → (f a).Moved p q S (g b)) : (i >>= f).Moved p q S (j >>= g) := by
  induction h with
  | done h => exact hfg _ _ h
  | ask query rest _ ih => exact .ask query rest ih

/-- What they come to differs as the evaluator's answers do. -/
theorem Moved.result {E : Failure → Failure → Prop} {evaluator : Evaluator Id} {i : Inquiry α}
    {j : Inquiry β}
    (he : ∀ query rest,
      Outcomes E Eq (evaluator query (p ++ rest)).run (evaluator query (q ++ rest)).run)
    (h : i.Moved p q R j) : Outcomes E R (i.result evaluator) (j.result evaluator) := by
  induction h with
  | done h => exact .ok h
  | ask query rest _ ih =>
    have hanswer := he query rest
    rw [result_ask, result_ask]
    generalize (evaluator query (p ++ rest)).run = first at hanswer
    generalize (evaluator query (q ++ rest)).run = second at hanswer
    cases hanswer with
    | ok h => exact h ▸ ih _
    | error h => exact .error h

/-- Answers that do not depend on the path are the same at both places. -/
theorem Moved.result_of_query {i : Inquiry α} {j : Inquiry β} (h : i.Moved p q R j)
    (ask : Query → Except Failure Bool) :
    Outcomes Eq R (i.result fun query _ => ask query) (j.result fun query _ => ask query) := by
  refine Moved.result (fun query rest => ?_) h
  change Outcomes Eq Eq (ask query) (ask query)
  cases ask query with
  | ok answer => exact .ok rfl
  | error e => exact .error rfl

/-- Failures for want of a store, of the same rule at the same place below `p` and below `q`. -/
def Unavailable (p q : String) (e f : Failure) : Prop :=
  ∃ query rest, e = unavailable query (p ++ rest) ∧ f = unavailable query (q ++ rest)

theorem Moved.result_noStore {i : Inquiry α} {j : Inquiry β} (h : i.Moved p q R j) :
    Outcomes (Unavailable p q) R (i.result noStore) (j.result noStore) :=
  Moved.result (fun query rest => .error ⟨query, rest, rfl, rfl⟩) h

end Inquiry

open Inquiry

/-! ## Reports that differ in places -/

/-- Violations of one rule, at the same place below `p` and below `q`. -/
def Violation.Moved (p q : String) (v w : Violation) : Prop :=
  v.rule = w.rule ∧ ∃ rest, v.path = p ++ rest ∧ w.path = q ++ rest

/-- Reports of the same facts, whose violations differ in places. -/
def ReportsMoved {α γ : Type} (facts : α → γ) (violations : α → List Violation) (p q : String)
    (a b : α) : Prop :=
  facts a = facts b ∧ List.Forall₂ (Violation.Moved p q) (violations a) (violations b)

abbrev Verdict.Moved : String → String → Verdict → Verdict → Prop :=
  ReportsMoved (fun v : Verdict => (v.passed, v.value)) violations

abbrev ItemsVerdict.Moved : String → String → ItemsVerdict → ItemsVerdict → Prop :=
  ReportsMoved (fun v : ItemsVerdict => (v.passed, v.items)) violations

abbrev FieldReport.Moved : String → String → FieldReport → FieldReport → Prop :=
  ReportsMoved value violations

abbrev MembersReport.Moved : String → String → MembersReport → MembersReport → Prop :=
  ReportsMoved members violations

theorem isEmpty_eq_of_forall₂ {α β : Type} {R : α → β → Prop} {xs : List α} {ys : List β}
    (h : List.Forall₂ R xs ys) : xs.isEmpty = ys.isEmpty := by
  cases h <;> rfl

variable {p q : String}

theorem moved_accept (value : Option Json) :
    Verdict.Moved p q (.accept value) (.accept value) :=
  ⟨rfl, .nil⟩

theorem moved_reject (kind : Kind) (message : Option String) (rest : String) (value : Option Json)
    (text text' : String) :
    Verdict.Moved p q (Site.reject ⟨kind, message, p ++ rest⟩ value text)
      (Site.reject ⟨kind, message, q ++ rest⟩ value text') :=
  ⟨rfl, .cons ⟨rfl, rest, rfl, rfl⟩ .nil⟩

/-! ## Values at two places -/

theorem moved_runItems {run : Site → Option Json → Inquiry Verdict} {kind : Kind}
    {message : Option String}
    (h : ∀ rest value, (run ⟨kind, message, p ++ rest⟩ value).Moved p q (Verdict.Moved p q)
      (run ⟨kind, message, q ++ rest⟩ value)) (rest : String) (i : Nat) (items : List Json) :
    (runItems run ⟨kind, message, p ++ rest⟩ i items).Moved p q (ItemsVerdict.Moved p q)
      (runItems run ⟨kind, message, q ++ rest⟩ i items) := by
  induction items generalizing i with
  | nil => exact moved_pure ⟨rfl, .nil⟩
  | cons x xs ih =>
    have hx := h (rest ++ "[" ++ toString i ++ "]") (some x)
    simp only [← String.append_assoc] at hx
    refine hx.bind fun first first' hfirst => (ih (i + 1)).bind fun others others' hothers => ?_
    obtain ⟨hpassed, hvalue⟩ := Prod.mk.inj hfirst.1
    obtain ⟨hpassed', hitems⟩ := Prod.mk.inj hothers.1
    refine moved_pure ⟨?_, List.rel_append hfirst.2 hothers.2⟩
    simp only [hpassed, hvalue, hpassed', hitems]

-- a predicate, checks and fields together, as they run each other
mutual

theorem moved_run : ∀ (predicate : Predicate) (kind : Kind) (message : Option String)
    (rest : String) (value : Option Json),
    (predicate.run ⟨kind, message, p ++ rest⟩ value).Moved p q (Verdict.Moved p q)
      (predicate.run ⟨kind, message, q ++ rest⟩ value)
  | .optional, _, _, _, _ => moved_pure (moved_accept _)
  | .coerceDate, _, _, _, _ => moved_pure (moved_accept _)
  | .test t, kind, message, rest, value => by
    refine moved_pure ?_
    split
    · exact moved_accept value
    · exact moved_reject kind message rest value _ _
  | .lookup l, kind, message, rest, value => by
    refine .ask _ rest fun answer => ?_
    cases answer with
    | true => exact moved_pure (moved_accept value)
    | false => exact moved_pure (moved_reject kind message rest value _ _)
  | .nested ⟨_, fields⟩, kind, message, rest, value => by
    rcases value with _ | v
    · exact moved_pure (moved_accept none)
    · cases v with
      | null => exact moved_pure (moved_accept _)
      | object members =>
        have hfields := moved_runFields fields (rest ++ ".") members
        simp only [← String.append_assoc] at hfields
        refine hfields.bind fun report report' hreport => moved_pure ⟨?_, hreport.2⟩
        simp only [hreport.1, isEmpty_eq_of_forall₂ hreport.2]
      | _ => exact moved_pure (moved_reject kind message rest _ _ _)
  | .each inner, kind, message, rest, value => by
    have hinner := fun rest value => moved_run inner kind message rest value
    rcases value with _ | v
    · exact moved_pure (moved_reject kind message rest none _ _)
    · cases v with
      | array items =>
        refine (moved_runItems hinner rest 0 items).bind fun verdict verdict' hverdict => ?_
        obtain ⟨hpassed, hitems⟩ := Prod.mk.inj hverdict.1
        refine moved_pure ⟨?_, hverdict.2⟩
        simp only [hpassed, hitems]
      | _ => exact moved_pure (moved_reject kind message rest _ _ _)

theorem moved_runChecks : ∀ (checks : List Check) (rest : String) (failed : Option Nat)
    (value : Option Json),
    (runChecks checks (p ++ rest) failed value).Moved p q (FieldReport.Moved p q)
      (runChecks checks (q ++ rest) failed value)
  | [], _, _, _ => moved_pure ⟨rfl, .nil⟩
  | ⟨kind, position, predicate, _, message⟩ :: others, rest, failed, value => by
    simp only [runChecks]
    split
    · exact moved_runChecks others rest failed value
    · refine (moved_run predicate kind message rest value).bind fun verdict verdict' hverdict => ?_
      obtain ⟨hpassed, hvalue⟩ := Prod.mk.inj hverdict.1
      rw [hpassed, hvalue]
      refine (moved_runChecks others rest _ _).bind fun report report' hreport => ?_
      exact moved_pure ⟨hreport.1, List.rel_append hverdict.2 hreport.2⟩

theorem moved_runFields : ∀ (fields : List (String × Field)) (rest : String) (members : Members),
    (runFields fields (p ++ rest) members).Moved p q (MembersReport.Moved p q)
      (runFields fields (q ++ rest) members)
  | [], _, _ => moved_pure ⟨rfl, .nil⟩
  | (name, ⟨checks, metadata⟩) :: others, rest, members => by
    have hfield : (unlessSkipped checks (members.find? name)
        (runChecks checks (p ++ rest ++ name) none (members.find? name))).Moved p q
          (FieldReport.Moved p q) (unlessSkipped checks (members.find? name)
            (runChecks checks (q ++ rest ++ name) none (members.find? name))) := by
      have hchecks := moved_runChecks checks (rest ++ name) none (members.find? name)
      simp only [← String.append_assoc] at hchecks
      unfold unlessSkipped
      split
      · exact moved_pure ⟨rfl, .nil⟩
      · exact hchecks
    refine hfield.bind fun report report' hreport => ?_
    rw [hreport.1]
    refine (moved_runFields others rest _).bind fun below below' hbelow => ?_
    exact moved_pure ⟨hbelow.1, List.rel_append hreport.2 hbelow.2⟩

end

theorem moved_validate (f : Field) (p q : String) (value : Option Json) :
    (f.validate p value).Moved p q (FieldReport.Moved p q) (f.validate q value) := by
  have hchecks := @moved_runChecks p q f.checks "" none value
  rw [String.append_empty, String.append_empty] at hchecks
  simp only [Field.validate, unlessSkipped]
  split
  · exact moved_pure ⟨rfl, .nil⟩
  · exact hchecks

/-! ## Nested schemas -/

theorem compile_object {schema : Schema} {context : Context} (h : context.nested = some schema) :
    compile "object" context = .ok (.ofChecks ((Rule.object schema).checks 0 context)) := by
  have htoken : Token.ofString "object" = [⟨"object", none⟩] := rfl
  have hrule : Rule.ofToken ⟨"object", none⟩ context = .ok (.object schema) := by
    change (Rule.require context.nested _ _).map Rule.object = _
    rw [h]
    rfl
  simp [compile, htoken, compileTokens, hrule, Except.map]

/-- The one check of an `object` rule goes by the fields of the schema. -/
theorem validate_object {schema : Schema} {context : Context} (h : context.each = false)
    (path : String) (members : Members) :
    (Field.ofChecks ((Rule.object schema).checks 0 context)).validate path
        (some (.object members)) = (do
      let report ← runFields schema.fields (path ++ ".") members
      pure ⟨some (.object report.members), report.violations⟩) := by
  obtain ⟨name, fields⟩ := schema
  obtain ⟨metadata, hchecks⟩ : ∃ metadata, (Rule.object ⟨name, fields⟩).checks 0 context =
      [⟨.object, 0, .nested ⟨name, fields⟩, metadata, context.message⟩] :=
    ⟨_, by simp only [Rule.checks, Rule.checksAt, Rule.Place.own, h]; rfl⟩
  simp [hchecks, Field.ofChecks, Field.validate, unlessSkipped, Predicate.isOptional, isAbsent,
    runChecks, Predicate.run]

/-- A violation of a document, and the same one where the document is nested at a path. -/
def Violation.Nested (path : String) (v w : Violation) : Prop :=
  v.rule = w.rule ∧ v.path = path ++ "." ++ w.path

theorem moved_object {schema : Schema} {context : Context} (h : context.each = false)
    (path : String) (members : Members) :
    ((Field.ofChecks ((Rule.object schema).checks 0 context)).validate path
      (some (.object members))).Moved (path ++ ".") ""
        (fun r document => r.value = some document.value ∧
          List.Forall₂ (Violation.Nested path) r.violations document.violations)
        (schema.validate (.object members)) := by
  have hfields := @moved_runFields (path ++ ".") "" schema.fields "" members
  rw [String.append_empty, String.append_empty] at hfields
  rw [validate_object h]
  refine hfields.bind fun report document hreport => moved_pure ⟨?_, ?_⟩
  · simp only [hreport.1]
  · refine hreport.2.imp fun v w hvw => ?_
    obtain ⟨hrule, rest, hv, hw⟩ := hvw
    rw [String.empty_append] at hw
    exact ⟨hrule, hw ▸ hv⟩

/-- **Nesting.** An object that an `object` rule holds against a schema is validated as a document
of that schema is: it comes to a result in the same cases, to the same value, and to the same
violations, with the path and a point in front of theirs. If not, the failure is the same; without
a store, it names the path that belongs to the place. And whatever the field is and the value, the
path that is given is put in front of the places of violations and has no influence besides. -/
theorem nesting_relocates (path : String) :
    (∀ (schema : Schema) (context : Context), context.nested = some schema →
      context.each = false → ∃ f, compile "object" context = .ok f ∧ ∀ members : Members,
        (∀ ask : Query → Except Failure Bool,
          Outcomes Eq
            (fun r document => r.value = some document.value ∧
              List.Forall₂ (Violation.Nested path) r.violations document.violations)
            ((f.validate path (some (.object members))).result fun query _ => ask query)
            ((schema.validate (.object members)).result fun query _ => ask query)) ∧
        Outcomes (Unavailable (path ++ ".") "")
          (fun r document => r.value = some document.value ∧
            List.Forall₂ (Violation.Nested path) r.violations document.violations)
          ((f.validate path (some (.object members))).result noStore)
          ((schema.validate (.object members)).result noStore)) ∧
    ∀ (other : String) (f : Field) (value : Option Json),
      (∀ ask : Query → Except Failure Bool,
        Outcomes Eq
          (fun r r' => r.value = r'.value ∧
            List.Forall₂ (Violation.Moved path other) r.violations r'.violations)
          ((f.validate path value).result fun query _ => ask query)
          ((f.validate other value).result fun query _ => ask query)) ∧
      Outcomes (Unavailable path other)
        (fun r r' => r.value = r'.value ∧
          List.Forall₂ (Violation.Moved path other) r.violations r'.violations)
        ((f.validate path value).result noStore) ((f.validate other value).result noStore) := by
  refine ⟨fun schema context hn he => ?_, fun other f value => ?_⟩
  · refine ⟨_, compile_object hn, fun members => ?_⟩
    have hmoved := @moved_object schema context he path members
    exact ⟨hmoved.result_of_query, hmoved.result_noStore⟩
  · have hmoved := moved_validate f path other value
    exact ⟨hmoved.result_of_query, hmoved.result_noStore⟩

/-- An address without a city, that is nested at `home`. -/
theorem nesting_relocates_home :
    ∃ schema f r, (Schema.empty "Address").declare "city" "required" Context.empty = .ok schema ∧
      compile "object" { Context.empty with nested := some schema } = .ok f ∧
      (f.validate "home" (some (.object [("city", .string "")]))).result noStore = .ok r ∧
      r.violations.map (fun v => (v.path, v.rule)) = [("home.city", .required)] := by
  obtain ⟨schema, hschema⟩ :
      ∃ schema, (Schema.empty "Address").declare "city" "required" Context.empty = .ok schema :=
    ⟨_, rfl⟩
  have hdocument : (schema.validate (.object [("city", .string "")])).result noStore =
      .ok ⟨.object [("city", .string "")],
        [⟨"city", .required, "city should not be empty"⟩]⟩ := by
    obtain rfl := Except.ok.inj hschema
    rfl
  obtain ⟨f, hf, h⟩ :=
    (nesting_relocates "home").1 schema { Context.empty with nested := some schema } rfl rfl
  have houtcome := (h [("city", .string "")]).2
  rw [hdocument] at houtcome
  generalize hr : (f.validate "home" (some (.object [("city", .string "")]))).result noStore =
    outcome at houtcome
  cases houtcome with
  | ok h =>
    obtain ⟨v, rest, ⟨hrule, hpath⟩, hrest, hviolations⟩ := List.forall₂_cons_right_iff.mp h.2
    obtain rfl := List.forall₂_nil_right_iff.mp hrest
    exact ⟨schema, f, _, hschema, hf, hr, by simp [hviolations, hrule, hpath]⟩

end Rulebook
