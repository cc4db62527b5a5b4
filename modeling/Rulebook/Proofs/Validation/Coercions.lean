import Rulebook.Proofs.Field.Places
import Rulebook.Proofs.Rule.Predicates
import Rulebook.Proofs.Validation.Composition
import Rulebook.Proofs.Validation.Unchanged

/-!
# What validation makes of a document

Checks coerce dates one after another, and some checks are skipped. Yet what a document is given
back as depends on nothing but the rules: its dates are coerced at places that the predicates of the
schema tell, whatever is asked, answered and reported. No coercion is lost by skipping, since that
of a `date` rule comes first in its token, and behind the test for an array only elements are
coerced, which no other value has. So validating again, by the same schema, changes nothing.

* `Predicate.coercesAt`: the places at which a predicate coerces dates;
* `always_coerced_run`, `always_coerced_runFields`, `always_coerced_compileTokens`: predicates,
  fields and tokens;
* `Field.Written.coerces`, `always_coerced_validate`: fields of rule strings, and documents;
* `revalidation_changes_nothing`: validating again.
-/

namespace Rulebook

open Inquiry
open Json (Members Places coerced coercedItems coercedMembers)

/-! ## The places of predicates -/

mutual

/-- Whether a predicate coerces dates at a place of its value. -/
def Predicate.coercesAt : Predicate → Json.Place → Bool
  | .coerceDate, [] => true
  | .nested ⟨_, fields⟩, .key name :: place => fieldsCoerceAt fields name place
  | .each inner, .item _ :: place => inner.coercesAt place
  | _, _ => false

def checksCoerceAt : List Check → Json.Place → Bool
  | [], _ => false
  | ⟨_, _, predicate, _, _⟩ :: rest, place =>
    predicate.coercesAt place || checksCoerceAt rest place

/-- Whether the fields of a schema coerce dates at a place of the member of that name. -/
def fieldsCoerceAt : List (String × Field) → String → Json.Place → Bool
  | [], _, _ => false
  | (name, ⟨checks, _⟩) :: rest, key, place =>
    (key == name && checksCoerceAt checks place) || fieldsCoerceAt rest key place

end

theorem checksCoerceAt_append (xs ys : List Check) :
    checksCoerceAt (xs ++ ys) = Places.union (checksCoerceAt xs) (checksCoerceAt ys) := by
  funext place
  induction xs with
  | nil => rfl
  | cons c xs ih =>
    obtain ⟨kind, position, predicate, metadata, message⟩ := c
    simp only [List.cons_append, checksCoerceAt, ih, Places.union, Bool.or_assoc]

theorem checksCoerceAt_iff {checks : List Check} {place : Json.Place} :
    checksCoerceAt checks place = true ↔ ∃ c ∈ checks, c.predicate.coercesAt place = true := by
  induction checks with
  | nil => simp [checksCoerceAt]
  | cons c rest ih =>
    obtain ⟨kind, position, predicate, metadata, message⟩ := c
    simp [checksCoerceAt, ih]

theorem fieldsCoerceAt_iff {fields : List (String × Field)} {name : String} {place : Json.Place} :
    fieldsCoerceAt fields name place = true ↔
      ∃ f, (name, f) ∈ fields ∧ ∃ c ∈ f.checks, c.predicate.coercesAt place = true := by
  induction fields with
  | nil => simp [fieldsCoerceAt]
  | cons p rest ih =>
    obtain ⟨key, checks, metadata⟩ := p
    simp only [fieldsCoerceAt, Bool.or_eq_true, Bool.and_eq_true, beq_iff_eq, ih,
      checksCoerceAt_iff, List.mem_cons, Prod.mk.injEq]
    constructor
    · rintro (⟨rfl, hc⟩ | ⟨f, hf, hc⟩)
      · exact ⟨_, .inl ⟨rfl, rfl⟩, hc⟩
      · exact ⟨f, .inr hf, hc⟩
    · rintro ⟨f, ⟨rfl, rfl⟩ | hf, hc⟩
      · exact .inl ⟨rfl, hc⟩
      · exact .inr ⟨f, hf, hc⟩

theorem Predicate.coercesAt_nested_under (name : String) (fields : List (String × Field))
    (key : String) :
    Places.under (Predicate.nested ⟨name, fields⟩).coercesAt (.key key) =
      fieldsCoerceAt fields key := by
  funext place
  simp [Places.under, Predicate.coercesAt]

theorem Predicate.coercesAt_each_under (inner : Predicate) (index : Nat) :
    Places.under (Predicate.each inner).coercesAt (.item index) = inner.coercesAt := by
  funext place
  simp [Places.under, Predicate.coercesAt]

-- a predicate, checks and fields together, as they refer to each other
mutual

/-- What coerces nothing at all coerces nothing at any place. -/
theorem coercesAt_eq_false : ∀ (p : Predicate), p.coerces = false → ∀ place : Json.Place,
    p.coercesAt place = false
  | .optional, _, place | .test _, _, place | .lookup _, _, place => by
    simp [Predicate.coercesAt]
  | .nested ⟨_, fields⟩, h, [] | .nested ⟨_, fields⟩, h, .item _ :: _ => by
    simp [Predicate.coercesAt]
  | .nested ⟨_, fields⟩, h, .key name :: place => by
    rw [Predicate.coercesAt]
    exact fieldsCoerceAt_eq_false fields h name place
  | .each inner, h, [] | .each inner, h, .key _ :: _ => by
    simp [Predicate.coercesAt]
  | .each inner, h, .item _ :: place => by
    rw [Predicate.coercesAt]
    exact coercesAt_eq_false inner h place

theorem checksCoerceAt_eq_false : ∀ (checks : List Check), coercesChecks checks = false →
    ∀ place : Json.Place, checksCoerceAt checks place = false
  | [], _, _ => rfl
  | ⟨_, _, predicate, _, _⟩ :: rest, h, place => by
    simp only [coercesChecks, Bool.or_eq_false_iff] at h
    simp only [checksCoerceAt, coercesAt_eq_false predicate h.1,
      checksCoerceAt_eq_false rest h.2, Bool.or_self]

theorem fieldsCoerceAt_eq_false : ∀ (fields : List (String × Field)),
    coercesFields fields = false → ∀ (name : String) (place : Json.Place),
      fieldsCoerceAt fields name place = false
  | [], _, _, _ => rfl
  | (_, ⟨checks, _⟩) :: rest, h, name, place => by
    simp only [coercesFields, Bool.or_eq_false_iff] at h
    simp only [fieldsCoerceAt, checksCoerceAt_eq_false checks h.1,
      fieldsCoerceAt_eq_false rest h.2, Bool.and_false, Bool.or_self]

end

/-! ## Values -/

theorem coerced_of_coerces {p : Predicate} (h : p.coerces = false) (v : Json) :
    v.coerced p.coercesAt = v :=
  Json.coerced_eq_self v _ fun place _ _ hd =>
    absurd hd (Bool.eq_false_iff.mp (coercesAt_eq_false p h place))

theorem coerced_coerceDate (v : Json) :
    v.coerced Predicate.coerceDate.coercesAt = (coerceDate v).getD v := by
  by_cases h : v.IsLeaf
  · rw [Json.coerced_of_isLeaf h]
    rfl
  · have hnone := Json.coerceDate_of_not_isLeaf h
    rw [hnone, Option.getD_none]
    refine Json.coerced_eq_self v _ fun place w hw hd => ?_
    cases place with
    | nil => exact Option.some.inj hw ▸ hnone
    | cons step place => cases hd

/-- A value that is no object has no members to be coerced. -/
theorem coerced_nested_of_not_object {v : Json} (h : ∀ members, v ≠ .object members)
    (schema : Schema) : v.coerced (Predicate.nested schema).coercesAt = v := by
  obtain ⟨name, fields⟩ := schema
  refine Json.coerced_eq_self v _ fun place w hw hd => ?_
  rcases place with _ | ⟨key | index, place⟩
  · cases hd
  · cases v with
    | object members => exact absurd rfl (h members)
    | _ => cases hw
  · cases hd

/-- A value that is no array has no elements to be coerced. -/
theorem coerced_each_of_not_array {v : Json} (h : ∀ items, v ≠ .array items) (inner : Predicate) :
    v.coerced (Predicate.each inner).coercesAt = v := by
  refine Json.coerced_eq_self v _ fun place w hw hd => ?_
  rcases place with _ | ⟨key | index, place⟩
  · cases hd
  · cases hd
  · cases v with
    | array items => exact absurd rfl (h items)
    | _ => cases hw

theorem coercedItems_each (items : List Json) (inner : Predicate) (i : Nat) :
    coercedItems items (Predicate.each inner).coercesAt i =
      items.map fun x => x.coerced inner.coercesAt := by
  induction items generalizing i with
  | nil => rfl
  | cons x xs ih =>
    rw [coercedItems, Predicate.coercesAt_each_under, ih, List.map_cons]

theorem coerced_object (members : Members) (schema : Schema) :
    (Json.object members).coerced (Predicate.nested schema).coercesAt =
      .object (coercedMembers members (fieldsCoerceAt schema.fields)) := by
  obtain ⟨name, fields⟩ := schema
  exact congrArg (fun d => Json.object (coercedMembers members d))
    (funext fun key => Predicate.coercesAt_nested_under name fields key)

/-! ## Predicates -/

/-- Every value is given back coerced at the places of the checks, whatever is asked. -/
def Field.Coerces (f : Field) : Prop :=
  ∀ (path : String) (value : Option Json), (f.validate path value).Always fun r =>
    r.value = value.map fun v => v.coerced (checksCoerceAt f.checks)

/-- So do the fields of the schema that a predicate refers to, if it refers to one. -/
def Predicate.SchemaCoerces (p : Predicate) : Prop :=
  ∀ s, p.schema? = some s → ∀ q ∈ s.fields, q.2.Coerces

theorem coercedMembers_cons (name : String) (f : Field) (rest : List (String × Field))
    (members : Members) :
    coercedMembers members (fieldsCoerceAt ((name, f) :: rest)) =
      coercedMembers
        (coercedMembers members
          (Function.update (fun _ => Places.none) name (checksCoerceAt f.checks)))
        (fieldsCoerceAt rest) := by
  rw [Json.coercedMembers_coercedMembers]
  congr 1
  funext key place
  obtain ⟨checks, metadata⟩ := f
  by_cases hk : key = name
  · subst hk
    simp [fieldsCoerceAt, Places.union]
  · simp [fieldsCoerceAt, Places.union, Places.none, hk]

/-- Fields write back what they give, one after another. -/
theorem always_coerced_runFields {fields : List (String × Field)}
    (h : ∀ p ∈ fields, p.2.Coerces) (base : String) (members : Members) :
    (runFields fields base members).Always fun r =>
      r.members = coercedMembers members (fieldsCoerceAt fields) := by
  induction fields generalizing members with
  | nil => exact always_pure (Json.coercedMembers_none members).symm
  | cons p rest ih =>
    obtain ⟨name, f⟩ := p
    obtain ⟨hf, hrest⟩ := List.forall_mem_cons.mp h
    rw [runFields_cons]
    refine (hf (base ++ name) (Members.find? name members)).bind fun report hreport => ?_
    refine (ih hrest _).bind fun r hr => always_pure ?_
    rw [hr, coercedMembers_cons, Json.coercedMembers_update, hreport]
    cases Members.find? name members with
    | none => rfl
    | some v => rfl

theorem items_ofVerdicts {f : Json → Json} {items : List Json} {verdicts : List Verdict}
    (h : List.Forall₂ (fun x v => v.value = some (f x)) items verdicts) :
    (ItemsVerdict.ofVerdicts verdicts).items = items.map f := by
  induction h with
  | nil => rfl
  | cons hx _ ih =>
    simp only [ItemsVerdict.ofVerdicts, List.map_cons, hx, Option.getD_some] at ih ⊢
    rw [ih]

theorem Predicate.run_test (t : Test) (site : Site) (value : Option Json) :
    (Predicate.test t).run site value = pure (if t.holds value then .accept value
      else site.reject value (t.describe site.path)) := rfl

theorem always_coerced_run : ∀ (p : Predicate), p.SchemaCoerces → ∀ (site : Site) (v : Json),
    (p.run site (some v)).Always fun r => r.value = some (v.coerced p.coercesAt)
  | .optional, _, _, v => always_pure (congrArg some (coerced_of_coerces rfl v).symm)
  | .coerceDate, _, _, v => by
    refine always_pure ?_
    rw [coerced_coerceDate]
    cases h : coerceDate v <;> simp [Verdict.accept, h]
  | .test t, _, site, v => by
    rw [coerced_of_coerces rfl]
    exact always_value_run (.test t) rfl site (some v)
  | .lookup l, _, site, v => by
    rw [coerced_of_coerces rfl]
    exact always_value_run (.lookup l) rfl site (some v)
  | .nested ⟨name, fields⟩, h, site, v => by
    cases v with
    | object members =>
      refine (always_coerced_runFields (h _ rfl) (site.path ++ ".") members).bind fun r hr => ?_
      rw [coerced_object, ← hr]
      exact always_pure rfl
    | _ => exact always_pure (congrArg some (coerced_nested_of_not_object (by nofun) _).symm)
  | .each inner, h, site, v => by
    cases v with
    | array items =>
      refine (always_runItems (fun s x => always_coerced_run inner h s x) site 0 items).bind ?_
      rintro _ ⟨verdicts, hall, rfl⟩
      refine always_pure (congrArg some ?_)
      rw [items_ofVerdicts hall, ← coercedItems_each items inner 0]
      rfl
    | _ => exact always_pure (congrArg some (coerced_each_of_not_array (by nofun) _).symm)

/-! ## Checks -/

/-- Of checks only the first of which coerces anything, that one is run, and no other changes what
it gives. -/
theorem always_coerced_cons {c : Check} {rest : List Check} (hc : c.predicate.SchemaCoerces)
    (hrest : coercesChecks rest = false) (path : String) (v : Json) :
    (runChecks (c :: rest) path none (some v)).Always fun r =>
      r.value = some (v.coerced (checksCoerceAt (c :: rest))) := by
  obtain ⟨kind, position, predicate, metadata, message⟩ := c
  have hplaces : checksCoerceAt (⟨kind, position, predicate, metadata, message⟩ :: rest) =
      predicate.coercesAt := by
    funext place
    rw [checksCoerceAt, checksCoerceAt_eq_false rest hrest, Bool.or_false]
  rw [hplaces]
  simp only [runChecks, reduceCtorEq, ↓reduceIte]
  refine (always_coerced_run predicate hc _ v).bind fun verdict hverdict => ?_
  refine (always_value_runChecks rest hrest path _ verdict.value).bind fun r hr => ?_
  exact always_pure (hr.trans hverdict)

/-- An array is told from other values before its elements are looked at, and these other values
have none that could be coerced. -/
theorem always_coerced_elements {c d : Check} {inner : Predicate}
    (hc : c.predicate = .test .sequence) (hd : d.predicate = .each inner)
    (hp : d.position = c.position) (hinner : inner.SchemaCoerces) (path : String) (v : Json) :
    (runChecks [c, d] path none (some v)).Always fun r =>
      r.value = some (v.coerced (checksCoerceAt [c, d])) := by
  obtain ⟨kind, position, predicate, metadata, message⟩ := c
  obtain ⟨kind', position', predicate', metadata', message'⟩ := d
  obtain rfl : predicate = .test .sequence := hc
  obtain rfl : predicate' = .each inner := hd
  obtain rfl : position' = position := hp
  have hplaces : checksCoerceAt [⟨kind, position', .test .sequence, metadata, message⟩,
      ⟨kind', position', .each inner, metadata', message'⟩] = (Predicate.each inner).coercesAt := by
    funext place
    simp only [checksCoerceAt, coercesAt_eq_false (.test .sequence) rfl, Bool.false_or,
      Bool.or_false]
  rw [hplaces]
  simp only [runChecks, reduceCtorEq, ↓reduceIte, Predicate.run_test, pure_bind]
  by_cases hv : Test.sequence.holds (some v) = true
  · simp only [hv, ↓reduceIte, Verdict.accept, reduceCtorEq, LawfulMonad.bind_assoc, pure_bind]
    exact (always_coerced_run (.each inner) hinner _ v).bind fun r hr => always_pure hr
  · -- the check of the elements is skipped, as it has the position of the one that failed
    have harray : ∀ items, v ≠ .array items := fun items h => hv (h ▸ rfl)
    rw [coerced_each_of_not_array harray]
    simp only [hv, Site.reject, Bool.false_eq_true, ↓reduceIte, pure_bind]
    exact always_pure rfl

/-! ## Fields -/

/-- All checks of a rule coerce, though some may be skipped. -/
theorem always_coerced_checks {r : Rule} {position : Nat} {context : Context}
    (h : ∀ c ∈ r.checks position context, c.predicate.SchemaCoerces) (path : String) (v : Json) :
    (runChecks (r.checks position context) path none (some v)).Always fun report =>
      report.value = some (v.coerced (checksCoerceAt (r.checks position context))) := by
  cases r with
  | date =>
    refine always_coerced_cons (h _ (List.mem_cons_self ..)) ?_ path v
    cases he : context.each <;> simp [coercesChecks, Rule.Place.own, Predicate.coerces]
  | array element =>
    have helements : (Rule.elementCheck _ element).1.SchemaCoerces :=
      h _ (List.mem_cons_of_mem _ (List.mem_singleton_self _))
    exact always_coerced_elements (by rfl) (by rfl) (by rfl) helements path v
  | _ => exact always_coerced_cons (h _ (List.mem_cons_self ..)) rfl path v

/-- Tokens coerce one after another: what one of them skips are checks of its own. -/
theorem always_coerced_compileTokens {context : Context} {position : Nat} {tokens : List Token}
    {checks : List Check} (hc : compileTokens context position tokens = .ok checks)
    (h : ∀ c ∈ checks, c.predicate.SchemaCoerces) (path : String) (v : Json) :
    (runChecks checks path none (some v)).Always fun report =>
      report.value = some (v.coerced (checksCoerceAt checks)) := by
  induction tokens generalizing position checks v with
  | nil =>
    obtain rfl := Except.ok.inj hc
    exact always_pure (congrArg some (Json.coerced_none v).symm)
  | cons t tokens ih =>
    obtain ⟨r, more, _, hmore, rfl⟩ := compileTokens_cons_ok hc
    obtain ⟨hr, hrest⟩ := List.forall_mem_append.mp h
    rw [runChecks_append (position_ne_of_compileTokens hmore) (by simp), checksCoerceAt_append,
      ← Json.coerced_coerced]
    refine (always_coerced_checks hr path v).bind fun first hfirst => ?_
    rw [hfirst]
    exact (ih hmore hrest _).bind fun second hsecond => always_pure hsecond

theorem Field.Written.coerces {f : Field} (hf : f.Written) : f.Coerces := by
  induction hf with
  | @compile rules context f hf hs ih =>
    intro path value
    have hschemas : ∀ c ∈ f.checks, c.predicate.SchemaCoerces :=
      fun c hc s hcs => ih s (supplies_of_compile hf hc hcs)
    by_cases hskip : f.isOptional = true ∧ isAbsent value = true
    · rw [Field.validate_of_absent path hskip.1 hskip.2]
      rcases value with _ | v
      · exact always_pure rfl
      · cases v with
        | null => exact always_pure (congrArg some (Json.coerced_null _).symm)
        | _ => cases hskip.2
    · have hrun : isAbsent value = false ∨ f.isOptional = false := by
        cases hv : isAbsent value <;> simp_all
      rw [Field.validate_eq_runChecks hrun]
      cases value with
      | some v => exact always_coerced_compileTokens (compile_ok hf) hschemas path v
      | none =>
        refine (always_isNull_runChecks f.checks path none none).mono fun r hr => ?_
        exact Option.map_eq_none_iff.mp hr

/-! ## Documents -/

/-- The places at which a schema coerces the dates of a document. -/
def Schema.coercesAt (s : Schema) : Places := (Predicate.nested s).coercesAt

/-- A document is given back with its dates coerced at the places of the schema, whatever is asked
and whatever is reported. -/
theorem always_coerced_validate {s : Schema} (hs : s.Written) (document : Json) :
    (s.validate document).Always fun r => r.value = document.coerced s.coercesAt := by
  cases document with
  | object members =>
    refine (always_coerced_runFields (fun p hp => (hs p hp).coerces) "" members).bind ?_
    intro r hr
    rw [Schema.coercesAt, coerced_object, ← hr]
    exact always_pure rfl
  | _ => exact always_pure (coerced_nested_of_not_object (by nofun) s).symm

/-! ## Validating again -/

/-- **Validating again.** What validation makes of a document is the document with its dates coerced
at the places of the schema. If that is validated by the same schema, nothing is changed any more,
whatever the evaluators answer and whatever is reported either time. -/
theorem revalidation_changes_nothing {s : Schema} (hs : s.Written) {document : Json} {σ τ : Type}
    {first : Evaluator (StateM σ)} {second : Evaluator (StateM τ)} {a a' : σ} {b b' : τ}
    {r r' : Report} (h : (s.validate document).resultFrom first a = (.ok r, a'))
    (h' : (s.validate r.value).resultFrom second b = (.ok r', b')) :
    r.value = document.coerced s.coercesAt ∧ r'.value = r.value := by
  have hfirst : r.value = document.coerced s.coercesAt :=
    (always_coerced_validate hs document).of_resultFrom h
  have hsecond : r'.value = r.value.coerced s.coercesAt :=
    (always_coerced_validate hs r.value).of_resultFrom h'
  refine ⟨hfirst, ?_⟩
  rw [hsecond, hfirst]
  exact Json.coerced_self document s.coercesAt

/-- A day that validation shifts into the year 10000, so that it is no date any more: it is rejected
both times, and given back the second time as it was after the first. -/
theorem revalidation_changes_nothing_rejected :
    ∃ s r r', (Schema.empty "Event").declare "day" "date" Context.empty = .ok s ∧
      (s.validate (.object [("day", .string "9999-12-31T23:30:00-01:00")])).resultFrom
        (fun _ _ => pure (.ok true) : Evaluator (StateM Unit)) () = (.ok r, ()) ∧
      (s.validate r.value).resultFrom
        (fun _ _ => pure (.ok true) : Evaluator (StateM Unit)) () = (.ok r', ()) ∧
      r.isValid = false ∧ r'.value = r.value := by
  have hs := @Schema.Written.declare _ _ (.empty "Event") "day" "date" Context.empty
    (by rintro _ (h | h) <;> cases h) rfl
  obtain ⟨_, hvalue⟩ := @revalidation_changes_nothing _ hs
    (.object [("day", .string "9999-12-31T23:30:00-01:00")]) Unit Unit
    (fun _ _ => pure (.ok true)) (fun _ _ => pure (.ok true)) () () () () _ _ rfl rfl
  exact ⟨_, _, _, rfl, rfl, rfl, rfl, hvalue⟩

end Rulebook
