import Rulebook.Proofs.Validation.Documents

/-!
# What validation leaves as it is

Only the coercion of dates changes a value. So a value is left alone by all predicates without such
a coercion at any depth; and if there is one in a nested schema only, what an object holds may be
changed, but neither what is no object nor the length of an array.

* `always_runItems`: the verdict on an array is made of those on its elements;
* `Predicate.coerces`, `Json.outline`: what is coerced at all, and what coercions inside of objects
  leave of a value;
* `always_value_run`, `always_value_runChecks`, `always_members_runFields`: values that nothing
  coerces;
* `always_outline_run`, `always_outline_runChecks`: values that are coerced inside of objects only.
-/

namespace Rulebook

open Inquiry
open Json (Members)

/-! ## Elements of arrays -/

/-- The verdict on an array whose elements have these verdicts. -/
def ItemsVerdict.ofVerdicts (verdicts : List Verdict) : ItemsVerdict where
  passed := verdicts.all Verdict.passed
  items := verdicts.map fun v => v.value.getD .null
  violations := verdicts.flatMap Verdict.violations

/-- What holds of the verdict on each element holds of those that the verdict on the array is made
of. -/
theorem always_runItems {run : Site → Option Json → Inquiry Verdict} {R : Json → Verdict → Prop}
    (h : ∀ site x, (run site (some x)).Always (R x)) (site : Site) (i : Nat) (items : List Json) :
    (runItems run site i items).Always fun r =>
      ∃ verdicts, List.Forall₂ R items verdicts ∧ r = .ofVerdicts verdicts := by
  induction items generalizing i with
  | nil => exact always_pure ⟨[], .nil, rfl⟩
  | cons x rest ih =>
    refine (h (site.item i) x).bind fun first hfirst => (ih (i + 1)).bind fun r hr => ?_
    obtain ⟨verdicts, hall, rfl⟩ := hr
    exact always_pure ⟨first :: verdicts, .cons hfirst hall, rfl⟩

/-- What the verdicts on the elements leave unchanged, that on the array does. -/
theorem map_items_ofVerdicts {α : Type} {f : Json → α} {items : List Json}
    {verdicts : List Verdict}
    (h : List.Forall₂ (fun x v => v.value.map f = some (f x)) items verdicts) :
    (ItemsVerdict.ofVerdicts verdicts).items.map f = items.map f := by
  induction h with
  | nil => rfl
  | cons hx _ ih =>
    obtain ⟨w, hw, hf⟩ := Option.map_eq_some_iff.mp hx
    simp only [ItemsVerdict.ofVerdicts] at ih
    simp only [ItemsVerdict.ofVerdicts, List.map_cons, hw, Option.getD_some, hf, ih]

/-! ## Coercions -/

mutual

/-- Whether a predicate coerces values, at any depth. -/
def Predicate.coerces : Predicate → Bool
  | .coerceDate => true
  | .nested ⟨_, fields⟩ => coercesFields fields
  | .each inner => inner.coerces
  | .optional => false
  | .test _ => false
  | .lookup _ => false

def coercesChecks : List Check → Bool
  | [] => false
  | ⟨_, _, predicate, _, _⟩ :: rest => predicate.coerces || coercesChecks rest

def coercesFields : List (String × Field) → Bool
  | [] => false
  | (_, ⟨checks, _⟩) :: rest => coercesChecks checks || coercesFields rest

end

theorem coercesChecks_eq_false_iff {checks : List Check} :
    coercesChecks checks = false ↔ ∀ c ∈ checks, c.predicate.coerces = false := by
  induction checks with
  | nil => simp [coercesChecks]
  | cons c rest ih =>
    obtain ⟨kind, position, predicate, metadata, message⟩ := c
    simp [coercesChecks, ih]

theorem replace_of_find? {name : String} {v : Json} {members : Members}
    (h : members.find? name = some v) : members.replace name v = members := by
  induction members with
  | nil => rfl
  | cons m rest ih =>
    obtain ⟨key, w⟩ := m
    by_cases hk : key = name
    · simp only [Members.find?, hk, ↓reduceIte, Option.some.injEq] at h
      simp [Members.replace, hk, h]
    · simp only [Members.find?, hk, ↓reduceIte] at h
      simp [Members.replace, hk, ih h]

/-- Writing back what was there changes nothing. -/
theorem writeOne_of_find? {name : String} {report : FieldReport} {members : Members}
    (h : report.value = members.find? name) : writeOne name report members = members := by
  unfold writeOne
  split
  · next v hv => exact replace_of_find? (h.symm.trans hv)
  · rfl

-- a predicate, checks and fields together, as they run each other
mutual

theorem always_value_run : ∀ (p : Predicate), p.coerces = false → ∀ (site : Site)
    (value : Option Json), (p.run site value).Always fun v => v.value = value
  | .optional, _, _, _ => always_pure rfl
  | .test t, _, site, value => by
    refine always_pure ?_
    split <;> rfl
  | .lookup l, _, site, value => fun answer => by cases answer <;> exact always_pure rfl
  | .nested ⟨_, fields⟩, h, site, value => by
    refine always_run_nested (fun _ => rfl) (fun members hv => ?_) fun _ => rfl
    subst hv
    exact (always_members_runFields fields h _ members).mono fun _ hr => by rw [hr]
  | .each inner, h, site, value => by
    refine always_run_each (fun items hv => ?_) fun _ => rfl
    subst hv
    refine (always_runItems (fun s x => always_value_run inner h s (some x)) site 0 items).mono ?_
    rintro _ ⟨verdicts, hall, rfl⟩
    have hitems := map_items_ofVerdicts (f := id) (by simpa using hall)
    simpa using hitems

theorem always_value_runChecks : ∀ (checks : List Check), coercesChecks checks = false →
    ∀ (path : String) (failed : Option Nat) (value : Option Json),
      (runChecks checks path failed value).Always fun r => r.value = value
  | [], _, _, _, _ => always_pure rfl
  | ⟨kind, position, predicate, _, message⟩ :: rest, h, path, failed, value => by
    simp only [coercesChecks, Bool.or_eq_false_iff] at h
    simp only [runChecks]
    split
    · exact always_value_runChecks rest h.2 path failed value
    · refine (always_value_run predicate h.1 _ value).bind fun verdict hv => ?_
      refine (always_value_runChecks rest h.2 path _ verdict.value).bind fun report hr => ?_
      exact always_pure (hr.trans hv)

theorem always_members_runFields : ∀ (fields : List (String × Field)),
    coercesFields fields = false → ∀ (base : String) (members : Members),
      (runFields fields base members).Always fun r => r.members = members
  | [], _, _, _ => always_pure rfl
  | (name, ⟨checks, metadata⟩) :: rest, h, base, members => by
    simp only [coercesFields, Bool.or_eq_false_iff] at h
    have hfield : (unlessSkipped checks (members.find? name)
        (runChecks checks (base ++ name) none (members.find? name))).Always fun r =>
          r.value = members.find? name := by
      unfold unlessSkipped
      split
      · exact always_pure rfl
      · exact always_value_runChecks checks h.1 _ none _
    refine hfield.bind fun report hr => ?_
    change (runFields rest base (writeOne name report members) >>= _).Always _
    rw [writeOne_of_find? hr]
    exact (always_members_runFields rest h.2 base members).bind fun _ hm => always_pure hm

end

/-! ## Outlines -/

/-- A value without what it holds if it is an object. -/
def Json.flat : Json → Json
  | .object _ => .object []
  | v => v

/-- A value without what objects hold, be it such an object or an array of them. -/
def Json.outline : Json → Json
  | .array items => .array (items.map flat)
  | v => v.flat

@[simp] theorem Json.outline_flat (v : Json) : v.flat.outline = v.outline := by
  cases v <;> rfl

/-- Values of one outline differ in what objects hold only. -/
theorem Json.outline_cases {u v : Json} (h : u.outline = v.outline) :
    u = v ∨ (∃ ms ns, u = .object ms ∧ v = .object ns) ∨
      ∃ xs ys, u = .array xs ∧ v = .array ys ∧ xs.map flat = ys.map flat := by
  cases u <;> cases v <;> simp_all [flat, outline]

/-- Whether a predicate coerces what an object holds at most. -/
def Predicate.keepsFlat : Predicate → Bool
  | .coerceDate => false
  | .each _ => false
  | _ => true

/-- Whether a predicate coerces what objects hold at most, an object or those of an array. -/
def Predicate.keepsOutline : Predicate → Bool
  | .each inner => inner.keepsFlat
  | p => p.keepsFlat

theorem always_flat_run {p : Predicate} (h : p.keepsFlat = true) (site : Site)
    (value : Option Json) :
    (p.run site value).Always fun v => v.value.map Json.flat = value.map Json.flat := by
  cases p with
  | coerceDate => cases h
  | each inner => cases h
  | optional => exact always_pure rfl
  | test t => exact Always.mono (always_value_run (.test t) rfl site value) fun _ => congrArg _
  | lookup l => exact Always.mono (always_value_run (.lookup l) rfl site value) fun _ => congrArg _
  | nested schema =>
    refine always_run_nested (fun _ => rfl) (fun members hv => ?_) fun _ => rfl
    subst hv
    exact (always_true _).mono fun _ _ => rfl

theorem always_outline_run {p : Predicate} (h : p.keepsOutline = true) (site : Site)
    (value : Option Json) :
    (p.run site value).Always fun v => v.value.map Json.outline = value.map Json.outline := by
  have hflat (hp : p.keepsFlat = true) : (p.run site value).Always fun v =>
      v.value.map Json.outline = value.map Json.outline := by
    refine Always.mono (always_flat_run hp site value) fun v hv => ?_
    have houtline (w : Option Json) : w.map Json.outline = (w.map Json.flat).map Json.outline := by
      simp [Function.comp_def]
    rw [houtline, hv, ← houtline]
  cases p with
  | each inner =>
    refine always_run_each (fun items hv => ?_) fun _ => rfl
    subst hv
    refine (always_runItems (fun s x => always_flat_run h s (some x)) site 0 items).mono ?_
    rintro _ ⟨verdicts, hall, rfl⟩
    exact congrArg (fun xs => some (Json.array xs)) (map_items_ofVerdicts hall)
  | _ => exact hflat h

theorem always_outline_runChecks {checks : List Check}
    (h : ∀ c ∈ checks, c.predicate.keepsOutline = true) (path : String) (failed : Option Nat)
    (value : Option Json) :
    (runChecks checks path failed value).Always fun r =>
      r.value.map Json.outline = value.map Json.outline :=
  always_runChecks (fun c hc => always_outline_run (h c hc)) path failed value

end Rulebook
