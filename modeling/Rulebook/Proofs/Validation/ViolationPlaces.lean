import Rulebook.Proofs.Field.Paths
import Rulebook.Proofs.Validation.Documents

/-!
# Where violations are

Validation goes down into a document along the fields of nested schemas and the elements of arrays,
and writes down the steps as it goes. So the path of a violation leads to a part of the document
that a check is about; and as there is one way to read it, violations of one path are about the same
part.

* `Predicate.RunsAt`, `Predicate.Admits`: the predicates that are run at a place, and the steps from
  there on;
* `RunsAt.of_shape`: coercing values does not change what is run where;
* `always_within_run`: violations are where their predicates are run;
* `Violation.IsAt`, `violations_are_at_places`: documents.
-/

namespace Rulebook

open Inquiry
open Json (Members shape shapeItems shapeMembers isPlainName)

/-! ## Shapes -/

namespace Json

theorem shapeItems_eq_map (items : List Json) : shapeItems items = items.map shape := by
  induction items with
  | nil => rfl
  | cons x rest ih => rw [shapeItems, ih, List.map_cons]

theorem find?_shapeMembers (name : String) (members : Members) :
    Members.find? name (shapeMembers members) = (Members.find? name members).map shape := by
  induction members with
  | nil => rfl
  | cons m rest ih =>
    obtain ⟨key, x⟩ := m
    by_cases hk : key = name
    · simp [shapeMembers, Members.find?, hk]
    · simp [shapeMembers, Members.find?, hk, ih]

theorem exists_array_of_shape {items : List Json} {w : Option Json}
    (h : (some (array items)).map shape = w.map shape) :
    ∃ others, w = some (array others) ∧ items.map shape = others.map shape := by
  cases w with
  | none => cases h
  | some w =>
    cases w with
    | array others =>
      have hitems := Json.array.inj (Option.some.inj h)
      rw [shapeItems_eq_map, shapeItems_eq_map] at hitems
      exact ⟨others, rfl, hitems⟩
    | _ => cases Option.some.inj h

theorem exists_object_of_shape {members : Members} {w : Option Json}
    (h : (some (object members)).map shape = w.map shape) :
    ∃ others, w = some (object others) ∧ shapeMembers members = shapeMembers others := by
  cases w with
  | none => cases h
  | some w =>
    cases w with
    | object others => exact ⟨others, rfl, Json.object.inj (Option.some.inj h)⟩
    | _ => cases Option.some.inj h

/-- Dates are coerced from leaves to leaves. -/
theorem shape_coerceDate (value : Option Json) :
    ((value.bind coerceDate).or value).map shape = value.map shape := by
  cases value with
  | none => rfl
  | some v =>
    have hor : ((some v).bind coerceDate).or (some v) = some ((coerceDate v).getD v) := by
      cases hc : coerceDate v <;> simp [hc]
    rw [hor]
    by_cases hv : v.IsLeaf
    · exact congrArg some ((shape_of_isLeaf (isLeaf_getD_coerceDate hv)).trans
        (shape_of_isLeaf hv).symm)
    · rw [coerceDate_of_not_isLeaf hv, Option.getD_none]

theorem shapeMembers_replace {name : String} {v w : Json} {members : Members}
    (h : members.find? name = some v) (hs : w.shape = v.shape) :
    shapeMembers (members.replace name w) = shapeMembers members := by
  induction members with
  | nil => rfl
  | cons m rest ih =>
    obtain ⟨key, x⟩ := m
    by_cases hk : key = name
    · simp only [Members.find?, hk, ↓reduceIte, Option.some.injEq] at h
      simp [Members.replace, shapeMembers, hk, hs, h]
    · simp only [Members.find?, hk, ↓reduceIte] at h
      simp [Members.replace, shapeMembers, hk, ih h]

end Json

/-- Writing back a value of the same shape keeps the shape. -/
theorem shapeMembers_writeOne {name : String} {report : FieldReport} {members : Members}
    (h : report.value.map shape = (members.find? name).map shape) :
    shapeMembers (writeOne name report members) = shapeMembers members := by
  unfold writeOne
  split
  · next w hw =>
    rw [hw, Option.map_some] at h
    obtain ⟨v, hv, hvw⟩ := Option.map_eq_some_iff.mp h.symm
    exact Json.shapeMembers_replace hv hvw.symm
  · rfl

/-! ## What is run where -/

/-- To run `p` on a value on behalf of a rule of some kind means to run `q` at a place of the value,
on behalf of a rule: `p` itself on the value, or what it applies to elements or members. -/
inductive Predicate.RunsAt :
    Predicate → Kind → Option Json → Json.Place → Predicate → Kind → Prop where
  | here {p : Predicate} {kind : Kind} {value : Option Json} : RunsAt p kind value [] p kind
  | item {inner q : Predicate} {kind rule : Kind} {items : List Json} {index : Nat} {x : Json}
      {place : Json.Place} (hx : items[index]? = some x)
      (h : RunsAt inner kind (some x) place q rule) :
      RunsAt (.each inner) kind (some (.array items)) (.item index :: place) q rule
  | member {schema : Schema} {q : Predicate} {kind rule : Kind} {members : Members} {name : String}
      {f : Field} {c : Check} {place : Json.Place} (hf : (name, f) ∈ schema.fields)
      (hc : c ∈ f.checks) (h : RunsAt c.predicate c.kind (members.find? name) place q rule) :
      RunsAt (.nested schema) kind (some (.object members)) (.key name :: place) q rule

/-- A predicate goes on from a value by a step: to an element that there is, or to a member that a
nested schema declares. -/
inductive Predicate.Admits : Predicate → Json → Json.Step → Prop where
  | item {inner : Predicate} {items : List Json} {index : Nat} (h : index < items.length) :
      Admits (.each inner) (.array items) (.item index)
  | member {schema : Schema} {members : Members} {name : String} (h : name ∈ schema.names) :
      Admits (.nested schema) (.object members) (.key name)

namespace Predicate.RunsAt

variable {p q : Predicate} {kind rule : Kind} {v w : Option Json} {place : Json.Place}

/-- Values of one shape are gone through in one way. -/
theorem of_shape (h : p.RunsAt kind v place q rule) (hs : v.map shape = w.map shape) :
    p.RunsAt kind w place q rule := by
  induction h generalizing w with
  | here => exact .here
  | @item inner q kind rule items index x place hx h ih =>
    obtain ⟨others, rfl, hitems⟩ := Json.exists_array_of_shape hs
    have hshape : (others[index]?).map shape = some x.shape := by
      rw [← List.getElem?_map, ← hitems, List.getElem?_map, hx, Option.map_some]
    obtain ⟨y, hy, hxy⟩ := Option.map_eq_some_iff.mp hshape
    exact .item hy (ih (congrArg some hxy.symm))
  | @member schema q kind rule members name f c place hf hc h ih =>
    obtain ⟨others, rfl, hmembers⟩ := Json.exists_object_of_shape hs
    refine .member hf hc (ih ?_)
    rw [← Json.find?_shapeMembers, ← Json.find?_shapeMembers, hmembers]

/-- Every step on the way is one that the predicate run there goes on by. -/
theorem exists_admits {before after : Json.Place} {step : Json.Step}
    (h : p.RunsAt kind v (before ++ step :: after) q rule) :
    ∃ p' kind' part, p.RunsAt kind v before p' kind' ∧
      (v.bind fun u => u.at? before) = some part ∧ p'.Admits part step := by
  induction before generalizing p kind v with
  | nil =>
    cases h with
    | @item inner _ _ _ items index x _ hx h =>
      obtain ⟨hlt, _⟩ := List.getElem?_eq_some_iff.mp hx
      exact ⟨_, _, .array items, .here, rfl, .item hlt⟩
    | @member schema _ _ _ members name f c _ hf hc h =>
      have hname : name ∈ schema.names := List.mem_map.mpr ⟨_, hf, rfl⟩
      exact ⟨_, _, .object members, .here, rfl, .member hname⟩
  | cons first before ih =>
    cases h with
    | @item inner _ _ _ items index x _ hx h =>
      obtain ⟨p', kind', part, hruns, hpart, hadmits⟩ := ih h
      refine ⟨p', kind', part, .item hx hruns, ?_, hadmits⟩
      have hchild : (Json.array items).child? (.item index) = some x := hx
      show ((Json.array items).child? (.item index)).bind (fun u => u.at? before) = some part
      rw [hchild]
      exact hpart
    | @member schema _ _ _ members name f c _ hf hc h =>
      obtain ⟨p', kind', part, hruns, hpart, hadmits⟩ := ih h
      exact ⟨p', kind', part, .member hf hc hruns, hpart, hadmits⟩

end Predicate.RunsAt

/-! ## Violations -/

/-- A violation is at a place, written behind a path, where a predicate is run on behalf of its
rule. -/
def Violation.Within (path : String) (runs : Json.Place → Predicate → Kind → Prop) (v : Violation) :
    Prop :=
  ∃ place q, v.path = path ++ Json.Place.text place ∧ runs place q v.rule

theorem Violation.Within.mono {path : String} {runs others : Json.Place → Predicate → Kind → Prop}
    {v : Violation} (h : v.Within path runs)
    (hruns : ∀ place q rule, runs place q rule → others place q rule) : v.Within path others := by
  obtain ⟨place, q, hpath, hq⟩ := h
  exact ⟨place, q, hpath, hruns place q v.rule hq⟩

/-- What is rejected as a whole is rejected at its own place. -/
theorem within_reject (p : Predicate) (site : Site) (value : Option Json) (text : String) :
    ∀ v ∈ (site.reject value text).violations,
      v.Within site.path (p.RunsAt site.kind value) := by
  intro v hv
  obtain rfl := List.mem_singleton.mp hv
  exact ⟨[], p, String.append_empty.symm, .here⟩

theorem within_accept (p : Predicate) (site : Site) (value w : Option Json) :
    ∀ v ∈ (Verdict.accept w).violations, v.Within site.path (p.RunsAt site.kind value) :=
  nofun

/-- Elements are run one after another, each at its index. -/
theorem always_within_runItems {inner : Predicate}
    (h : ∀ site x, (inner.run site (some x)).Always fun r =>
      r.value.map shape = some x.shape ∧
        ∀ v ∈ r.violations, v.Within site.path (inner.RunsAt site.kind (some x)))
    (site : Site) (i : Nat) (items : List Json) :
    (runItems inner.run site i items).Always fun r =>
      r.items.map shape = items.map shape ∧ ∀ v ∈ r.violations, ∃ index x,
        items[index]? = some x ∧
          v.Within (site.item (i + index)).path (inner.RunsAt site.kind (some x)) := by
  induction items generalizing i with
  | nil => exact always_pure ⟨rfl, nofun⟩
  | cons x rest ih =>
    refine (h (site.item i) x).bind fun first hfirst => (ih (i + 1)).bind fun r hr => ?_
    obtain ⟨hx, hviolations⟩ := hfirst
    obtain ⟨hitems, hothers⟩ := hr
    refine always_pure ⟨?_, ?_⟩
    · obtain ⟨y, hy, hyx⟩ := Option.map_eq_some_iff.mp hx
      simp only [List.map_cons, hy, Option.getD_some, hyx, hitems]
    · intro v hv
      rcases List.mem_append.mp hv with hv | hv
      · exact ⟨0, x, rfl, hviolations v hv⟩
      · obtain ⟨index, y, hy, hw⟩ := hothers v hv
        have hindex : i + 1 + index = i + (index + 1) := by omega
        exact ⟨index + 1, y, hy, hindex ▸ hw⟩

-- a predicate, checks and fields together, as they run each other
mutual

theorem always_within_run : ∀ (p : Predicate) (site : Site) (value : Option Json),
    (p.run site value).Always fun r => r.value.map shape = value.map shape ∧
      ∀ v ∈ r.violations, v.Within site.path (p.RunsAt site.kind value)
  | .optional, site, value => always_pure ⟨rfl, within_accept _ site value value⟩
  | .coerceDate, site, value =>
    always_pure ⟨Json.shape_coerceDate value, within_accept _ site value _⟩
  | .test t, site, value => by
    refine always_pure ?_
    split
    · exact ⟨rfl, within_accept _ site value value⟩
    · exact ⟨rfl, within_reject (.test t) site value _⟩
  | .lookup l, site, value => by
    intro answer
    cases answer with
    | true => exact always_pure ⟨rfl, within_accept _ site value value⟩
    | false => exact always_pure ⟨rfl, within_reject (.lookup l) site value _⟩
  | .nested ⟨name, fields⟩, site, value => by
    refine always_run_nested (fun _ => ⟨rfl, within_accept _ site value value⟩)
      (fun members hv => ?_) fun text => ⟨rfl, within_reject _ site value text⟩
    subst hv
    refine (always_within_runFields fields (site.path ++ ".") members).mono ?_
    rintro r ⟨hmembers, hviolations⟩
    refine ⟨congrArg (fun ms => some (Json.object ms)) hmembers, ?_⟩
    intro v hv
    obtain ⟨key, f, hf, c, hc, place, q, hpath, hruns⟩ := hviolations v hv
    refine ⟨.key key :: place, q, ?_, .member hf hc hruns⟩
    rw [hpath]
    simp only [Json.Place.text, Json.Step.text, String.append_assoc]
  | .each inner, site, value => by
    refine always_run_each (fun items hv => ?_) fun text => ⟨rfl, within_reject _ site value text⟩
    subst hv
    refine (always_within_runItems (fun s x => always_within_run inner s (some x)) site 0
      items).mono ?_
    rintro r ⟨hitems, hviolations⟩
    refine ⟨?_, ?_⟩
    · rw [← Json.shapeItems_eq_map, ← Json.shapeItems_eq_map] at hitems
      exact congrArg (fun xs => some (Json.array xs)) hitems
    · intro v hv
      obtain ⟨index, x, hx, place, q, hpath, hruns⟩ := hviolations v hv
      refine ⟨.item index :: place, q, ?_, .item hx hruns⟩
      rw [hpath, Nat.zero_add]
      simp only [Site.item, Json.Place.text, Json.Step.text, String.append_assoc]

theorem always_within_runChecks : ∀ (checks : List Check) (path : String) (failed : Option Nat)
    (value : Option Json), (runChecks checks path failed value).Always fun r =>
      r.value.map shape = value.map shape ∧ ∀ v ∈ r.violations, ∃ c ∈ checks,
        v.Within path (c.predicate.RunsAt c.kind value)
  | [], _, _, _ => always_pure ⟨rfl, nofun⟩
  | ⟨kind, position, predicate, metadata, message⟩ :: rest, path, failed, value => by
    simp only [runChecks]
    split
    · refine (always_within_runChecks rest path failed value).mono ?_
      rintro r ⟨hvalue, hviolations⟩
      refine ⟨hvalue, fun v hv => ?_⟩
      obtain ⟨c, hc, hw⟩ := hviolations v hv
      exact ⟨c, List.mem_cons_of_mem _ hc, hw⟩
    · refine (always_within_run predicate ⟨kind, message, path⟩ value).bind fun first hfirst => ?_
      refine (always_within_runChecks rest path _ first.value).bind fun r hr => always_pure ?_
      obtain ⟨hfirstValue, hfirst⟩ := hfirst
      obtain ⟨hvalue, hrest⟩ := hr
      refine ⟨hvalue.trans hfirstValue, fun v hv => ?_⟩
      rcases List.mem_append.mp hv with hv | hv
      · exact ⟨_, List.mem_cons_self .., hfirst v hv⟩
      · -- the checks that follow run on the value as coerced, which has the same shape
        obtain ⟨c, hc, hw⟩ := hrest v hv
        exact ⟨c, List.mem_cons_of_mem _ hc, hw.mono fun _ _ _ h => h.of_shape hfirstValue⟩

theorem always_within_runFields : ∀ (fields : List (String × Field)) (base : String)
    (members : Members), (runFields fields base members).Always fun r =>
      shapeMembers r.members = shapeMembers members ∧ ∀ v ∈ r.violations, ∃ name f,
        (name, f) ∈ fields ∧ ∃ c ∈ f.checks,
          v.Within (base ++ name) (c.predicate.RunsAt c.kind (members.find? name))
  | [], _, _ => always_pure ⟨rfl, nofun⟩
  | (name, ⟨checks, metadata⟩) :: rest, base, members => by
    have hfield : (unlessSkipped checks (members.find? name)
        (runChecks checks (base ++ name) none (members.find? name))).Always fun r =>
          r.value.map shape = (members.find? name).map shape ∧ ∀ v ∈ r.violations, ∃ c ∈ checks,
            v.Within (base ++ name) (c.predicate.RunsAt c.kind (members.find? name)) := by
      unfold unlessSkipped
      split
      · exact always_pure ⟨rfl, nofun⟩
      · exact always_within_runChecks checks (base ++ name) none (members.find? name)
    refine hfield.bind fun report hreport => ?_
    obtain ⟨hvalue, hviolations⟩ := hreport
    have hafter := shapeMembers_writeOne hvalue
    show (runFields rest base (writeOne name report members) >>= _).Always _
    refine (always_within_runFields rest base _).bind fun r hr => always_pure ?_
    obtain ⟨hmembers, hrest⟩ := hr
    refine ⟨hmembers.trans hafter, fun v hv => ?_⟩
    rcases List.mem_append.mp hv with hv | hv
    · exact ⟨name, _, List.mem_cons_self .., hviolations v hv⟩
    · obtain ⟨other, f, hf, c, hc, hw⟩ := hrest v hv
      refine ⟨other, f, List.mem_cons_of_mem _ hf, c, hc, hw.mono fun _ _ _ h => h.of_shape ?_⟩
      rw [← Json.find?_shapeMembers, ← Json.find?_shapeMembers, hafter]

end

/-! ## Plain schemas -/

mutual

/-- Whether all names that schemas under a predicate declare are plain, at any depth. -/
def Predicate.isPlain : Predicate → Bool
  | .nested ⟨_, fields⟩ => plainFields fields
  | .each inner => inner.isPlain
  | .optional => true
  | .coerceDate => true
  | .test _ => true
  | .lookup _ => true

def plainChecks : List Check → Bool
  | [] => true
  | ⟨_, _, predicate, _, _⟩ :: rest => predicate.isPlain && plainChecks rest

def plainFields : List (String × Field) → Bool
  | [] => true
  | (name, ⟨checks, _⟩) :: rest => isPlainName name && plainChecks checks && plainFields rest

end

/-- Whether neither a point nor an opening bracket is in any name that the schema declares, or a
schema nested in it at any depth. -/
def Schema.isPlain (s : Schema) : Bool := plainFields s.fields

theorem isPlain_of_plainChecks {checks : List Check} (h : plainChecks checks = true) {c : Check}
    (hc : c ∈ checks) : c.predicate.isPlain = true := by
  induction checks with
  | nil => cases hc
  | cons first rest ih =>
    obtain ⟨kind, position, predicate, metadata, message⟩ := first
    simp only [plainChecks, Bool.and_eq_true] at h
    rcases List.mem_cons.mp hc with rfl | hc
    · exact h.1
    · exact ih h.2 hc

theorem isPlain_of_plainFields {fields : List (String × Field)} (h : plainFields fields = true)
    {name : String} {f : Field} (hf : (name, f) ∈ fields) :
    isPlainName name = true ∧ ∀ c ∈ f.checks, c.predicate.isPlain = true := by
  induction fields with
  | nil => cases hf
  | cons first rest ih =>
    obtain ⟨key, ⟨checks, metadata⟩⟩ := first
    simp only [plainFields, Bool.and_eq_true] at h
    rcases List.mem_cons.mp hf with hf | hf
    · cases hf
      exact ⟨h.1.1, fun c hc => isPlain_of_plainChecks h.1.2 hc⟩
    · exact ih h.2 hf

/-- Under plain schemas all places are plain. -/
theorem Predicate.RunsAt.isPlain {p q : Predicate} {kind rule : Kind} {v : Option Json}
    {place : Json.Place} (h : p.RunsAt kind v place q rule) (hp : p.isPlain = true) :
    Json.Place.isPlain place = true := by
  induction h with
  | here => rfl
  | item hx h ih =>
    rw [Predicate.isPlain] at hp
    exact Json.Place.isPlain_cons.mpr ⟨rfl, ih hp⟩
  | @member schema q kind rule members name f c place hf hc h ih =>
    obtain ⟨_, fields⟩ := schema
    rw [Predicate.isPlain] at hp
    obtain ⟨hname, hchecks⟩ := isPlain_of_plainFields hp hf
    exact Json.Place.isPlain_cons.mpr ⟨hname, ih (hchecks c hc)⟩

/-! ## Documents -/

/-- A violation is about the part of a document that a declared field and the steps from there lead
to, and its path is written, and read, as these. -/
structure Violation.IsAt (v : Violation) (s : Schema) (members : Members) (name : String)
    (place : Json.Place) : Prop where
  path : v.path = name ++ Json.Place.text place
  /-- A check of the field runs a predicate there, on behalf of the rule of the violation. -/
  declared : ∃ f, (name, f) ∈ s.fields ∧ ∃ c ∈ f.checks, ∃ q,
    c.predicate.RunsAt c.kind (members.find? name) place q v.rule
  /-- Each step leads on from a part of the document, from an array to an element that it has, or
  from an object to a member that the schema declares which is run on it. -/
  steps : ∀ before step after, place = before ++ step :: after → ∃ p kind part,
    (Predicate.nested s).RunsAt .object (some (.object members)) (.key name :: before) p kind ∧
      (Json.object members).at? (.key name :: before) = some part ∧ p.Admits part step
  /-- No other plain name and steps are written like this. -/
  single : ∀ other rest, isPlainName other = true → Json.Place.isPlain rest = true →
    v.path = other ++ Json.Place.text rest → other = name ∧ rest = place

/-- The name and the place of a violation are plain if the schema is. -/
theorem Schema.isPlain_of_runsAt {s : Schema} (hs : s.isPlain = true) {members : Members}
    {name : String} {f : Field} {c : Check} {place : Json.Place} {q : Predicate} {rule : Kind}
    (hf : (name, f) ∈ s.fields) (hc : c ∈ f.checks)
    (h : c.predicate.RunsAt c.kind (members.find? name) place q rule) :
    isPlainName name = true ∧ Json.Place.isPlain place = true := by
  obtain ⟨hname, hchecks⟩ := isPlain_of_plainFields hs hf
  exact ⟨hname, h.isPlain (hchecks c hc)⟩

theorem always_isAt_validate {s : Schema} (hs : s.isPlain = true) (members : Members) :
    (s.validate (.object members)).Always fun r => ∀ v ∈ r.violations,
      ∃ name place, v.IsAt s members name place := by
  refine (always_within_runFields s.fields "" members).bind fun report hreport => always_pure ?_
  intro v hv
  obtain ⟨name, f, hf, c, hc, place, q, hpath, hruns⟩ := hreport.2 v hv
  rw [String.empty_append] at hpath
  obtain ⟨hname, hplace⟩ := Schema.isPlain_of_runsAt hs hf hc hruns
  refine ⟨name, place, hpath, ⟨f, hf, c, hc, q, hruns⟩, ?_, ?_⟩
  · intro before step after hsplit
    have hwhole : (Predicate.nested s).RunsAt .object (some (.object members))
        ((.key name :: before) ++ step :: after) q v.rule := by
      subst hsplit
      exact .member hf hc hruns
    exact hwhole.exists_admits
  · intro other rest hother hrest h
    obtain ⟨rfl, rfl⟩ := Json.path_inj hother hrest hname hplace (h.symm.trans hpath)
    exact ⟨rfl, rfl⟩

/-- **Violations.** If no name in a schema has a point or an opening bracket in it, each violation
of an object is at a part of it, whose path can be read in one way. Violations of one path are at
one part, and so are those that a report lists for a path. -/
theorem violations_are_at_places {s : Schema} (hs : s.isPlain = true) {members : Members} {σ : Type}
    {evaluator : Evaluator (StateM σ)} {a a' : σ} {r : Report}
    (h : (s.validate (.object members)).resultFrom evaluator a = (.ok r, a')) :
    (∀ v ∈ r.violations, ∃ name place, v.IsAt s members name place) ∧
    (∀ v ∈ r.violations, ∀ w ∈ r.violations, v.path = w.path → ∀ name place,
      v.IsAt s members name place → w.IsAt s members name place) ∧
    ∀ path, ∃ name place, ∀ v ∈ r.violationsAt path, v.IsAt s members name place := by
  have hall : ∀ v ∈ r.violations, ∃ name place, v.IsAt s members name place :=
    (always_isAt_validate hs members).of_resultFrom h
  have hsame : ∀ v ∈ r.violations, ∀ w ∈ r.violations, v.path = w.path → ∀ name place,
      v.IsAt s members name place → w.IsAt s members name place := by
    intro v _ w hw hpath name place hv
    obtain ⟨other, rest, hrest⟩ := hall w hw
    obtain ⟨f, hf, c, hc, q, hruns⟩ := hv.declared
    obtain ⟨hname, hplace⟩ := Schema.isPlain_of_runsAt hs hf hc hruns
    obtain ⟨rfl, rfl⟩ := hrest.single name place hname hplace (hpath.symm.trans hv.path)
    exact hrest
  refine ⟨hall, hsame, fun path => ?_⟩
  by_cases hnone : r.violationsAt path = []
  · refine ⟨"", [], fun v hv => ?_⟩
    rw [hnone] at hv
    cases hv
  · obtain ⟨v, hv⟩ := List.exists_mem_of_ne_nil _ hnone
    obtain ⟨hv, hpath⟩ := List.mem_filter.mp hv
    obtain ⟨name, place, hat⟩ := hall v hv
    refine ⟨name, place, fun w hw => ?_⟩
    obtain ⟨hw, hpath'⟩ := List.mem_filter.mp hw
    have hsamePath : v.path = w.path := (eq_of_beq hpath).trans (eq_of_beq hpath').symm
    exact hsame v hv w hw hsamePath name place hat

/-- Orders, with lines that have a number each. -/
def Schema.orders : Schema :=
  ⟨"Order", [("lines", .ofChecks
    [⟨.array, 0, .test .sequence, .empty, none⟩,
      ⟨.array, 0, .each (.nested ⟨"Line", [("sku", .ofChecks
        [⟨.string, 0, .test .text, .empty, none⟩])]⟩), .empty, none⟩])]⟩

/-- The second line of an order has a number that is no text. -/
theorem violations_are_at_places_order :
    let members : Members := [("lines", .array
      [.object [("sku", .string "A-1")], .object [("sku", .ofNat 7)]])]
    ∃ r, (Schema.orders.validate (.object members)).resultFrom
        (fun _ _ => pure (.ok true) : Evaluator (StateM Unit)) () = (.ok r, ()) ∧
      r.violations.map (fun v => (v.path, v.rule)) = [("lines[1].sku", .string)] ∧
      ∀ v ∈ r.violations, v.IsAt Schema.orders members "lines" [.item 1, .key "sku"] := by
  intro members
  have hplain : Schema.orders.isPlain = true := by decide
  have hreport : (Schema.orders.validate (.object members)).resultFrom
      (fun _ _ => pure (.ok true) : Evaluator (StateM Unit)) () =
        (.ok ⟨.object members, [⟨"lines[1].sku", .string, "lines[1].sku must be a string"⟩]⟩, ()) :=
    rfl
  refine ⟨_, hreport, rfl, fun v hv => ?_⟩
  obtain ⟨hall, _, _⟩ := violations_are_at_places hplain hreport
  obtain ⟨name, place, hat⟩ := hall v hv
  obtain rfl := List.mem_singleton.mp hv
  obtain ⟨rfl, rfl⟩ := hat.single "lines" [.item 1, .key "sku"] (by decide) (by decide) rfl
  exact hat

end Rulebook
