import Rulebook.Proofs.Validation.Acceptance
import Rulebook.Proofs.Validation.Relocation

/-!
# One list of violations

Instead of giving its violations back, a run may write them into one list, behind those that other
runs wrote before. What a nested schema comes to can then be read off the length of the list, while
the elements of an array are counted on the way. It comes to the same: the list only grows, and a
predicate passes if and only if its run left the list as it was. As a note is made of each field
that is run, at any depth, it can also be said which of them reported anything.

* `Journal`, `Predicate.runInto`: runs that write what they report;
* `Inquiry.Alongside`: inquiries with the same questions;
* `Journal.Grows`: what may become of a journal during a run;
* `alongside_runInto`, `alongside_runChecksInto`, `alongside_runFieldsInto`: what is written is what
  is given back otherwise;
* `passes_iff_nothing_written`: predicates.
-/

namespace Rulebook

open Inquiry
open Json (Members)

/-! ## Journals -/

/-- What the list of violations grew by while a field was run; the path is that of its value. -/
structure Note where
  path : String
  reported : List Violation

/-- What is written during a run: the violations of all checks in one list, and a note on each field
that was run, at any depth. -/
structure Journal where
  violations : List Violation
  notes : List Note

namespace Journal

def write (j : Journal) (v : Violation) : Journal := { j with violations := j.violations ++ [v] }

/-- Notes what was written since there were `start` violations. -/
def note (j : Journal) (path : String) (start : Nat) : Journal :=
  { j with notes := j.notes ++ [⟨path, j.violations.drop start⟩] }

def extend (j : Journal) (violations : List Violation) (notes : List Note) : Journal :=
  ⟨j.violations ++ violations, j.notes ++ notes⟩

theorem extend_extend (j : Journal) (xs ys : List Violation) (ns ms : List Note) :
    (j.extend xs ns).extend ys ms = j.extend (xs ++ ys) (ns ++ ms) := by
  simp only [extend, List.append_assoc]

/-- A journal that grew by these violations. The notes made meanwhile are on stretches of them; and
where all is reported by fields, none of them is without a note. -/
def Grows (before : Journal) (violations : List Violation) (byFields : Prop) (after : Journal) :
    Prop :=
  ∃ notes, after = before.extend violations notes ∧ (∀ n ∈ notes, n.reported <:+: violations) ∧
    (byFields → ∀ v ∈ violations, ∃ n ∈ notes, v ∈ n.reported)

namespace Grows

variable {j k l : Journal} {xs ys : List Violation} {c : Prop}

theorem refl (j : Journal) (c : Prop) : j.Grows [] c j :=
  ⟨[], by simp only [extend, List.append_nil], nofun, fun _ => nofun⟩

theorem write (j : Journal) (v : Violation) (hc : ¬c) : j.Grows [v] c (j.write v) :=
  ⟨[], by simp only [extend, List.append_nil]; rfl, nofun, fun h => absurd h hc⟩

theorem trans (hj : j.Grows xs c k) (hk : k.Grows ys c l) : j.Grows (xs ++ ys) c l := by
  obtain ⟨ns, rfl, hns, hxs⟩ := hj
  obtain ⟨ms, rfl, hms, hys⟩ := hk
  refine ⟨ns ++ ms, extend_extend j xs ys ns ms, fun n hn => ?_, fun h v hv => ?_⟩
  · rcases List.mem_append.mp hn with hn | hn
    · exact (hns n hn).trans (List.prefix_append xs ys).isInfix
    · exact (hms n hn).trans (List.suffix_append xs ys).isInfix
  · rcases List.mem_append.mp hv with hv | hv
    · obtain ⟨n, hn, hvn⟩ := hxs h v hv
      exact ⟨n, List.mem_append_left _ hn, hvn⟩
    · obtain ⟨n, hn, hvn⟩ := hys h v hv
      exact ⟨n, List.mem_append_right _ hn, hvn⟩

/-- What was written while a field was run is reported by that field. -/
theorem note (h : j.Grows xs False k) (path : String) :
    j.Grows xs True (k.note path j.violations.length) := by
  obtain ⟨ns, rfl, hns, _⟩ := h
  have hdrop : (j.extend xs ns).note path j.violations.length =
      j.extend xs (ns ++ [⟨path, xs⟩]) := by
    simp only [Journal.note, extend, List.drop_left, List.append_assoc]
  refine ⟨_, hdrop, fun n hn => ?_, fun _ v hv => ⟨⟨path, xs⟩, by simp, hv⟩⟩
  rcases List.mem_append.mp hn with hn | hn
  · exact hns n hn
  · obtain rfl := List.mem_singleton.mp hn
    exact List.infix_rfl

theorem weaken (h : j.Grows xs c k) : j.Grows xs False k := by
  obtain ⟨ns, hk, hns, _⟩ := h
  exact ⟨ns, hk, hns, False.elim⟩

theorem length_beq (h : j.Grows xs c k) :
    (k.violations.length == j.violations.length) = xs.isEmpty := by
  obtain ⟨ns, rfl, _⟩ := h
  cases xs <;> simp [extend]

end Grows

end Journal

/-! ## Runs that write -/

/-- Computations that ask questions and write into a journal. -/
abbrev Journaled := StateT Journal Inquiry

def Site.report (s : Site) (text : String) : Journaled Bool := do
  modify fun j => j.write ⟨s.path, s.kind, s.message.getD text⟩
  pure false

/-- Runs a predicate on every element; the first has the index `i`, and `all` says whether those
before it passed. -/
def runItemsInto (run : Site → Option Json → Journaled (Bool × Option Json)) (site : Site) :
    Nat → Bool → List Json → Journaled (Bool × List Json)
  | _, all, [] => pure (all, [])
  | i, all, x :: xs => do
    let (passed, value) ← run (site.item i) (some x)
    let (all, items) ← runItemsInto run site (i + 1) (all && passed) xs
    pure (all, value.getD .null :: items)

/-- Runs the checks of a field, none of them if the field is optional and the value absent. -/
def unlessSkippedInto (checks : List Check) (value : Option Json)
    (run : Journaled (Option Json)) : Journaled (Option Json) :=
  if checks.any (fun c => c.predicate.isOptional) && isAbsent value then pure value else run

mutual

/-- Runs a predicate; gives whether it passed, and the value as coerced. A nested schema passes if
the list of violations is as long as before. -/
def Predicate.runInto : Predicate → Site → Option Json → Journaled (Bool × Option Json)
  | .optional, _, value => pure (true, value)
  | .coerceDate, _, value => pure (true, (value.bind coerceDate).or value)
  | .test t, site, value => do
    if t.holds value then pure (true, value)
    else pure (← site.report (t.describe site.path), value)
  | .lookup l, site, value => do
    let answer ← StateT.lift (.ask (l.query (value.getD .null)) site.path pure)
    if answer then pure (true, value) else pure (← site.report l.complaint, value)
  | .nested ⟨_, fields⟩, site, value =>
    match value with
    | none => pure (true, none)
    | some .null => pure (true, some .null)
    | some (.object members) => do
      let start := (← get).violations.length
      let members ← runFieldsInto fields (site.path ++ ".") members
      pure ((← get).violations.length == start, some (.object members))
    | some v => do
      pure (← site.report ("nested property " ++ site.path ++ " must be an object"), some v)
  | .each inner, site, value =>
    match value with
    | some (.array items) => do
      let (all, items) ← runItemsInto inner.runInto site 0 true items
      pure (all, some (.array items))
    | v => do pure (← site.report ("each value in " ++ site.path ++ " requires an array"), v)

/-- Runs checks on a value. `failed` is the position of the last check that did not hold. -/
def runChecksInto : List Check → String → Option Nat → Option Json → Journaled (Option Json)
  | [], _, _, value => pure value
  | ⟨kind, position, predicate, _, message⟩ :: rest, path, failed, value =>
    if failed = some position then runChecksInto rest path failed value
    else do
      let (passed, value) ← predicate.runInto ⟨kind, message, path⟩ value
      runChecksInto rest path (if passed then failed else some position) value

/-- Runs the fields of a schema on the members of an object, in order, and notes what each of them
reported. -/
def runFieldsInto : List (String × Field) → String → Members → Journaled Members
  | [], _, members => pure members
  | (name, ⟨checks, _⟩) :: rest, base, members => do
    let start := (← get).violations.length
    let value := members.find? name
    let value ← unlessSkippedInto checks value (runChecksInto checks (base ++ name) none value)
    modify fun j => j.note (base ++ name) start
    runFieldsInto rest base (match value with
      | some v => members.replace name v
      | none => members)

end

/-! ## Inquiries with the same questions -/

namespace Inquiry

variable {α β γ δ : Type}

/-- Two inquiries ask the same questions, and come to results which `R` ties together. -/
abbrev Alongside (R : α → β → Prop) : Inquiry α → Inquiry β → Prop := Moved "" "" R

variable {R : α → β → Prop}

theorem alongside_ask (query : Query) (path : String) {next : Bool → Inquiry α}
    {next' : Bool → Inquiry β} (h : ∀ answer, (next answer).Alongside R (next' answer)) :
    (Inquiry.ask query path next).Alongside R (.ask query path next') := by
  have hask : ("" ++ path) = path := String.empty_append
  exact hask ▸ Moved.ask query path h

/-- Inquiries one after another, of which the second ones start with the journal that the first ones
left. -/
theorem Alongside.bind_run {R : α → β × Journal → Prop} {S : γ → δ × Journal → Prop}
    {i : Inquiry α} {x : Journaled β} {f : α → Inquiry γ} {g : β → Journaled δ} {j : Journal}
    (h : i.Alongside R (x.run j))
    (hfg : ∀ a b k, R a (b, k) → (f a).Alongside S ((g b).run k)) :
    (i >>= f).Alongside S ((x >>= g).run j) := by
  rw [StateT.run_bind]
  exact h.bind fun a r hr => hfg a r.1 r.2 hr

theorem Alongside.map_left {i : Inquiry α} {k : Inquiry β} {f : α → γ} {S : γ → β → Prop}
    (h : i.Alongside R k) (hf : ∀ a b, R a b → S (f a) b) :
    (i >>= fun a => pure (f a)).Alongside S k := by
  rw [← bind_pure k]
  exact h.bind fun a b hab => moved_pure (hf a b hab)

theorem Alongside.map_eq {i : Inquiry α} {k : Inquiry β} (h : i.Alongside R k) {f : α → γ}
    {g : β → γ} (hfg : ∀ a b, R a b → f a = g b) : f <$> i = g <$> k := by
  induction h with
  | done h => exact congrArg Inquiry.done (hfg _ _ h)
  | ask query rest _ ih => exact congrArg (Inquiry.ask query _) (funext ih)

theorem Alongside.exists_of_resultFrom {σ : Type} {evaluator : Evaluator (StateM σ)} {s t : σ}
    {i : Inquiry α} {k : Inquiry β} {b : β} (h : i.Alongside R k)
    (hk : k.resultFrom evaluator s = (.ok b, t)) :
    ∃ a, i.resultFrom evaluator s = (.ok a, t) ∧ R a b := by
  induction h generalizing s with
  | done h =>
    obtain ⟨hb, rfl⟩ := Prod.mk.inj hk
    obtain rfl := Except.ok.inj hb
    exact ⟨_, rfl, h⟩
  | ask query rest _ ih =>
    obtain ⟨answer, s₁, hanswer, hnext⟩ := resultFrom_ask_eq_ok.mp hk
    obtain ⟨a, ha, hR⟩ := ih answer hnext
    exact ⟨a, resultFrom_ask_eq_ok.mpr ⟨answer, s₁, hanswer, ha⟩, hR⟩

end Inquiry

/-! ## What is written is what is given back otherwise -/

/-- The predicate is a schema, and the value an object to go down into. -/
def Predicate.Opens : Predicate → Option Json → Prop
  | .nested _, some (.object _) => True
  | _, _ => False

/-- A verdict, given back in part and written in part into a journal. -/
def Verdict.WrittenTo (before : Journal) (byFields : Prop) (v : Verdict)
    (r : (Bool × Option Json) × Journal) : Prop :=
  r.1 = (v.passed, v.value) ∧ before.Grows v.violations byFields r.2

variable {j : Journal}

theorem alongside_accept (c : Prop) (value : Option Json) :
    (pure (.accept value) : Inquiry Verdict).Alongside (Verdict.WrittenTo j c)
      ((pure (true, value) : Journaled (Bool × Option Json)).run j) :=
  moved_pure ⟨rfl, .refl j c⟩

theorem alongside_reject {c : Prop} (hc : ¬c) (site : Site) (value : Option Json) (text : String) :
    (pure (site.reject value text) : Inquiry Verdict).Alongside (Verdict.WrittenTo j c)
      ((do pure (← site.report text, value) : Journaled (Bool × Option Json)).run j) :=
  moved_pure ⟨rfl, .write j _ hc⟩

theorem alongside_runItemsInto {run : Site → Option Json → Inquiry Verdict}
    {into : Site → Option Json → Journaled (Bool × Option Json)} {c : Option Json → Prop}
    (h : ∀ site value j, (run site value).Alongside (Verdict.WrittenTo j (c value))
      ((into site value).run j)) (site : Site) (i : Nat) (all : Bool) (items : List Json)
    (j : Journal) :
    (runItems run site i items).Alongside
      (fun v r => r.1 = (all && v.passed, v.items) ∧ j.Grows v.violations False r.2)
      ((runItemsInto into site i all items).run j) := by
  induction items generalizing i all j with
  | nil => exact moved_pure ⟨by rw [Bool.and_true], .refl j False⟩
  | cons x xs ih =>
    refine (h (site.item i) (some x) j).bind_run fun first r k hfirst => ?_
    obtain ⟨rfl, hk⟩ := hfirst
    refine (ih (i + 1) (all && first.passed) k).bind_run fun others r l hothers => ?_
    obtain ⟨rfl, hl⟩ := hothers
    exact moved_pure ⟨by rw [Bool.and_assoc], hk.weaken.trans hl⟩

theorem run_runInto_object (schema : Schema) (site : Site) (members : Members) (j : Journal) :
    ((Predicate.nested schema).runInto site (some (.object members))).run j = (do
      let r ← (runFieldsInto schema.fields (site.path ++ ".") members).run j
      pure ((r.2.violations.length == j.violations.length, some (.object r.1)), r.2)) := by
  cases schema
  simp only [Predicate.runInto, StateT.run_bind, StateT.run_get, StateT.run_pure, pure_bind]

theorem run_runFieldsInto_cons (name : String) (f : Field) (rest : List (String × Field))
    (base : String) (members : Members) (j : Journal) :
    (runFieldsInto ((name, f) :: rest) base members).run j = (do
      let value := members.find? name
      let r ← (unlessSkippedInto f.checks value
        (runChecksInto f.checks (base ++ name) none value)).run j
      (runFieldsInto rest base (match r.1 with
        | some v => members.replace name v
        | none => members)).run (r.2.note (base ++ name) j.violations.length)) := by
  cases f
  simp only [runFieldsInto, StateT.run_bind, StateT.run_get, StateT.run_modify, pure_bind]

-- a predicate, checks and fields together, as they run each other
mutual

theorem alongside_runInto : ∀ (p : Predicate) (site : Site) (value : Option Json) (j : Journal),
    (p.run site value).Alongside (Verdict.WrittenTo j (p.Opens value))
      ((p.runInto site value).run j)
  | .optional, _, value, _ => alongside_accept _ value
  | .coerceDate, _, _, _ => alongside_accept _ _
  | .test t, site, value, j => by
    simp only [Predicate.run, Predicate.runInto]
    split
    · exact alongside_accept _ value
    · exact alongside_reject id site value _
  | .lookup l, site, value, j => by
    refine alongside_ask _ _ fun answer => ?_
    cases answer with
    | true => exact alongside_accept _ value
    | false => exact alongside_reject id site value _
  | .nested ⟨_, fields⟩, site, value, j => by
    rcases value with _ | v
    · exact alongside_accept _ none
    · cases v with
      | null => exact alongside_accept _ _
      | object members =>
        have hfields := alongside_runFieldsInto fields (site.path ++ ".") members j
        rw [run_runInto_object]
        refine hfields.bind fun report r hreport => moved_pure ⟨?_, ?_⟩
        · rw [hreport.2.length_beq, hreport.1]
        · simpa [Predicate.Opens] using hreport.2
      | _ => exact alongside_reject id site _ _
  | .each inner, site, value, j => by
    rcases value with _ | v
    · exact alongside_reject id site none _
    · cases v with
      | array items =>
        refine (alongside_runItemsInto (alongside_runInto inner) site 0 true items j).bind_run
          fun verdict r k hverdict => ?_
        obtain ⟨rfl, hk⟩ := hverdict
        exact moved_pure ⟨by rw [Bool.true_and], hk⟩
      | _ => exact alongside_reject id site _ _

theorem alongside_runChecksInto : ∀ (checks : List Check) (path : String) (failed : Option Nat)
    (value : Option Json) (j : Journal),
    (runChecks checks path failed value).Alongside
      (fun v r => r.1 = v.value ∧ j.Grows v.violations False r.2)
      ((runChecksInto checks path failed value).run j)
  | [], _, _, _, j => moved_pure ⟨rfl, .refl j False⟩
  | ⟨kind, position, predicate, _, message⟩ :: rest, path, failed, value, j => by
    simp only [runChecks, runChecksInto]
    split
    · exact alongside_runChecksInto rest path failed value j
    · refine (alongside_runInto predicate ⟨kind, message, path⟩ value j).bind_run
        fun verdict r k hverdict => ?_
      obtain ⟨rfl, hk⟩ := hverdict
      have hrest := alongside_runChecksInto rest path
        (if verdict.passed then failed else some position) verdict.value k
      exact hrest.map_left fun report r hreport => ⟨hreport.1, hk.weaken.trans hreport.2⟩

theorem alongside_runFieldsInto : ∀ (fields : List (String × Field)) (base : String)
    (members : Members) (j : Journal),
    (runFields fields base members).Alongside
      (fun v r => r.1 = v.members ∧ j.Grows v.violations True r.2)
      ((runFieldsInto fields base members).run j)
  | [], _, _, j => moved_pure ⟨rfl, .refl j True⟩
  | (name, ⟨checks, metadata⟩) :: rest, base, members, j => by
    have hfield : (unlessSkipped checks (members.find? name)
        (runChecks checks (base ++ name) none (members.find? name))).Alongside
          (fun v r => r.1 = v.value ∧ j.Grows v.violations False r.2)
          ((unlessSkippedInto checks (members.find? name)
            (runChecksInto checks (base ++ name) none (members.find? name))).run j) := by
      unfold unlessSkipped unlessSkippedInto
      split
      · exact moved_pure ⟨rfl, .refl j False⟩
      · exact alongside_runChecksInto checks (base ++ name) none (members.find? name) j
    rw [run_runFieldsInto_cons]
    refine hfield.bind fun report r hreport => ?_
    rw [hreport.1]
    have hrest := alongside_runFieldsInto rest base (match report.value with
      | some v => members.replace name v
      | none => members) (r.2.note (base ++ name) j.violations.length)
    refine hrest.map_left fun others r' hothers => ⟨hothers.1, ?_⟩
    exact (hreport.2.note (base ++ name)).trans hothers.2

end

/-! ## Predicates -/

/-- Where there is no object to go down into, a nested schema lets pass what is absent, and nothing
else. -/
theorem always_passed_nested (schema : Schema) (site : Site) (value : Option Json) :
    ((Predicate.nested schema).run site value).Always fun v =>
      (isAbsent value = true → v.passed = true) ∧
        (v.passed = true → isAbsent value = true ∨ ∃ members, value = some (.object members)) := by
  obtain ⟨name, fields⟩ := schema
  rcases value with _ | v
  · exact always_pure ⟨fun _ => rfl, fun _ => .inl rfl⟩
  · cases v with
    | null => exact always_pure ⟨fun _ => rfl, fun _ => .inl rfl⟩
    | object members => exact (always_true _).mono fun _ _ => ⟨nofun, fun _ => .inr ⟨members, rfl⟩⟩
    | _ => exact always_pure ⟨nofun, nofun⟩

/-- **Outcomes.** Running a predicate and writing its violations behind those of a list asks the
same questions as running it, and comes to the same verdict, in the same list. If it comes to one,
nothing that was in the list before is lost or changed, and the predicate passes if and only if
nothing was added. So a nested schema passes if and only if the value is absent or an object, and no
field that was run, at any depth, added anything. -/
theorem passes_iff_nothing_written (p : Predicate) (site : Site) (value : Option Json)
    (before : Journal) :
    (fun r => (r.1, r.2.violations)) <$> (p.runInto site value).run before =
        (fun v => ((v.passed, v.value), before.violations ++ v.violations)) <$> p.run site value ∧
    ∀ (σ : Type) (evaluator : Evaluator (StateM σ)) (s t : σ) (passed : Bool) (out : Option Json)
      (after : Journal),
      ((p.runInto site value).run before).resultFrom evaluator s = (.ok ((passed, out), after), t) →
        ∃ new notes, after.violations = before.violations ++ new ∧
          after.notes = before.notes ++ notes ∧
          (p.run site value).resultFrom evaluator s = (.ok ⟨passed, out, new⟩, t) ∧
          (passed = true ↔ new = []) ∧
          (∀ n ∈ notes, n.reported <:+: new) ∧
          ∀ schema, p = .nested schema → (passed = true ↔
            (isAbsent value = true ∨ ∃ members, value = some (.object members)) ∧
              ∀ n ∈ notes, n.reported = []) := by
  have halongside := alongside_runInto p site value before
  refine ⟨(halongside.map_eq fun v r hr => ?_).symm, ?_⟩
  · obtain ⟨hverdict, notes, hafter, _⟩ := hr
    rw [hverdict, hafter]
    rfl
  · intro σ evaluator s t passed out after hrun
    obtain ⟨verdict, hverdict, hsame, notes, rfl, hsound, hcomplete⟩ :=
      halongside.exists_of_resultFrom hrun
    obtain ⟨rfl, rfl⟩ := Prod.mk.inj hsame
    have hpassed : verdict.passed = true ↔ verdict.violations = [] := by
      rw [(always_passed_run p site value).of_resultFrom hverdict, List.isEmpty_iff]
    refine ⟨verdict.violations, notes, rfl, rfl, hverdict, hpassed, hsound, ?_⟩
    rintro schema rfl
    obtain ⟨habsent, hshape⟩ := (always_passed_nested schema site value).of_resultFrom hverdict
    refine ⟨fun h => ⟨hshape h, fun n hn => ?_⟩, ?_⟩
    · have hnone := hsound n hn
      rw [hpassed.mp h] at hnone
      exact List.infix_nil.mp hnone
    · rintro ⟨h | ⟨members, rfl⟩, hsilent⟩
      · exact habsent h
      · refine hpassed.mpr (List.eq_nil_iff_forall_not_mem.mpr fun v hv => ?_)
        obtain ⟨n, hn, hvn⟩ := hcomplete trivial v hv
        rw [hsilent n hn] at hvn
        cases hvn

/-- A person at home in no city is written behind what was reported before. -/
theorem passes_iff_nothing_written_person :
    ∃ (address person : Schema) (out : Option Json) (after : Journal) (new : List Violation),
      (Schema.empty "Address").declare "city" "required" Context.empty = .ok address ∧
      (Schema.empty "Person").declare "home" "object"
        { Context.empty with nested := some address } = .ok person ∧
      (((Predicate.nested person).runInto ⟨.object, none, "owner"⟩
        (some (.object [("home", .object [("city", .string "")])]))).run
          ⟨[⟨"id", .int, "id must be an integer number"⟩], []⟩).resultFrom
            (fun _ _ => pure (.ok true) : Evaluator (StateM Unit)) () =
              (.ok ((false, out), after), ()) ∧
      after.violations = ⟨"id", .int, "id must be an integer number"⟩ :: new ∧ new ≠ [] ∧
      after.notes.map Note.path = ["owner.home.city", "owner.home"] ∧
      ¬∀ n ∈ after.notes, n.reported = [] := by
  obtain ⟨address, haddress⟩ :
      ∃ address, (Schema.empty "Address").declare "city" "required" Context.empty = .ok address :=
    ⟨_, rfl⟩
  obtain ⟨person, hperson⟩ : ∃ person, (Schema.empty "Person").declare "home" "object"
      { Context.empty with nested := some address } = .ok person := ⟨_, rfl⟩
  obtain ⟨out, after, hrun, hnotes⟩ : ∃ out after,
      (((Predicate.nested person).runInto ⟨.object, none, "owner"⟩
        (some (.object [("home", .object [("city", .string "")])]))).run
          ⟨[⟨"id", .int, "id must be an integer number"⟩], []⟩).resultFrom
            (fun _ _ => pure (.ok true) : Evaluator (StateM Unit)) () =
              (.ok ((false, out), after), ()) ∧
      after.notes.map Note.path = ["owner.home.city", "owner.home"] := by
    obtain rfl := Except.ok.inj haddress
    obtain rfl := Except.ok.inj hperson
    exact ⟨_, _, rfl, rfl⟩
  obtain ⟨new, notes, hviolations, hafter, _, hpassed, _, hnested⟩ :=
    (passes_iff_nothing_written (.nested person) _ _ _).2 _ _ _ _ _ _ _ hrun
  rw [List.nil_append] at hafter
  refine ⟨address, person, out, after, new, haddress, hperson, hrun, hviolations, fun h => ?_,
    hnotes, fun h => ?_⟩
  · exact absurd (hpassed.mpr h) (by decide)
  · exact absurd ((hnested person rfl).mpr ⟨.inr ⟨_, rfl⟩, hafter ▸ h⟩) (by decide)

end Rulebook
