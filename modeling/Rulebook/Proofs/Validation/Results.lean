import Mathlib.Data.List.Forall2
import Rulebook.Validation.Run

/-!
# What validation comes to

Validation asks questions on its way, so what holds of its result holds whatever the answers are.
An evaluator without a state of its own answers each question by itself; then a validation comes to
one result, and validations that follow each other come to theirs one by one. An evaluator with a
state is asked one question after another.

* `mapM_eq_ok_iff`, `mapM_eq_error_iff`: results of many computations, the first failure ending all;
* `Inquiry.Always`: a property of all results that an inquiry can have;
* `Inquiry.result_bind`, `Inquiry.resultFrom_bind_eq_ok`: results of inquiries one after the other,
  the first failure ending both;
* `always_run_nested`, `always_run_each`: what predicates make of what a value holds;
* `always_runChecks`: what no check changes of a value;
* `always_isNull_run`, `always_isNull_runChecks`: no check makes a value absent, null or present.
-/

namespace Rulebook

/-! ## Computations that may fail -/

theorem bind_eq_ok {ε α β : Type} {x : Except ε α} {f : α → Except ε β} {b : β} :
    x >>= f = .ok b ↔ ∃ a, x = .ok a ∧ f a = .ok b := by
  cases x <;> simp [bind, Except.bind]

theorem bind_eq_error {ε α β : Type} {x : Except ε α} {f : α → Except ε β} {e : ε} :
    x >>= f = .error e ↔ x = .error e ∨ ∃ a, x = .ok a ∧ f a = .error e := by
  cases x <;> simp [bind, Except.bind]

/-- The place of an element behind others of a kind is the first of the list or lies in the rest. -/
theorem exists_split_cons_iff {α : Type} {p q : α → Prop} {a : α} {rest : List α} :
    (∃ before b after, a :: rest = before ++ b :: after ∧ (∀ x ∈ before, p x) ∧ q b) ↔
      q a ∨ p a ∧ ∃ before b after, rest = before ++ b :: after ∧ (∀ x ∈ before, p x) ∧ q b := by
  constructor
  · rintro ⟨before, b, after, hsplit, hbefore, hb⟩
    cases before with
    | nil =>
      obtain ⟨rfl, rfl⟩ := List.cons.inj hsplit
      exact .inl hb
    | cons c before =>
      obtain ⟨rfl, rfl⟩ := List.cons.inj hsplit
      obtain ⟨ha, hbefore⟩ := List.forall_mem_cons.mp hbefore
      exact .inr ⟨ha, before, b, after, rfl, hbefore, hb⟩
  · rintro (ha | ⟨ha, before, b, after, rfl, hbefore, hb⟩)
    · exact ⟨[], a, rest, rfl, List.forall_mem_nil _, ha⟩
    · exact ⟨a :: before, b, after, rfl, List.forall_mem_cons.mpr ⟨ha, hbefore⟩, hb⟩

theorem mapM_eq_ok_iff {ε α β : Type} {f : α → Except ε β} {xs : List α} {ys : List β} :
    xs.mapM f = .ok ys ↔ List.Forall₂ (fun x y => f x = .ok y) xs ys := by
  induction xs generalizing ys with
  | nil =>
    rw [List.mapM_nil, List.forall₂_nil_left_iff]
    exact ⟨fun h => (Except.ok.inj h).symm, fun h => h ▸ rfl⟩
  | cons x xs ih =>
    rw [List.mapM_cons, bind_eq_ok, List.forall₂_cons_left_iff]
    simp only [bind_eq_ok, ih]
    constructor
    · rintro ⟨y, hy, rest, hrest, h⟩
      exact ⟨y, rest, hy, hrest, (Except.ok.inj h).symm⟩
    · rintro ⟨y, rest, hy, hrest, rfl⟩
      exact ⟨y, hy, rest, hrest, rfl⟩

/-- There are results of all elements unless one of them fails. -/
theorem exists_mapM_iff {ε α β : Type} {f : α → Except ε β} {xs : List α} :
    (∃ ys, xs.mapM f = .ok ys) ↔ ∀ x ∈ xs, ∃ y, f x = .ok y := by
  simp only [mapM_eq_ok_iff]
  induction xs with
  | nil => exact ⟨fun _ => nofun, fun _ => ⟨[], .nil⟩⟩
  | cons x xs ih =>
    rw [List.forall_mem_cons, ← ih]
    constructor
    · rintro ⟨_, _ | ⟨hy, hrest⟩⟩
      exact ⟨⟨_, hy⟩, _, hrest⟩
    · rintro ⟨⟨y, hy⟩, ys, hrest⟩
      exact ⟨y :: ys, .cons hy hrest⟩

theorem mapM_eq_error_iff {ε α β : Type} {f : α → Except ε β} {xs : List α} {e : ε} :
    xs.mapM f = .error e ↔
      ∃ before x after, xs = before ++ x :: after ∧ (∀ y ∈ before, ∃ b, f y = .ok b) ∧
        f x = .error e := by
  induction xs with
  | nil =>
    constructor
    · intro h
      cases h
    · rintro ⟨before, x, after, h, _⟩
      simp at h
  | cons x xs ih =>
    rw [List.mapM_cons, bind_eq_error, exists_split_cons_iff, ← ih]
    refine or_congr_right ?_
    constructor
    · rintro ⟨y, hy, h⟩
      obtain h | ⟨_, _, h⟩ := bind_eq_error.mp h
      · exact ⟨⟨y, hy⟩, h⟩
      · cases h
    · rintro ⟨⟨y, hy⟩, h⟩
      exact ⟨y, hy, bind_eq_error.mpr (.inl h)⟩

/-! ## Results of inquiries -/

namespace Inquiry

variable {α β : Type}

/-- Whatever the answers, the result has the property. -/
def Always (P : α → Prop) : Inquiry α → Prop
  | done a => P a
  | ask _ _ next => ∀ b, (next b).Always P

theorem always_pure {P : α → Prop} {a : α} (h : P a) : (pure a : Inquiry α).Always P := h

theorem always_true (i : Inquiry α) : i.Always fun _ => True := by
  induction i with
  | done a => trivial
  | ask query path next ih => exact ih

theorem Always.mono {P Q : α → Prop} {i : Inquiry α} (hi : i.Always P) (h : ∀ a, P a → Q a) :
    i.Always Q := by
  induction i with
  | done a => exact h a hi
  | ask query path next ih => exact fun b => ih b (hi b)

theorem Always.and {P Q : α → Prop} {i : Inquiry α} (hp : i.Always P) (hq : i.Always Q) :
    i.Always fun a => P a ∧ Q a := by
  induction i with
  | done a => exact ⟨hp, hq⟩
  | ask query path next ih => exact fun b => ih b (hp b) (hq b)

theorem Always.bind {P : α → Prop} {Q : β → Prop} {i : Inquiry α} {f : α → Inquiry β}
    (hi : i.Always P) (hf : ∀ a, P a → (f a).Always Q) : (i >>= f).Always Q := by
  induction i with
  | done a => exact hf a hi
  | ask query path next ih => exact fun b => ih b (hi b)

/-- What follows an inquiry matters only for the results it can have. -/
theorem Always.bind_congr {P : α → Prop} {i : Inquiry α} {f g : α → Inquiry β}
    (hi : i.Always P) (h : ∀ a, P a → f a = g a) : i >>= f = i >>= g := by
  induction i with
  | done a => exact h a hi
  | ask query path next ih => exact congrArg (Inquiry.ask query path) (funext fun b => ih b (hi b))

/-- The result of an inquiry when each question is answered by itself. -/
def result (evaluator : Evaluator Id) (i : Inquiry α) : Except Failure α :=
  (i.answer evaluator).run

theorem result_ask (evaluator : Evaluator Id) (query : Query) (path : String)
    (next : Bool → Inquiry α) :
    (Inquiry.ask query path next).result evaluator =
      (evaluator query path).run >>= fun b => (next b).result evaluator := by
  simp only [result, answer, Id.run_bind]
  cases (evaluator query path).run <;> rfl

theorem result_bind (evaluator : Evaluator Id) (i : Inquiry α) (f : α → Inquiry β) :
    (i >>= f).result evaluator = i.result evaluator >>= fun a => (f a).result evaluator := by
  induction i with
  | done a => rfl
  | ask query path next ih =>
    calc ((Inquiry.ask query path next) >>= f).result evaluator
        = (evaluator query path).run >>= fun b => (next b >>= f).result evaluator :=
          result_ask evaluator query path _
      _ = (evaluator query path).run >>= fun b =>
            (next b).result evaluator >>= fun a => (f a).result evaluator := by simp only [ih]
      _ = (Inquiry.ask query path next).result evaluator >>= fun a => (f a).result evaluator := by
          rw [result_ask, LawfulMonad.bind_assoc]

/-- The failure of a question without a record store. -/
def unavailable (query : Query) (path : String) : Failure :=
  .storeUnavailable
    ("no record store configured for the " ++ query.mode.name ++ " check on '" ++ path ++ "'")

theorem run_noStore (query : Query) (path : String) :
    (noStore query path).run = .error (unavailable query path) := rfl

theorem Always.of_result {P : α → Prop} {i : Inquiry α} (hi : i.Always P)
    {evaluator : Evaluator Id} {a : α} (h : i.result evaluator = .ok a) : P a := by
  induction i with
  | done b =>
    obtain rfl : b = a := Except.ok.inj h
    exact hi
  | ask query path next ih =>
    obtain ⟨b, _, hb⟩ := bind_eq_ok.mp (result_ask evaluator query path next ▸ h)
    exact ih b (hi b) hb

/-! ## Evaluators with a state -/

variable {σ : Type}

/-- The result of an inquiry whose evaluator has this state, and the state it is left in. -/
def resultFrom (evaluator : Evaluator (StateM σ)) (s : σ) (i : Inquiry α) :
    Except Failure α × σ :=
  ((i.answer evaluator).run s).run

@[simp] theorem resultFrom_pure (evaluator : Evaluator (StateM σ)) (s : σ) (a : α) :
    (pure a : Inquiry α).resultFrom evaluator s = (.ok a, s) := rfl

theorem resultFrom_ask (evaluator : Evaluator (StateM σ)) (s : σ) (query : Query) (path : String)
    (next : Bool → Inquiry α) :
    (Inquiry.ask query path next).resultFrom evaluator s =
      match ((evaluator query path).run s).run with
      | (.ok b, t) => (next b).resultFrom evaluator t
      | (.error e, t) => (.error e, t) := by
  simp only [resultFrom, answer, StateT.run_bind, Id.run_bind]
  rcases ((evaluator query path).run s).run with ⟨_ | b, t⟩ <;> rfl

theorem resultFrom_ask_eq_ok {evaluator : Evaluator (StateM σ)} {s s₂ : σ} {query : Query}
    {path : String} {next : Bool → Inquiry α} {a : α} :
    (Inquiry.ask query path next).resultFrom evaluator s = (.ok a, s₂) ↔
      ∃ b s₁, ((evaluator query path).run s).run = (.ok b, s₁) ∧
        (next b).resultFrom evaluator s₁ = (.ok a, s₂) := by
  rw [resultFrom_ask]
  rcases ((evaluator query path).run s).run with ⟨_ | b, s₁⟩
  · simp
  · constructor
    · exact fun h => ⟨b, s₁, rfl, h⟩
    · rintro ⟨_, _, ⟨⟩, h⟩
      exact h

theorem resultFrom_bind_eq_ok {evaluator : Evaluator (StateM σ)} {s s₂ : σ} {i : Inquiry α}
    {f : α → Inquiry β} {b : β} :
    (i >>= f).resultFrom evaluator s = (.ok b, s₂) ↔
      ∃ a s₁, i.resultFrom evaluator s = (.ok a, s₁) ∧
        (f a).resultFrom evaluator s₁ = (.ok b, s₂) := by
  have h : (i >>= f).resultFrom evaluator s = _ :=
    congrArg (fun m : StateM σ _ => (m.run s).run) (answer_bind evaluator i f)
  rw [h, StateT.run_bind, Id.run_bind]
  simp only [resultFrom]
  rcases ((i.answer evaluator).run s).run with ⟨_ | a, s₁⟩
  · simp
  · constructor
    · exact fun h => ⟨a, s₁, rfl, h⟩
    · rintro ⟨_, _, ⟨⟩, h⟩
      exact h

theorem Always.of_resultFrom {P : α → Prop} {i : Inquiry α} (hi : i.Always P)
    {evaluator : Evaluator (StateM σ)} {s s₁ : σ} {a : α}
    (h : i.resultFrom evaluator s = (.ok a, s₁)) : P a := by
  induction i generalizing s with
  | done b =>
    obtain rfl : b = a := Except.ok.inj (Prod.mk.inj h).1
    exact hi
  | ask query path next ih =>
    obtain ⟨b, _, _, hb⟩ := resultFrom_ask_eq_ok.mp h
    exact ih b (hi b) hb

end Inquiry

open Inquiry

/-! ## Nested values -/

/-- What a nested schema makes of a value: it lets absent ones pass, refuses what is no object, and
goes by the fields of an object. -/
theorem always_run_nested {P : Verdict → Prop} {schema : Schema} {site : Site}
    {value : Option Json} (habsent : isAbsent value = true → P (.accept value))
    (hobject : ∀ members, value = some (.object members) →
      (runFields schema.fields (site.path ++ ".") members).Always fun r =>
        P ⟨r.violations.isEmpty, some (.object r.members), r.violations⟩)
    (hother : ∀ text, P (site.reject value text)) :
    ((Predicate.nested schema).run site value).Always P := by
  obtain ⟨name, fields⟩ := schema
  rcases value with _ | v
  · exact always_pure (habsent rfl)
  · cases v with
    | null => exact always_pure (habsent rfl)
    | object members => exact (hobject members rfl).bind fun _ hr => always_pure hr
    | _ => exact always_pure (hother _)

/-- What a predicate on elements makes of a value: it refuses what is no array, and goes by the
elements of an array. -/
theorem always_run_each {P : Verdict → Prop} {inner : Predicate} {site : Site}
    {value : Option Json}
    (harray : ∀ items, value = some (.array items) →
      (runItems inner.run site 0 items).Always fun r =>
        P ⟨r.passed, some (.array r.items), r.violations⟩)
    (hother : ∀ text, P (site.reject value text)) :
    ((Predicate.each inner).run site value).Always P := by
  rcases value with _ | v
  · exact always_pure (hother _)
  · cases v with
    | array items => exact (harray items rfl).bind fun _ hr => always_pure hr
    | _ => exact always_pure (hother _)

/-! ## Absent values -/

def Json.isNull : Json → Bool
  | .null => true
  | _ => false

theorem isAbsent_eq (value : Option Json) : isAbsent value = (value.map Json.isNull).getD true := by
  cases value with
  | none => rfl
  | some v => cases v <;> rfl

theorem isAbsent_congr {v w : Option Json} (h : v.map Json.isNull = w.map Json.isNull) :
    isAbsent v = isAbsent w := by
  rw [isAbsent_eq, isAbsent_eq, h]

theorem isSome_congr {v w : Option Json} (h : v.map Json.isNull = w.map Json.isNull) :
    v.isSome = w.isSome := by
  simpa using congrArg Option.isSome h

/-- Only texts and numbers are coerced, and only into texts. -/
theorem isNull_coerceDate (value : Option Json) :
    ((value.bind coerceDate).or value).map Json.isNull = value.map Json.isNull := by
  cases value with
  | none => rfl
  | some v =>
    cases h : coerceDate v with
    | none => simp [h]
    | some w =>
      obtain ⟨m, hm, rfl⟩ := Option.map_eq_some_iff.mp h
      cases v <;> simp_all [Json.moment?, Json.isNull]

theorem always_isNull_run (predicate : Predicate) (site : Site) (value : Option Json) :
    (predicate.run site value).Always fun v => v.value.map Json.isNull = value.map Json.isNull := by
  cases predicate with
  | optional => exact always_pure rfl
  | coerceDate => exact always_pure (isNull_coerceDate value)
  | test t =>
    refine always_pure ?_
    split <;> rfl
  | lookup l =>
    intro answer
    cases answer <;> exact always_pure rfl
  | nested schema =>
    refine always_run_nested (fun _ => rfl) (fun members hv => ?_) fun _ => rfl
    subst hv
    exact (always_true _).mono fun _ _ => rfl
  | each inner =>
    refine always_run_each (fun items hv => ?_) fun _ => rfl
    subst hv
    exact (always_true _).mono fun _ _ => rfl

/-- What no check changes of a value, all of them leave unchanged. -/
theorem always_runChecks {β : Type} {key : Option Json → β} {checks : List Check}
    (h : ∀ c ∈ checks, ∀ site value,
      (c.predicate.run site value).Always fun v => key v.value = key value)
    (path : String) (failed : Option Nat) (value : Option Json) :
    (runChecks checks path failed value).Always fun r => key r.value = key value := by
  induction checks generalizing failed value with
  | nil => exact always_pure rfl
  | cons c rest ih =>
    obtain ⟨kind, position, predicate, metadata, message⟩ := c
    obtain ⟨hc, hrest⟩ := List.forall_mem_cons.mp h
    simp only [runChecks]
    split
    · exact ih hrest failed value
    · refine (hc _ value).bind fun verdict hv => ?_
      exact (ih hrest _ verdict.value).bind fun report hr => always_pure (hr.trans hv)

theorem always_isNull_runChecks (checks : List Check) (path : String) (failed : Option Nat)
    (value : Option Json) :
    (runChecks checks path failed value).Always fun r =>
      r.value.map Json.isNull = value.map Json.isNull :=
  always_runChecks (fun c _ => always_isNull_run c.predicate) path failed value

theorem always_isNull_validate (f : Field) (path : String) (value : Option Json) :
    (f.validate path value).Always fun r => r.value.map Json.isNull = value.map Json.isNull := by
  simp only [Field.validate, unlessSkipped]
  split
  · exact always_pure rfl
  · exact always_isNull_runChecks f.checks path none value

end Rulebook
