import Rulebook.Proofs.Rule.Tokenwise
import Rulebook.Proofs.Validation.Messages

/-!
# Tokens take turns

A field remembers the position of the last check that did not hold, and skips checks at that
position. As the checks of a token stand together, at a position that no other token has, this comes
to tokens that take turns: each runs its checks up to the first that does not hold, on the value
that the tokens before it left, and knows nothing of their failures.

* `runToFailure`: the turn of one token; `Turns`: those of all tokens, one after another;
* `runChecks_eq_runToFailure`, `resultFrom_runChecks_turns_iff`: what skipping comes to;
* `runToFailure_array`: the turn of an `array` rule on what is no array;
* `tokens_take_turns`: fields.
-/

namespace Rulebook

open Inquiry

/-! ## One token -/

/-- Runs checks in order, up to and including the first that does not hold. -/
def runToFailure : List Check → String → Option Json → Inquiry FieldReport
  | [], _, value => pure ⟨value, []⟩
  | c :: rest, path, value => do
    let verdict ← c.predicate.run ⟨c.kind, c.message, path⟩ value
    if verdict.passed then
      let report ← runToFailure rest path verdict.value
      pure ⟨report.value, verdict.violations ++ report.violations⟩
    else pure ⟨verdict.value, verdict.violations⟩

theorem runChecks_of_all_skipped {checks : List Check} {position : Nat}
    (h : ∀ c ∈ checks, c.position = position) (path : String) (value : Option Json) :
    runChecks checks path (some position) value = pure ⟨value, []⟩ := by
  induction checks with
  | nil => rfl
  | cons c rest ih =>
    obtain ⟨hc, hrest⟩ := List.forall_mem_cons.mp h
    rw [runChecks_of_skipped (congrArg some hc.symm)]
    exact ih hrest

/-- Checks at one position: the first that does not hold is the last one that runs. -/
theorem runChecks_eq_runToFailure {checks : List Check} {position : Nat}
    (h : ∀ c ∈ checks, c.position = position) (path : String) (value : Option Json) :
    runChecks checks path none value = runToFailure checks path value := by
  induction checks generalizing value with
  | nil => rfl
  | cons c rest ih =>
    obtain ⟨hc, hrest⟩ := List.forall_mem_cons.mp h
    obtain ⟨kind, _, predicate, metadata, message⟩ := c
    obtain rfl : _ = position := hc
    simp only [runChecks, runToFailure, reduceCtorEq, ↓reduceIte]
    refine congrArg _ (funext fun verdict => ?_)
    cases verdict.passed with
    | true => exact congrArg (· >>= _) (ih hrest verdict.value)
    | false => simp [runChecks_of_all_skipped hrest]

/-- What is no array, an `array` rule reports once, and asks nothing about it. -/
theorem runToFailure_array (element : Element) (position : Nat) (context : Context) (path : String)
    {value : Option Json} (h : ∀ items, value ≠ some (.array items)) :
    runToFailure ((Rule.array element).checks position context) path value =
      pure ⟨value, [⟨path, .array, context.message.getD (path ++ " must be an array")⟩]⟩ := by
  have hvalue : Test.sequence.holds value = false := by
    rcases value with _ | v
    · rfl
    · cases v with
      | array items => exact absurd rfl (h items)
      | _ => rfl
  simp only [Rule.checks, Rule.checksAt, Rule.kind, runToFailure, Predicate.run_test, pure_bind,
    hvalue, Bool.false_eq_true, ↓reduceIte, Site.reject, Test.describe]

/-! ## All tokens -/

section

variable {σ : Type}

/-- Groups of checks take turns. Each runs up to the first of its checks that does not hold, on the
value and with the state that the group before it left, and makes a report of its own. -/
inductive Turns (evaluator : Evaluator (StateM σ)) (path : String) :
    List (List Check) → Option Json → σ → List FieldReport → Option Json → σ → Prop where
  | nil (value : Option Json) (s : σ) : Turns evaluator path [] value s [] value s
  | cons {checks : List Check} {rest : List (List Check)} {value last : Option Json} {s s₁ t : σ}
      {report : FieldReport} {reports : List FieldReport}
      (hturn : (runToFailure checks path value).resultFrom evaluator s = (.ok report, s₁))
      (hrest : Turns evaluator path rest report.value s₁ reports last t) :
      Turns evaluator path (checks :: rest) value s (report :: reports) last t

variable {evaluator : Evaluator (StateM σ)} {context : Context} {path : String}

/-- The checks of rules, each at its position, make of a value what the rules make of it that take
turns; and they come to a report if these do. -/
theorem resultFrom_runChecks_turns_iff {rs : List Rule} {position : Nat} {value : Option Json}
    {s t : σ} {report : FieldReport} :
    (runChecks (Rule.turns context position rs).flatten path none value).resultFrom evaluator s =
        (.ok report, t) ↔
      ∃ reports, Turns evaluator path (Rule.turns context position rs) value s reports
          report.value t ∧
        report.violations = reports.flatMap FieldReport.violations := by
  induction rs generalizing position value s report with
  | nil =>
    constructor
    · intro h
      obtain ⟨hreport, rfl⟩ := Prod.mk.inj h
      obtain rfl := Except.ok.inj hreport
      exact ⟨[], .nil value s, rfl⟩
    · rintro ⟨_, hturns, hviolations⟩
      obtain ⟨_, _⟩ := report
      cases hturns
      obtain rfl := hviolations
      rfl
  | cons r rs ih =>
    have hmine : ∀ c ∈ r.checks position context, c.position = position := fun c hc =>
      (Rule.mem_checks hc).2
    have hapart : ∀ x ∈ r.checks position context,
        ∀ y ∈ (Rule.turns context (position + 1) rs).flatten, x.position ≠ y.position := by
      intro x hx y hy
      have hxp := hmine x hx
      have hyp := Rule.le_position_of_mem_turns hy
      omega
    rw [Rule.turns_cons, List.flatten_cons, runChecks_append hapart (by simp),
      runChecks_eq_runToFailure hmine]
    constructor
    · intro h
      obtain ⟨first, s₁, hfirst, h⟩ := resultFrom_bind_eq_ok.mp h
      obtain ⟨second, s₂, hsecond, h⟩ := resultFrom_bind_eq_ok.mp h
      obtain ⟨rfl, rfl⟩ : _ = report ∧ s₂ = t := by simpa using h
      obtain ⟨reports, hturns, hviolations⟩ := ih.mp hsecond
      exact ⟨first :: reports, .cons hfirst hturns, by rw [List.flatMap_cons, hviolations]⟩
    · rintro ⟨_, hturns, hviolations⟩
      cases hturns with
      | @cons _ _ _ _ _ s₁ _ first reports hturn hrest =>
        refine resultFrom_bind_eq_ok.mpr ⟨first, s₁, hturn, ?_⟩
        refine resultFrom_bind_eq_ok.mpr ⟨⟨report.value, reports.flatMap FieldReport.violations⟩, t,
          ih.mpr ⟨reports, hrest, rfl⟩, ?_⟩
        rw [resultFrom_pure, ← List.flatMap_cons, ← hviolations]

/-- No turn makes an array of a value, so each `array` rule meets what is none. -/
theorem Turns.reports_of_not_array {rs : List Rule} {position : Nat} {value last : Option Json}
    {s t : σ} {reports : List FieldReport}
    (h : Turns evaluator path (Rule.turns context position rs) value s reports last t)
    (hvalue : ∀ items, value ≠ some (.array items)) :
    List.Forall₂ (fun r report => r.kind = .array → report.violations =
      [⟨path, .array, context.message.getD (path ++ " must be an array")⟩]) rs reports := by
  induction rs generalizing position value s reports with
  | nil =>
    cases h
    exact .nil
  | cons r rs ih =>
    rw [Rule.turns_cons] at h
    cases h with
    | cons hturn hrest =>
      have hshape := always_within_runChecks (r.checks position context) path none value
      rw [runChecks_eq_runToFailure fun c hc => (Rule.mem_checks hc).2] at hshape
      have hkept := (hshape.of_resultFrom hturn).1
      refine .cons (fun hkind => ?_) (ih hrest (not_array_of_shape hkept.symm hvalue))
      cases r with
      | array element =>
        rw [runToFailure_array element position context path hvalue] at hturn
        obtain ⟨rfl, _⟩ : _ = _ ∧ s = _ := by simpa using hturn
        rfl
      | _ => cases hkind

end

/-! ## Fields -/

/-- **Turns.** The checks of a compiled field are those of the rules that its tokens state. Unless
they are skipped, validation comes to a report if and only if the rules come to one each by taking
turns: every rule runs its checks in order, up to and including the first that does not hold, on the
value that the rules before it left, whatever these reported. The violations are those of all rules,
in order. If the value is no array, each rule `array` reports that once, at the path of the field,
and runs nothing on elements: its turn is over without a question. -/
theorem tokens_take_turns {rules : String} {context : Context} {f : Field}
    (hf : compile rules context = .ok f) :
    ∃ rs, List.Forall₂ (fun t r => Rule.ofToken t context = .ok r) (Token.ofString rules) rs ∧
      f.checks = (Rule.turns context 0 rs).flatten ∧
      (∀ (path : String) (value : Option Json), isAbsent value = false ∨ f.isOptional = false →
        ∀ (σ : Type) (evaluator : Evaluator (StateM σ)) (s t : σ),
          (∀ report, (f.validate path value).resultFrom evaluator s = (.ok report, t) ↔
            ∃ reports, Turns evaluator path (Rule.turns context 0 rs) value s reports
                report.value t ∧
              report.violations = reports.flatMap FieldReport.violations) ∧
          ∀ reports last, Turns evaluator path (Rule.turns context 0 rs) value s reports last t →
            (∀ items, value ≠ some (.array items)) →
              List.Forall₂ (fun r report => r.kind = .array → report.violations =
                [⟨path, .array, context.message.getD (path ++ " must be an array")⟩]) rs reports) ∧
      ∀ (element : Element) (position : Nat) (path : String) (value : Option Json),
        (∀ items, value ≠ some (.array items)) →
          runToFailure ((Rule.array element).checks position context) path value =
            pure ⟨value, [⟨path, .array, context.message.getD (path ++ " must be an array")⟩]⟩ := by
  obtain ⟨rs, hrs, hchecks⟩ := exists_rules_of_compileTokens (compile_ok hf)
  refine ⟨rs, hrs, hchecks, fun path value hrun σ evaluator s t => ⟨fun report => ?_, ?_⟩,
    fun element position path value => runToFailure_array element position context path⟩
  · rw [Field.validate_eq_runChecks hrun, hchecks]
    exact resultFrom_runChecks_turns_iff
  · exact fun reports last hturns => hturns.reports_of_not_array

/-- A day is no array, and says so once; it is coerced all the same, and then too long. -/
theorem tokens_take_turns_day :
    ∃ (f : Field) (rs : List Rule) (report : FieldReport) (reports : List FieldReport),
      compile "array:string|date|max:10" Context.empty = .ok f ∧
      (f.validate "day" (some (.string "2024-02-29"))).resultFrom
        (fun _ _ => pure (.ok true) : Evaluator (StateM Unit)) () = (.ok report, ()) ∧
      report.violations.map (fun v => (v.rule, v.message)) =
        [(.array, "day must be an array"),
          (.max, "day must be shorter than or equal to 10 characters")] ∧
      Turns (fun _ _ => pure (.ok true) : Evaluator (StateM Unit)) "day"
        (Rule.turns Context.empty 0 rs) (some (.string "2024-02-29")) () reports
        (some (.string "2024-02-29T00:00:00.000Z")) () ∧
      report.violations = reports.flatMap FieldReport.violations := by
  obtain ⟨f, hf⟩ : ∃ f, compile "array:string|date|max:10" Context.empty = .ok f := ⟨_, rfl⟩
  obtain ⟨rs, _, _, hturns, _⟩ := tokens_take_turns hf
  obtain rfl := Except.ok.inj hf
  obtain ⟨reports, hreports, hviolations⟩ :=
    ((hturns "day" (some (.string "2024-02-29")) (.inl rfl) Unit (fun _ _ => pure (.ok true)) ()
      ()).1 _).mp rfl
  exact ⟨_, rs, _, reports, hf, rfl, rfl, hreports, hviolations⟩

end Rulebook
