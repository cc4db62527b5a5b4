import Rulebook.Proofs.Validation.Results
import Rulebook.Rule.Compile

/-!
# One rule string after another

Validating by two rule strings with a bar between them is validating by the first and then, the
value it left, by the second. The checks of the second one only stand at later positions, so a
failure of the first one skips none of them; and no check makes a value absent or present, so an
`optional` rule in either string means the same for both.

* `runChecks_append`, `runChecks_shift`: lists of checks one after the other, and moved on;
* `validate_append`: rule strings one after the other.
-/

namespace Rulebook

open Inquiry

/-! ## Lists of checks -/

/-- Moving all positions on changes nothing, as positions are only compared with each other. -/
theorem runChecks_shift (n : Nat) (checks : List Check) (path : String) (failed : Option Nat)
    (value : Option Json) :
    runChecks (checks.map (Check.shift n)) path (failed.map (· + n)) value =
      runChecks checks path failed value := by
  induction checks generalizing failed value with
  | nil => rfl
  | cons c rest ih =>
    obtain ⟨kind, position, predicate, metadata, message⟩ := c
    have hf : failed.map (· + n) = some (position + n) ↔ failed = some position := by
      cases failed <;> simp
    simp only [List.map_cons, Check.shift, runChecks, hf]
    split
    · exact ih failed value
    · refine congrArg _ (funext fun verdict => ?_)
      have hn : (if verdict.passed then failed.map (· + n) else some (position + n)) =
          (if verdict.passed then failed else some position).map (· + n) := by
        cases verdict.passed <;> rfl
      rw [hn]
      exact congrArg (· >>= _) (ih _ verdict.value)

/-- A failure at a position that no check has skips none of them. -/
theorem runChecks_of_forall_ne {checks : List Check} {failed : Option Nat}
    (h : ∀ c ∈ checks, failed ≠ some c.position) (path : String) (value : Option Json) :
    runChecks checks path failed value = runChecks checks path none value := by
  induction checks generalizing value with
  | nil => rfl
  | cons c rest ih =>
    obtain ⟨kind, position, predicate, metadata, message⟩ := c
    have hc : failed ≠ some position := h _ (List.mem_cons_self ..)
    simp only [runChecks, hc, ↓reduceIte, reduceCtorEq]
    refine congrArg _ (funext fun verdict => ?_)
    cases verdict.passed with
    | true => exact congrArg (· >>= _) (ih (fun d hd => h d (List.mem_cons_of_mem _ hd)) _)
    | false => rfl

/-- Checks that share no position with those before them start afresh. -/
theorem runChecks_append {xs ys : List Check} (hxy : ∀ x ∈ xs, ∀ y ∈ ys, x.position ≠ y.position)
    {failed : Option Nat} (hf : ∀ y ∈ ys, failed ≠ some y.position) (path : String)
    (value : Option Json) :
    runChecks (xs ++ ys) path failed value = (do
      let first ← runChecks xs path failed value
      let second ← runChecks ys path none first.value
      pure ⟨second.value, first.violations ++ second.violations⟩) := by
  induction xs generalizing failed value with
  | nil =>
    rw [List.nil_append, runChecks_of_forall_ne hf]
    simp [runChecks]
  | cons x xs ih =>
    have hx : ∀ y ∈ ys, some x.position ≠ some y.position := fun y hy e =>
      hxy x (List.mem_cons_self ..) y hy (Option.some.inj e)
    have hxs : ∀ x ∈ xs, ∀ y ∈ ys, x.position ≠ y.position := fun z hz =>
      hxy z (List.mem_cons_of_mem _ hz)
    obtain ⟨kind, position, predicate, metadata, message⟩ := x
    simp only [List.cons_append, runChecks]
    split
    · exact ih hxs hf value
    · have hn : ∀ verdict : Verdict, ∀ y ∈ ys,
          (if verdict.passed then failed else some position) ≠ some y.position := by
        intro verdict y hy
        cases verdict.passed with
        | true => exact hf y hy
        | false => exact hx y hy
      simp [ih hxs (hn _)]

/-- The checks of a token share no position with those of the tokens after it. -/
theorem position_ne_of_compileTokens {r : Rule} {context : Context} {position : Nat}
    {tokens : List Token} {more : List Check}
    (hm : compileTokens context (position + 1) tokens = .ok more) :
    ∀ x ∈ r.checks position context, ∀ y ∈ more, x.position ≠ y.position := by
  intro x hx y hy
  have hxp := (Rule.mem_checks hx).2
  have hyp := position_compileTokens hm hy
  omega

/-! ## Rule strings -/

/-- Skipping aside, a field is validated by running its checks. -/
theorem Field.validate_eq_runChecks {f : Field} {value : Option Json}
    (h : isAbsent value = false ∨ f.isOptional = false) (path : String) :
    f.validate path value = runChecks f.checks path none value := by
  have hs : (f.isOptional && isAbsent value) = false := by
    rcases h with h | h <;> simp [h]
  simp only [Field.isOptional] at hs
  simp [Field.validate, unlessSkipped, hs]

/-- What it takes to compile two rule strings with a bar between them, and what comes of it. -/
theorem compile_append_ok {a b : String} (ha : a ≠ "") (hb : b ≠ "") {context : Context}
    {f : Field} (hf : compile (a ++ "|" ++ b) context = .ok f) :
    ∃ fa fb, compile a context = .ok fa ∧ compile b context = .ok fb ∧
      f.checks = fa.checks ++ fb.checks.map (Check.shift (Token.ofString a).length) := by
  rw [compile_append ha hb] at hf
  cases hca : compile a context with
  | error e => simp [hca] at hf
  | ok fa =>
    cases hcb : compile b context with
    | error e => simp [hca, hcb] at hf
    | ok fb =>
      simp only [hca, hcb, Except.ok.injEq] at hf
      exact ⟨fa, fb, rfl, rfl, hf ▸ rfl⟩

theorem isOptional_eq_false_of_tokens {rules : String} {context : Context} {f : Field}
    (h : compile rules context = .ok f) (ht : ∀ t ∈ Token.ofString rules, t.name ≠ "optional") :
    f.isOptional = false := by
  have ha := any_isOptional_compileTokens (compile_ok h)
  rw [Field.isOptional, ha, List.any_eq_false]
  intro t hm hn
  exact ht t hm (by simpa using hn)

/-- **Sequential composition.** Two rule strings with a bar between them ask the questions of the
first one, then those of the second one about the value that the first one left; the violations are
those of both, in this order. So any evaluator, whatever it does on the way, is asked the same
questions in the same order, and its first failure ends both. -/
theorem validate_append {a b : String} (ha : a ≠ "") (hb : b ≠ "") {context : Context} {f : Field}
    (hf : compile (a ++ "|" ++ b) context = .ok f) {value : Option Json}
    (hv : isAbsent value = false ∨
      ∀ t ∈ Token.ofString a ++ Token.ofString b, t.name ≠ "optional") (path : String) :
    ∃ fa fb, compile a context = .ok fa ∧ compile b context = .ok fb ∧
      f.validate path value = (do
        let first ← fa.validate path value
        let second ← fb.validate path first.value
        pure ⟨second.value, first.violations ++ second.violations⟩) ∧
      ∀ (m : Type → Type) [Monad m] [LawfulMonad m] (evaluator : Evaluator m),
        (f.validate path value).answer evaluator = (do
          match ← (fa.validate path value).answer evaluator with
          | .ok first =>
            match ← (fb.validate path first.value).answer evaluator with
            | .ok second =>
              pure (.ok ⟨second.value, first.violations ++ second.violations⟩)
            | .error e => pure (.error e)
          | .error e => pure (.error e)) := by
  obtain ⟨fa, fb, hca, hcb, hchecks⟩ := compile_append_ok ha hb hf
  have hskip : isAbsent value = false ∨ fa.isOptional = false ∧ fb.isOptional = false := by
    refine hv.imp_right fun ht => ⟨?_, ?_⟩
    · exact isOptional_eq_false_of_tokens hca fun t hm => ht t (List.mem_append_left _ hm)
    · exact isOptional_eq_false_of_tokens hcb fun t hm => ht t (List.mem_append_right _ hm)
  have hopt : f.isOptional = (fa.isOptional || fb.isOptional) := by
    simp [Field.isOptional, hchecks, List.any_append, List.any_map, Function.comp_def, Check.shift]
  have hpos : ∀ x ∈ fa.checks, ∀ y ∈ fb.checks.map (Check.shift (Token.ofString a).length),
      x.position ≠ y.position := by
    intro x hx y hy
    obtain ⟨y', _, rfl⟩ := List.mem_map.mp hy
    have := position_compileTokens (compile_ok hca) hx
    simp only [Check.shift]
    omega
  have hseq : f.validate path value = (do
      let first ← fa.validate path value
      let second ← fb.validate path first.value
      pure ⟨second.value, first.violations ++ second.violations⟩) := by
    rw [Field.validate_eq_runChecks (hskip.imp_right fun h => by simp [hopt, h]),
      Field.validate_eq_runChecks (hskip.imp_right And.left), hchecks,
      runChecks_append hpos (by simp)]
    -- the first string leaves the value present if it was, so the second one is not skipped
    refine (always_isNull_runChecks fa.checks path none value).bind_congr fun first hfirst => ?_
    rw [Field.validate_eq_runChecks (hskip.imp (isAbsent_congr hfirst).trans And.right)]
    exact congrArg (· >>= _) (runChecks_shift _ fb.checks path none first.value)
  refine ⟨fa, fb, hca, hcb, hseq, fun m _ _ evaluator => ?_⟩
  rw [hseq]
  refine (answer_bind evaluator _ _).trans (congrArg _ (funext fun r => ?_))
  cases r with
  | error e => rfl
  | ok first =>
    refine (answer_bind evaluator _ _).trans (congrArg _ (funext fun r => ?_))
    cases r with
    | error e => rfl
    | ok second => rfl

/-- The date is coerced before its length is checked. -/
theorem validate_append_date :
    ∃ f fa fb, compile ("date" ++ "|" ++ "optional|max:10") Context.empty = .ok f ∧
      compile "date" Context.empty = .ok fa ∧ compile "optional|max:10" Context.empty = .ok fb ∧
      f.validate "day" (some (.string "2024-02-29")) = (do
        let first ← fa.validate "day" (some (.string "2024-02-29"))
        let second ← fb.validate "day" first.value
        pure ⟨second.value, first.violations ++ second.violations⟩) := by
  obtain ⟨fa, fb, hca, hcb, h, _⟩ :=
    @validate_append "date" "optional|max:10" (by decide) (by decide) Context.empty _ rfl
      (some (.string "2024-02-29")) (.inl rfl) "day"
  exact ⟨_, fa, fb, rfl, hca, hcb, h⟩

end Rulebook
