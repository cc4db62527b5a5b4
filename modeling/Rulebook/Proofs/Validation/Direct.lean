import Rulebook.Proofs.Rule.Predicates
import Rulebook.Proofs.Validation.Acceptance

/-!
# Direct checks

A predicate can be put to a value directly, without a path, a message, a store or a coercion.
Unless it refers to a store or to a schema, that comes to what validation makes of it: both look
into the elements of arrays, although a direct check stops at the first one that does not hold, and
validation goes through all of them. Where it does refer to one, a direct check still tells what
does not depend on it, and is undecided otherwise.

* `Predicate.refers`: predicates that need a store or a schema;
* `exists_verdict_of_not_refers`, `exists_verdict_items`: all other predicates, and elements;
* `exists_verdict_of_uses`: the predicates of rules;
* `exists_report_of_not_refers`: lists of checks;
* `direct_agrees`: compiled fields.
-/

namespace Rulebook

open Inquiry

/-! ## Predicates that refer to nothing -/

/-- Whether a predicate refers to a record store or to a nested schema. -/
def Predicate.refers : Predicate → Bool
  | .lookup _ => true
  | .nested _ => true
  | .each inner => inner.refers
  | .optional => false
  | .coerceDate => false
  | .test _ => false

namespace Predicate

theorem allHold_cons_of_true {p : Json → Option Bool} {x : Json} {xs : List Json}
    (h : p x = some true) : allHold p (x :: xs) = allHold p xs := by
  simp only [allHold, h]

theorem allHold_cons_of_false {p : Json → Option Bool} {x : Json} {xs : List Json}
    (h : p x = some false) : allHold p (x :: xs) = some false := by
  simp only [allHold, h]

end Predicate

/-- What is found out about a value without asking anything. The value is given back as it is where
nothing is coerced. -/
structure Predicate.Settles (p : Predicate) (site : Site) (value : Option Json)
    (verdict : Verdict) : Prop where
  holds : p.holds value = some verdict.passed
  run : p.run site value = pure verdict
  unchanged : p.coerces = false → verdict.value = value

/-- Elements one by one: validation goes on behind an element that does not hold, with the same
result. -/
theorem exists_verdict_items {inner : Predicate}
    (h : ∀ site value, ∃ verdict, inner.Settles site value verdict) (site : Site) (i : Nat)
    (items : List Json) :
    ∃ verdict, Predicate.allHold (fun x => inner.holds (some x)) items = some verdict.passed ∧
      runItems inner.run site i items = pure verdict ∧
      (inner.coerces = false → verdict.items = items) := by
  induction items generalizing i with
  | nil => exact ⟨⟨true, [], []⟩, rfl, rfl, fun _ => rfl⟩
  | cons x xs ih =>
    obtain ⟨first, hfirst⟩ := h (site.item i) (some x)
    obtain ⟨rest, hholds, hrun, hsame⟩ := ih (i + 1)
    refine ⟨⟨first.passed && rest.passed, first.value.getD .null :: rest.items,
      first.violations ++ rest.violations⟩, ?_, ?_, fun hc => ?_⟩
    · cases hp : first.passed with
      | true =>
        rw [Predicate.allHold_cons_of_true (hp ▸ hfirst.holds), hholds]
        rfl
      | false => exact Predicate.allHold_cons_of_false (hp ▸ hfirst.holds)
    · simp only [runItems, hfirst.run, hrun, pure_bind]
    · simp only [hfirst.unchanged hc, hsame hc, Option.getD_some]

/-- What is no array is rejected by itself. -/
theorem settles_each_of_not_array (inner : Predicate) (site : Site) {value : Option Json}
    (h : ∀ items, value ≠ some (.array items)) :
    (Predicate.each inner).Settles site value
      (site.reject value ("each value in " ++ site.path ++ " requires an array")) := by
  rcases value with _ | v
  · exact ⟨rfl, rfl, fun _ => rfl⟩
  · cases v with
    | array items => exact absurd rfl (h items)
    | _ => exact ⟨rfl, rfl, fun _ => rfl⟩

/-- An array without elements passes, whatever the predicate on elements needs. -/
theorem settles_each_nil (inner : Predicate) (site : Site) :
    (Predicate.each inner).Settles site (some (.array [])) (.accept (some (.array []))) :=
  ⟨rfl, rfl, fun _ => rfl⟩

/-- A predicate that refers to nothing is always decided, and as validation decides. -/
theorem exists_verdict_of_not_refers : ∀ (p : Predicate), p.refers = false →
    ∀ (site : Site) (value : Option Json), ∃ verdict, p.Settles site value verdict
  | .optional, _, _, _ => ⟨_, rfl, rfl, fun _ => rfl⟩
  | .coerceDate, _, _, _ => ⟨_, rfl, rfl, nofun⟩
  | .test t, _, site, value => by
    cases h : t.holds value with
    | true => exact ⟨.accept value, congrArg some h, by simp [Predicate.run, h], fun _ => rfl⟩
    | false =>
      exact ⟨site.reject value (t.describe site.path), congrArg some h,
        by simp [Predicate.run, h], fun _ => rfl⟩
  | .each inner, h, site, value => by
    by_cases harray : ∃ items, value = some (.array items)
    · obtain ⟨items, rfl⟩ := harray
      obtain ⟨verdict, hholds, hrun, hsame⟩ :=
        exists_verdict_items (exists_verdict_of_not_refers inner h) site 0 items
      refine ⟨⟨verdict.passed, some (.array verdict.items), verdict.violations⟩, hholds, ?_,
        fun hc => ?_⟩
      · simp only [Predicate.run, hrun, pure_bind]
      · simp only [hsame hc]
    · exact ⟨_, settles_each_of_not_array inner site (not_exists.mp harray)⟩

/-! ## Predicates of rules -/

theorem holds_of_refers {q : Predicate} (hq : q.isEach = false) (h : q.refers = true)
    (value : Option Json) : q.holds value = none := by
  cases q with
  | lookup l => rfl
  | nested s => rfl
  | each inner => cases hq
  | _ => cases h

theorem coerces_of_not_refers {q : Predicate} (hq : q.isEach = false) (h : q.refers = false)
    (hd : q ≠ .coerceDate) : q.coerces = false := by
  cases q with
  | coerceDate => exact absurd rfl hd
  | nested s => cases h
  | each inner => cases hq
  | _ => rfl

/-- Where a predicate of a rule is decided, nothing that it may refer to is needed: there is no
element to put to a store or a schema. -/
theorem exists_verdict_of_holds {p q : Predicate} (hp : p = q ∨ p = .each q)
    (hq : q.isEach = false) {value : Option Json} {b : Bool} (h : p.holds value = some b)
    (site : Site) :
    ∃ verdict, p.Settles site value verdict ∧ (q ≠ .coerceDate → verdict.value = value) := by
  by_cases hrefers : q.refers = true
  · have hnone := holds_of_refers hq hrefers
    rcases hp with rfl | rfl
    · rw [hnone value] at h
      cases h
    · by_cases harray : ∃ items, value = some (.array items)
      · obtain ⟨items, rfl⟩ := harray
        cases items with
        | nil => exact ⟨_, settles_each_nil q site, fun _ => rfl⟩
        | cons x xs =>
          simp only [Predicate.holds, Predicate.allHold, hnone (some x)] at h
          cases h
      · exact ⟨_, settles_each_of_not_array q site (not_exists.mp harray), fun _ => rfl⟩
  · have hnot : q.refers = false := Bool.eq_false_iff.mpr hrefers
    have hp' : p.refers = false ∧ (q.coerces = false → p.coerces = false) := by
      rcases hp with rfl | rfl
      · exact ⟨hnot, id⟩
      · exact ⟨hnot, id⟩
    obtain ⟨verdict, hverdict⟩ := exists_verdict_of_not_refers p hp'.1 site value
    exact ⟨verdict, hverdict, fun hd =>
      hverdict.unchanged (hp'.2 (coerces_of_not_refers hq hnot hd))⟩

/-- What does not pass is reported, and nothing else is. -/
theorem Predicate.Settles.violations_iff {p : Predicate} {site : Site} {value : Option Json}
    {verdict : Verdict} (h : p.Settles site value verdict) :
    verdict.violations = [] ↔ verdict.passed = true := by
  have hpassed : verdict.passed = verdict.violations.isEmpty := by
    have := always_passed_run p site value
    rwa [h.run] at this
  rw [hpassed, List.isEmpty_iff]

/-! ## Lists of checks -/

/-- Checks that refer to nothing and coerce nothing: no violation is reported if and only if all of
them hold of the value, although some are skipped where one does not. -/
theorem exists_report_of_not_refers {checks : List Check}
    (hrefers : ∀ c ∈ checks, c.predicate.refers = false)
    (hcoerces : ∀ c ∈ checks, c.predicate.coerces = false) (path : String) (failed : Option Nat)
    (value : Option Json) :
    ∃ violations, runChecks checks path failed value = pure ⟨value, violations⟩ ∧
      (failed = none →
        (violations = [] ↔ ∀ c ∈ checks, c.predicate.holds value = some true)) := by
  induction checks generalizing failed with
  | nil => exact ⟨[], rfl, by simp⟩
  | cons c rest ih =>
    obtain ⟨hc, hrest⟩ := List.forall_mem_cons.mp hrefers
    obtain ⟨hcc, hcrest⟩ := List.forall_mem_cons.mp hcoerces
    have hmore := ih hrest hcrest
    by_cases hskip : failed = some c.position
    · obtain ⟨violations, hrun, _⟩ := hmore failed
      refine ⟨violations, by rw [runChecks_of_skipped hskip, hrun], fun hn => ?_⟩
      rw [hn] at hskip
      cases hskip
    · obtain ⟨kind, position, predicate, metadata, message⟩ := c
      obtain ⟨verdict, hsettles⟩ :=
        exists_verdict_of_not_refers predicate hc ⟨kind, message, path⟩ value
      obtain ⟨violations, hrun, hiff⟩ :=
        hmore (if verdict.passed then failed else some position)
      refine ⟨verdict.violations ++ violations, ?_, fun hn => ?_⟩
      · simp only [runChecks, hskip, ↓reduceIte, hsettles.run, pure_bind,
          hsettles.unchanged hcc, hrun]
      · -- only if this check holds does it matter what the checks behind it report
        rw [List.append_eq_nil_iff, hsettles.violations_iff, List.forall_mem_cons,
          hsettles.holds, Option.some.injEq]
        refine and_congr_right fun hpassed => hiff ?_
        rw [hpassed, if_pos rfl, hn]

/-! ## Compiled fields -/

section

variable {rules : String} {context : Context} {f : Field}

/-- Tokens that neither coerce dates nor refer to anything have checks of that sort. -/
theorem plain_of_compile (hf : compile rules context = .ok f)
    (hn : ∀ t ∈ Token.ofString rules, t.name ∉ ["date", "object", "unique", "exist"])
    (ha : ∀ t ∈ Token.ofString rules, t.name = "array" → ∀ s, context.element ≠ some (.nested s))
    {c : Check} (hc : c ∈ f.checks) :
    c.predicate.refers = false ∧ c.predicate.coerces = false := by
  obtain ⟨t, ht, r, q, hr, _, hq, huses⟩ := exists_uses_of_compile hf hc
  have hname := Rule.kind_of_ofToken hr
  have hnot := hn t ht
  rw [← hname] at hnot
  cases q with
  | coerceDate =>
    rw [huses.coercion rfl] at hnot
    exact absurd (by decide) hnot
  | lookup l =>
    rcases huses.lookup l rfl with hk | hk
    · rw [hk] at hnot
      exact absurd (by decide) hnot
    · rw [hk] at hnot
      exact absurd (by decide) hnot
  | nested s =>
    rcases huses.nested s rfl with rfl | rfl
    · exact absurd (List.mem_cons_of_mem _ (List.mem_cons_self ..)) hnot
    · exact absurd (Rule.element_of_ofToken hr) (ha t ht hname.symm s)
  | each inner => cases huses.flat
  | _ => rcases hq with hq | hq <;> rw [hq] <;> exact ⟨rfl, rfl⟩

/-- **Direct checks.** Where a check of a compiled field is decided directly, validation decides it
in the same way whoever would answer questions, reports a violation if and only if it does not hold,
and gives the value back as it was unless the check is the coercion of a rule `date`. Where it is
not decided, it refers to a store or to a nested schema. So if no token of the field does, and none
is `date`, validation of a value that is not skipped reports no violation if and only if all checks
hold of the value. -/
theorem direct_agrees (hf : compile rules context = .ok f) :
    (∀ c ∈ f.checks, ∀ (v : Json) (b : Bool), c.holds v = some b → ∀ path : String,
      ∃ verdict : Verdict,
        (∀ (m : Type → Type) [Monad m] (evaluator : Evaluator m),
          (c.predicate.run ⟨c.kind, c.message, path⟩ (some v)).answer evaluator =
            pure (.ok verdict)) ∧
        verdict.passed = b ∧ (verdict.violations ≠ [] ↔ b = false) ∧
        (¬(c.kind = .date ∧ (c.predicate = .coerceDate ∨ c.predicate = .each .coerceDate)) →
          verdict.value = some v)) ∧
    (∀ c ∈ f.checks, ∀ v : Json, c.holds v = none → c.predicate.refers = true) ∧
    ((∀ t ∈ Token.ofString rules, t.name ∉ ["date", "object", "unique", "exist"]) →
      (∀ t ∈ Token.ofString rules, t.name = "array" →
        ∀ s, context.element ≠ some (.nested s)) →
      ∀ (path : String) (value : Option Json), isAbsent value = false ∨ f.isOptional = false →
        ∃ report : FieldReport,
          (∀ (m : Type → Type) [Monad m] (evaluator : Evaluator m),
            (f.validate path value).answer evaluator = pure (.ok report)) ∧
          (report.violations = [] ↔ ∀ c ∈ f.checks, c.predicate.holds value = some true)) := by
  refine ⟨?_, ?_, ?_⟩
  · intro c hc v b hb path
    obtain ⟨_, _, r, q, _, hk, hq, huses⟩ := exists_uses_of_compile hf hc
    obtain ⟨verdict, h, hsame⟩ :=
      exists_verdict_of_holds hq huses.flat hb ⟨c.kind, c.message, path⟩
    obtain rfl : verdict.passed = b := Option.some.inj (h.holds.symm.trans hb)
    refine ⟨verdict, fun m _ evaluator => by rw [h.run]; rfl, rfl, ?_, fun hd => hsame ?_⟩
    · rw [ne_eq, h.violations_iff, Bool.not_eq_true]
    · rintro rfl
      exact hd ⟨hk.trans (huses.coercion rfl), hq⟩
  · intro c hc v hv
    by_contra hrefers
    obtain ⟨verdict, h⟩ := exists_verdict_of_not_refers c.predicate
      (Bool.eq_false_iff.mpr hrefers) ⟨c.kind, c.message, ""⟩ (some v)
    rw [show c.holds v = _ from h.holds] at hv
    cases hv
  · intro hn ha path value hskip
    obtain ⟨violations, hrun, hiff⟩ := exists_report_of_not_refers
      (fun c hc => (plain_of_compile hf hn ha hc).1)
      (fun c hc => (plain_of_compile hf hn ha hc).2) path none value
    refine ⟨⟨value, violations⟩, fun m _ evaluator => ?_, hiff rfl⟩
    rw [Field.validate_eq_runChecks hskip, hrun]
    rfl

end

/-- An array that is to hold numbers only, and holds a text besides one: the direct check of the
elements fails, and validation without a store rejects the array. -/
theorem direct_agrees_numbers :
    ∃ f report, compile "array:number|min:1" Context.empty = .ok f ∧
      f.checks.map (fun c => c.holds (.array [.ofNat 1, .string "x"])) =
        [some true, some false, some true] ∧
      (f.validate "sizes" (some (.array [.ofNat 1, .string "x"]))).answer noStore =
        pure (.ok report) ∧ report.violations ≠ [] := by
  obtain ⟨_, _, hfield⟩ := @direct_agrees "array:number|min:1" Context.empty _ rfl
  obtain ⟨report, hreport, hiff⟩ := hfield (by decide) (fun _ _ _ _ => nofun) "sizes"
    (some (.array [.ofNat 1, .string "x"])) (.inl rfl)
  refine ⟨_, report, rfl, rfl, hreport Id noStore, fun hnone => ?_⟩
  have hholds := hiff.mp hnone _ (List.mem_cons_of_mem _ (List.mem_cons_self ..))
  cases hholds

end Rulebook
