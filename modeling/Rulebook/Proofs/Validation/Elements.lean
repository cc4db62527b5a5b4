import Rulebook.Proofs.Validation.Unchanged

/-!
# Elements one by one

A predicate on the elements of an array is run on each of them, at the path of the element, and on
the ones behind an element that does not pass as well. If each question is answered by itself, that
comes to what the predicate comes to on every element alone: the verdicts are put together in the
order of the elements, and the first failure is the failure of the whole.

* `Predicate.onItem`: an element alone;
* `result_runItems`: the elements of an array;
* `elements_run_apart`: arrays.
-/

namespace Rulebook

open Inquiry

/-- What a predicate comes to on an element with its index, run on it alone at the path of the
element. -/
def Predicate.onItem (inner : Predicate) (evaluator : Evaluator Id) (site : Site) (p : Json × Nat) :
    Except Failure Verdict :=
  (inner.run ⟨site.kind, site.message, site.path ++ "[" ++ toString p.2 ++ "]"⟩
    (some p.1)).result evaluator

theorem result_runItems (inner : Predicate) (evaluator : Evaluator Id) (site : Site) (i : Nat)
    (items : List Json) :
    (runItems inner.run site i items).result evaluator = (do
      let verdicts ← (items.zipIdx i).mapM (inner.onItem evaluator site)
      pure (.ofVerdicts verdicts)) := by
  induction items generalizing i with
  | nil => rfl
  | cons x rest ih =>
    rw [runItems, result_bind, List.zipIdx_cons, List.mapM_cons]
    simp only [LawfulMonad.bind_assoc]
    refine congrArg _ (funext fun first => ?_)
    rw [result_bind, ih]
    simp only [LawfulMonad.bind_assoc, pure_bind]
    rfl

/-- A value that is there stays there, as coerced. -/
theorem exists_value_of_onItem {inner : Predicate} {evaluator : Evaluator Id} {site : Site}
    {p : Json × Nat} {verdict : Verdict} (h : inner.onItem evaluator site p = .ok verdict) :
    ∃ out, verdict.value = some out := by
  have hnull := (always_isNull_run inner _ (some p.1)).of_result h
  exact Option.isSome_iff_exists.mp (isSome_congr hnull)

/-- The elements of an array as coerced, each as its own verdict says. -/
theorem forall₂_value_iff {inner : Predicate} {evaluator : Evaluator Id} {site : Site}
    {elements : List (Json × Nat)} {verdicts : List Verdict}
    (h : List.Forall₂ (fun p w => inner.onItem evaluator site p = .ok w) elements verdicts)
    {outs : List Json} :
    List.Forall₂ (fun w out => w.value = some out) verdicts outs ↔
      outs = (ItemsVerdict.ofVerdicts verdicts).items := by
  induction h generalizing outs with
  | nil => exact List.forall₂_nil_left_iff
  | cons hverdict _ ih =>
    obtain ⟨out, hout⟩ := exists_value_of_onItem hverdict
    rw [List.forall₂_cons_left_iff]
    simp only [ih, ItemsVerdict.ofVerdicts, List.map_cons, hout, Option.getD_some,
      Option.some.injEq]
    constructor
    · rintro ⟨_, _, rfl, rfl, rfl⟩
      rfl
    · rintro rfl
      exact ⟨out, _, rfl, rfl, rfl⟩

theorem result_run_each (inner : Predicate) (evaluator : Evaluator Id) (site : Site)
    (items : List Json) :
    ((Predicate.each inner).run site (some (.array items))).result evaluator = (do
      let verdicts ← items.zipIdx.mapM (inner.onItem evaluator site)
      pure ⟨verdicts.all Verdict.passed, some (.array (ItemsVerdict.ofVerdicts verdicts).items),
        verdicts.flatMap Verdict.violations⟩) := by
  rw [Predicate.run, result_bind, result_runItems, LawfulMonad.bind_assoc]
  rfl

/-- **Elements.** Whatever the predicate, running it on the elements of an array is running it on
each element alone, at the path of the element. If all of these come to verdicts, the violations are
theirs in order of the elements, every element is replaced by what its own verdict has for it, and
the array passes if and only if all elements do. Otherwise the failure is that of the first element
that fails. -/
theorem elements_run_apart (inner : Predicate) (evaluator : Evaluator Id) (site : Site)
    (items : List Json) :
    (∀ verdict, ((Predicate.each inner).run site (some (.array items))).result evaluator =
        .ok verdict ↔
      ∃ (verdicts : List Verdict) (outs : List Json),
        List.Forall₂ (fun p w => inner.onItem evaluator site p = .ok w) items.zipIdx verdicts ∧
        List.Forall₂ (fun w out => w.value = some out) verdicts outs ∧
        outs.length = items.length ∧ verdict.value = some (.array outs) ∧
        verdict.violations = verdicts.flatMap Verdict.violations ∧
        (verdict.passed = true ↔ ∀ w ∈ verdicts, w.passed = true)) ∧
    ((∃ verdict, ((Predicate.each inner).run site (some (.array items))).result evaluator =
        .ok verdict) ↔ ∀ p ∈ items.zipIdx, ∃ w, inner.onItem evaluator site p = .ok w) ∧
    ∀ e, ((Predicate.each inner).run site (some (.array items))).result evaluator = .error e ↔
      ∃ before p after, items.zipIdx = before ++ p :: after ∧
        (∀ q ∈ before, ∃ w, inner.onItem evaluator site q = .ok w) ∧
        inner.onItem evaluator site p = .error e := by
  rw [result_run_each]
  refine ⟨fun verdict => ?_, ?_, fun e => ?_⟩
  · rw [bind_eq_ok]
    constructor
    · rintro ⟨verdicts, hverdicts, h⟩
      obtain rfl := Except.ok.inj h
      have hall := mapM_eq_ok_iff.mp hverdicts
      refine ⟨verdicts, _, hall, (forall₂_value_iff hall).mpr rfl, ?_, rfl, rfl, List.all_eq_true⟩
      rw [ItemsVerdict.ofVerdicts, List.length_map, ← hall.length_eq, List.length_zipIdx]
    · rintro ⟨verdicts, outs, hall, houts, _, hvalue, hviolations, hpassed⟩
      obtain rfl := (forall₂_value_iff hall).mp houts
      refine ⟨verdicts, mapM_eq_ok_iff.mpr hall, congrArg Except.ok ?_⟩
      obtain ⟨passed, value, violations⟩ := verdict
      obtain rfl : passed = verdicts.all Verdict.passed :=
        Bool.eq_iff_iff.mpr (hpassed.trans List.all_eq_true.symm)
      obtain rfl : value = _ := hvalue
      obtain rfl : violations = _ := hviolations
      rfl
  · rw [← exists_mapM_iff]
    constructor
    · rintro ⟨_, h⟩
      obtain ⟨verdicts, hverdicts, _⟩ := bind_eq_ok.mp h
      exact ⟨verdicts, hverdicts⟩
    · rintro ⟨verdicts, hverdicts⟩
      exact ⟨_, bind_eq_ok.mpr ⟨verdicts, hverdicts, rfl⟩⟩
  · rw [← mapM_eq_error_iff, bind_eq_error]
    refine or_iff_left ?_
    rintro ⟨_, _, h⟩
    cases h

end Rulebook
