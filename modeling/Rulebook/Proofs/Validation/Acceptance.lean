import Rulebook.Proofs.Rule.Admission
import Rulebook.Proofs.Rule.Metadata
import Rulebook.Proofs.Validation.Composition

/-!
# Accepted values

A value is accepted if validation reports no violation of it. Then every check of its field passed,
each on what the checks before it left of the value. Without a `date` rule that is the value but
for what objects hold, and so the metadata of the field admits the value itself.

* `always_passed_run`: what does not pass is reported;
* `runChecks_append_accept_iff`: checks that accept a value, one after another;
* `accepted_admits`: the metadata of the field.
-/

namespace Rulebook

open Inquiry

/-! ## Predicates -/

theorem passed_ofVerdicts {items : List Json} {verdicts : List Verdict}
    (h : List.Forall₂ (fun _ v => v.passed = v.violations.isEmpty) items verdicts) :
    (ItemsVerdict.ofVerdicts verdicts).passed =
      (ItemsVerdict.ofVerdicts verdicts).violations.isEmpty := by
  induction h with
  | nil => rfl
  | @cons _ v _ rest hv _ ih =>
    simp only [ItemsVerdict.ofVerdicts, List.all_cons, List.flatMap_cons, hv] at ih ⊢
    rw [ih]
    cases v.violations <;> rfl

/-- What does not pass is reported, and nothing else is. -/
theorem always_passed_run : ∀ (p : Predicate) (site : Site) (value : Option Json),
    (p.run site value).Always fun v => v.passed = v.violations.isEmpty
  | .optional, _, _ => always_pure rfl
  | .coerceDate, _, _ => always_pure rfl
  | .test t, site, value => by
    refine always_pure ?_
    split <;> rfl
  | .lookup _, _, _ => fun answer => by cases answer <;> exact always_pure rfl
  | .nested _, _, _ =>
    always_run_nested (fun _ => rfl) (fun _ _ => (always_true _).mono fun _ _ => rfl) fun _ => rfl
  | .each inner, site, value => by
    refine always_run_each (fun items _ => ?_) fun _ => rfl
    refine (always_runItems (fun s x => always_passed_run inner s (some x)) site 0 items).mono ?_
    rintro _ ⟨verdicts, hall, rfl⟩
    exact passed_ofVerdicts hall

theorem certifies_of_forall₂ {inner : Predicate} {items : List Json} {verdicts : List Verdict}
    (h : List.Forall₂ (fun x v => v.violations = [] → inner.Certifies x) items verdicts)
    (hv : verdicts.flatMap Verdict.violations = []) : ∀ x ∈ items, inner.Certifies x := by
  induction h with
  | nil => nofun
  | cons hx _ ih =>
    obtain ⟨h0, hrest⟩ := List.append_eq_nil_iff.mp hv
    exact List.forall_mem_cons.mpr ⟨hx h0, ih hrest⟩

/-- A value of which no violation is reported is what the predicate certifies. -/
theorem always_certifies_run : ∀ (p : Predicate) (site : Site) (v : Json),
    (p.run site (some v)).Always fun verdict => verdict.violations = [] → p.Certifies v
  | .optional, _, _ => always_pure fun _ => trivial
  | .coerceDate, _, _ => always_pure fun _ => trivial
  | .test t, site, v => by
    refine always_pure fun h => ?_
    split at h
    · assumption
    · cases h
  | .lookup _, _, _ => fun _ => always_pure fun _ => trivial
  | .nested _, _, v => by
    refine always_run_nested (fun hnull _ => .inl ?_) (fun members hv => ?_) fun _ => nofun
    · cases v <;> first | rfl | cases hnull
    · exact (always_true _).mono fun _ _ _ => .inr ⟨members, Option.some.inj hv⟩
  | .each inner, site, v => by
    refine always_run_each (fun items hv => ?_) fun _ => nofun
    refine (always_runItems (always_certifies_run inner) site 0 items).mono ?_
    rintro _ ⟨verdicts, hall, rfl⟩ hviolations
    exact ⟨items, Option.some.inj hv, certifies_of_forall₂ hall hviolations⟩

/-! ## Checks -/

section

variable {σ : Type} {evaluator : Evaluator (StateM σ)} {path : String}

theorem runChecks_cons_accept_iff {c : Check} {rest : List Check} {value w : Option Json}
    {s s₂ : σ} :
    (runChecks (c :: rest) path none value).resultFrom evaluator s = (.ok ⟨w, []⟩, s₂) ↔
      ∃ verdict s₁,
        (c.predicate.run ⟨c.kind, c.message, path⟩ value).resultFrom evaluator s =
          (.ok verdict, s₁) ∧
        verdict.violations = [] ∧
        (runChecks rest path none verdict.value).resultFrom evaluator s₁ = (.ok ⟨w, []⟩, s₂) := by
  obtain ⟨kind, position, predicate, metadata, message⟩ := c
  simp only [runChecks, reduceCtorEq, ↓reduceIte, resultFrom_bind_eq_ok]
  refine exists_congr fun verdict => exists_congr fun s₁ => and_congr_right fun hrun => ?_
  have hp := (always_passed_run predicate _ value).of_resultFrom hrun
  constructor
  · rintro ⟨report, s₃, hrest, hpure⟩
    obtain ⟨⟨rfl, hv⟩, rfl⟩ : (report.value = w ∧ verdict.violations ++ report.violations = []) ∧
        s₃ = s₂ := by simpa using hpure
    obtain ⟨hv, hr⟩ := List.append_eq_nil_iff.mp hv
    rw [hv] at hp
    refine ⟨hv, ?_⟩
    rw [← hr]
    simpa [hp] using hrest
  · rintro ⟨hv, hrest⟩
    rw [hv] at hp ⊢
    exact ⟨_, s₂, by simpa [hp] using hrest, rfl⟩

/-- Checks that accept a value, one after another: those that come first accept it, and those that
follow accept what the first ones left of it. -/
theorem runChecks_append_accept_iff {xs ys : List Check} {value w : Option Json} {s s₂ : σ} :
    (runChecks (xs ++ ys) path none value).resultFrom evaluator s = (.ok ⟨w, []⟩, s₂) ↔
      ∃ u s₁, (runChecks xs path none value).resultFrom evaluator s = (.ok ⟨u, []⟩, s₁) ∧
        (runChecks ys path none u).resultFrom evaluator s₁ = (.ok ⟨w, []⟩, s₂) := by
  induction xs generalizing value s with
  | nil =>
    constructor
    · exact fun h => ⟨value, s, rfl, h⟩
    · rintro ⟨_, _, ⟨⟩, h⟩
      exact h
  | cons x xs ih =>
    simp only [List.cons_append, runChecks_cons_accept_iff, ih]
    constructor
    · rintro ⟨verdict, s₀, hx, hv, u, s₁, hxs, hys⟩
      exact ⟨u, s₁, ⟨verdict, s₀, hx, hv, hxs⟩, hys⟩
    · rintro ⟨u, s₁, ⟨verdict, s₀, hx, hv, hxs⟩, hys⟩
      exact ⟨verdict, s₀, hx, hv, u, s₁, hxs, hys⟩

/-- Each check passed on what the checks before it left of the value. -/
theorem certifies_of_accept {before after : List Check} {c : Check} {v : Json} {w : Option Json}
    {s s₂ : σ}
    (h : (runChecks (before ++ c :: after) path none (some v)).resultFrom evaluator s =
      (.ok ⟨w, []⟩, s₂)) (hb : ∀ b ∈ before, b.predicate.keepsOutline = true) :
    ∃ u s₁, (runChecks before path none (some v)).resultFrom evaluator s =
        (.ok ⟨some u, []⟩, s₁) ∧
      u.outline = v.outline ∧ c.predicate.Certifies u := by
  obtain ⟨u, s₁, hbefore, hrest⟩ := runChecks_append_accept_iff.mp h
  obtain ⟨verdict, _, hc, hv, _⟩ := runChecks_cons_accept_iff.mp hrest
  have hu := (always_outline_runChecks hb path none (some v)).of_resultFrom hbefore
  obtain ⟨u, rfl, hout⟩ := Option.map_eq_some_iff.mp hu
  exact ⟨u, s₁, hbefore, hout, (always_certifies_run c.predicate _ u).of_resultFrom hc hv⟩

end

/-! ## Rules -/

theorem keepsFlat_of_uses {r : Rule} {q : Predicate} (hd : r.kind ≠ .date) (h : r.Uses q) :
    q.keepsFlat = true := by
  cases q with
  | coerceDate => exact absurd (h.coercion rfl) hd
  | each inner => cases h.flat
  | _ => rfl

/-- Listed values are documented by the rule that tests for them. -/
theorem Rule.checks_eq_of_values {r : Rule} {position : Nat} {context : Context} {c : Check}
    (he : context.each = false) (hc : c ∈ r.checks position context) {values : List Json}
    (hv : c.metadata.values = some values) :
    r.kind = .enum ∧ r.checks position context = [c] ∧ c.predicate = .test (.oneOf values) := by
  rw [checks, he] at hc ⊢
  cases r with
  | enum e =>
    obtain rfl := List.mem_singleton.mp hc
    obtain rfl := Option.some.inj hv
    exact ⟨rfl, rfl, rfl⟩
  | date => obtain rfl | rfl := List.mem_pair.mp hc <;> cases hv
  | array element =>
    obtain rfl | rfl := List.mem_pair.mp hc
    · cases hv
    · cases element <;> cases hv
  | _ =>
    obtain rfl := List.mem_singleton.mp hc
    cases hv

theorem Metadata.isKey_values : IsKey Metadata.values := ⟨rfl, fun _ _ => rfl⟩

/-! ## Fields -/

section

variable {rules : String} {context : Context} {f : Field} {σ : Type}
  {evaluator : Evaluator (StateM σ)} {path : String} {s s₂ : σ} {v : Json}

theorem exists_rule_of_compile (hf : compile rules context = .ok f)
    (hd : ∀ t ∈ Token.ofString rules, t.name ≠ "date") {c : Check} (hc : c ∈ f.checks) :
    ∃ t r position, Rule.ofToken t context = .ok r ∧ r.kind ≠ .date ∧
      c ∈ r.checks position context := by
  obtain ⟨before, t, after, r, _, _, htokens, _, hr, hcr, _⟩ :=
    exists_token_of_mem (compile_ok hf) hc
  have ht : t ∈ Token.ofString rules := by simp [htokens]
  refine ⟨t, r, _, hr, fun hk => hd t ht ?_, hcr⟩
  rw [← Rule.kind_of_ofToken hr, hk]
  rfl

theorem keepsOutline_of_compile (hf : compile rules context = .ok f)
    (hd : ∀ t ∈ Token.ofString rules, t.name ≠ "date") {c : Check} (hc : c ∈ f.checks) :
    c.predicate.keepsOutline = true := by
  obtain ⟨_, _, _, _, hk, hcr⟩ := exists_rule_of_compile hf hd hc
  obtain ⟨q, hq, huses⟩ := Rule.exists_uses_of_mem_checks hcr
  have hflat := keepsFlat_of_uses hk huses
  rcases hq with hq | hq
  · rw [hq]
    cases q with
    | each inner => cases huses.flat
    | _ => exact hflat
  · rw [hq]
    exact hflat

theorem admits_of_accept (hf : compile rules context = .ok f)
    (hd : ∀ t ∈ Token.ofString rules, t.name ≠ "date") (he : context.each = false)
    (hv : v ≠ .null) {w : Option Json}
    (h : (runChecks f.checks path none (some v)).resultFrom evaluator s = (.ok ⟨w, []⟩, s₂)) :
    f.metadata.Admits context v := by
  rw [eq_ofChecks_of_compile hf]
  refine Metadata.Admits.overlayAll (.empty context v) fun m hm => ?_
  obtain ⟨c, hc, rfl⟩ := List.mem_map.mp hm
  obtain ⟨before, after, hsplit⟩ := List.append_of_mem hc
  rw [hsplit] at h
  have hb : ∀ b ∈ before, b.predicate.keepsOutline = true := fun b hb =>
    keepsOutline_of_compile hf hd (by simp [hsplit, hb])
  obtain ⟨u, _, _, hu, hcert⟩ := certifies_of_accept h hb
  have hnull : u ≠ .null := by
    rintro rfl
    cases v <;> first | exact hv rfl | cases hu
  obtain ⟨_, _, _, hr, hk, hcr⟩ := exists_rule_of_compile hf hd hc
  exact (Rule.admits_of_mem_checks hr hk he hcr hnull hcert).congr_outline hu

theorem listed_of_accept (hf : compile rules context = .ok f)
    (hd : ∀ t ∈ Token.ofString rules, t.name ≠ "date") (he : context.each = false)
    {w : Option Json}
    (h : (runChecks f.checks path none (some v)).resultFrom evaluator s = (.ok ⟨w, []⟩, s₂))
    {values : List Json} (hvalues : f.metadata.values = some values) :
    ∃ (before : List Token) (t : Token) (after : List Token) (checks : List Check) (u : Json)
      (s₁ : σ), Token.ofString rules = before ++ t :: after ∧
      t.name = "enum" ∧ compileTokens context 0 before = .ok checks ∧
      (runChecks checks path none (some v)).resultFrom evaluator s = (.ok ⟨some u, []⟩, s₁) ∧
      (∃ w ∈ values, (w == u) = true) ∧ u.outline = v.outline ∧
      ((∀ c ∈ checks, c.predicate.coerces = false) → u = v) := by
  obtain ⟨c, hc, hcv⟩ := exists_check_of_key hf Metadata.isKey_values hvalues
  obtain ⟨before, t, after, r, checks, rest, htokens, hbefore, hr, hcr, hsplit⟩ :=
    exists_token_of_mem (compile_ok hf) hc
  obtain ⟨hk, hone, hp⟩ := Rule.checks_eq_of_values he hcr hcv
  rw [hone, List.append_assoc, List.singleton_append] at hsplit
  rw [hsplit] at h
  have hb : ∀ b ∈ checks, b.predicate.keepsOutline = true := fun b hb =>
    keepsOutline_of_compile hf hd (by simp [hsplit, hb])
  obtain ⟨u, s₁, hrun, hu, hcert⟩ := certifies_of_accept h hb
  have ht : t.name = "enum" := by
    rw [← Rule.kind_of_ofToken hr, hk]
    rfl
  have hmem : ∃ w ∈ values, (w == u) = true := by
    rw [hp] at hcert
    exact List.any_eq_true.mp hcert
  refine ⟨before, t, after, checks, u, s₁, htokens, ht, hbefore, hrun, hmem, hu, fun hplain => ?_⟩
  have hsame := (always_value_runChecks checks (coercesChecks_eq_false_iff.mpr hplain) path none
    (some v)).of_resultFrom hrun
  exact Option.some.inj hsame

/-- **Accepted values.** Without a `date` rule, and without rules that apply to elements instead of
the value, a value that is there and of which no violation is reported is admitted by the metadata
of the field. If the metadata lists values, one of them is what the rules before some `enum` rule
left of the value. That is the value but for what objects hold, and the value itself if none of
those rules has a nested schema that coerces dates. -/
theorem accepted_admits (hf : compile rules context = .ok f)
    (hd : ∀ t ∈ Token.ofString rules, t.name ≠ "date") (he : context.each = false)
    (hv : v ≠ .null) {r : FieldReport}
    (h : (f.validate path (some v)).resultFrom evaluator s = (.ok r, s₂))
    (hr : r.violations = []) :
    f.metadata.Admits context v ∧
      ∀ values, f.metadata.values = some values →
        ∃ before t after checks u s₁, Token.ofString rules = before ++ t :: after ∧
          t.name = "enum" ∧ compileTokens context 0 before = .ok checks ∧
          (runChecks checks path none (some v)).resultFrom evaluator s = (.ok ⟨some u, []⟩, s₁) ∧
          (∃ w ∈ values, (w == u) = true) ∧ u.outline = v.outline ∧
          ((∀ c ∈ checks, c.predicate.coerces = false) → u = v) := by
  have hpresent : isAbsent (some v) = false := by
    cases v <;> first | exact absurd rfl hv | rfl
  obtain ⟨w, violations⟩ := r
  obtain rfl : violations = [] := hr
  rw [Field.validate_eq_runChecks (.inl hpresent)] at h
  exact ⟨admits_of_accept hf hd he hv h, fun _ => listed_of_accept hf hd he h⟩

end

/-- The states of an order. -/
def Context.states : Context :=
  { empty with enumeration := some ⟨"State", [.string "open", .string "done"]⟩ }

/-- A string that is one of two. -/
theorem accepted_admits_state :
    ∃ f, compile "string|enum" Context.states = .ok f ∧ f.metadata.type = some "string" ∧
      f.metadata.Admits Context.states (.string "done") ∧
      ∃ w ∈ [Json.string "open", .string "done"], (w == Json.string "done") = true := by
  obtain ⟨hadmits, hlisted⟩ :=
    @accepted_admits "string|enum" Context.states _ Nat (fun _ _ n => (.ok true, n + 1)) "state" 0 0
      (.string "done") rfl (by decide) rfl nofun ⟨some (.string "done"), []⟩ rfl rfl
  obtain ⟨_, _, _, _, u, _, _, _, _, _, hlisted, houtline, _⟩ := hlisted _ rfl
  obtain rfl | ⟨_, _, _, h⟩ | ⟨_, _, _, h, _⟩ := Json.outline_cases houtline
  · exact ⟨_, rfl, rfl, hadmits, hlisted⟩
  · cases h
  · cases h

/-- Days that are listed as dates are written. -/
def Context.days (schema : Schema) : Context :=
  { empty with
    nested := some schema,
    enumeration := some ⟨"Days", [.object [("day", .string "1970-01-01T00:00:00.000Z")]]⟩ }

/-- An object that is not among the listed values, and is accepted since its date is coerced. -/
theorem accepted_unlisted :
    ∃ schema f r values, (Schema.empty "Event").declare "day" "date" Context.empty = .ok schema ∧
      compile "object|enum" (Context.days schema) = .ok f ∧
      (∀ t ∈ Token.ofString "object|enum", t.name ≠ "date") ∧
      (f.validate "value" (some (.object [("day", .ofNat 0)]))).result noStore = .ok r ∧
      r.violations = [] ∧ f.metadata.values = some values ∧
      values.any (fun w => w == .object [("day", .ofNat 0)]) = false :=
  ⟨_, _, _, _, rfl, rfl, by decide, rfl, rfl, rfl, rfl⟩

end Rulebook
