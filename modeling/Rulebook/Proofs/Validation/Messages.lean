import Rulebook.Proofs.Validation.Coercions
import Rulebook.Proofs.Validation.Direct
import Rulebook.Proofs.Validation.ViolationPlaces

/-!
# The message asked for

A context can ask for a message in place of the default ones. What is reported of the value of a
field itself has this message, whichever rule reports it; elements of arrays and members of objects
have longer paths. There is one exception: where rules apply to the elements of an array, the rule
`date` coerces the elements before it looks at them, on behalf of a check without the message. So
that it is no array is said in the default words there, and the check with the message is skipped.

* `always_own_run`, `always_own_each`: what predicates report of the value itself;
* `Rule.OwnReport`, `always_own_checks`: the checks of one rule;
* `always_own_compileTokens`: those of tokens;
* `own_violations_have_message`: fields.
-/

namespace Rulebook

open Inquiry
open Json (shape)

/-! ## Predicates -/

/-- A part of a value has a longer path than the value. -/
theorem ne_path_of_within {path more : String} {runs : Json.Place → Predicate → Kind → Prop}
    {v : Violation} (h : v.Within (path ++ more) runs) (hmore : more ≠ "") : v.path ≠ path := by
  obtain ⟨place, q, hpath, _⟩ := h
  intro hsame
  have hlength := congrArg String.length (hpath.symm.trans hsame)
  rw [String.length_append, String.length_append] at hlength
  have hpos : 0 < more.length := Nat.pos_of_ne_zero fun h => hmore (String.length_eq_zero_iff.mp h)
  omega

/-- What is said of a value whose elements are to be checked. -/
def noArrayText (path : String) : String := "each value in " ++ path ++ " requires an array"

/-- A predicate on elements reports a value itself only if it is no array. -/
theorem always_own_each (inner : Predicate) (site : Site) (value : Option Json) :
    ((Predicate.each inner).run site value).Always fun r =>
      ∀ v ∈ r.violations, v.path = site.path →
        (∀ items, value ≠ some (.array items)) ∧
          v = ⟨site.path, site.kind, site.message.getD (noArrayText site.path)⟩ := by
  by_cases harray : ∃ items, value = some (.array items)
  · obtain ⟨items, rfl⟩ := harray
    have hitems := always_within_runItems
      (fun s x => always_within_run inner s (some x)) site 0 items
    refine hitems.bind fun r hr => always_pure fun v hv hpath => ?_
    obtain ⟨index, x, _, hw⟩ := hr.2 v hv
    have hlonger : v.Within (site.path ++ ("[" ++ toString (0 + index) ++ "]"))
        (inner.RunsAt site.kind (some x)) := by
      simpa only [Site.item, String.append_assoc] using hw
    exact absurd hpath (ne_path_of_within hlonger (by simp))
  · have hnone := not_exists.mp harray
    rw [(settles_each_of_not_array inner site hnone).run]
    refine always_pure fun v hv _ => ⟨hnone, ?_⟩
    exact List.mem_singleton.mp hv

/-- A predicate reports a value itself on behalf of its rule, with the message it is given. -/
theorem always_own_run (p : Predicate) (site : Site) (value : Option Json) :
    (p.run site value).Always fun r =>
      ∀ v ∈ r.violations, v.path = site.path →
        ∃ text, v = ⟨site.path, site.kind, site.message.getD text⟩ := by
  have hreject (text : String) : ∀ v ∈ (site.reject value text).violations, v.path = site.path →
      ∃ text, v = ⟨site.path, site.kind, site.message.getD text⟩ :=
    fun v hv _ => ⟨text, List.mem_singleton.mp hv⟩
  cases p with
  | optional => exact always_pure nofun
  | coerceDate => exact always_pure nofun
  | test t =>
    refine always_pure ?_
    split
    · exact nofun
    · exact hreject _
  | lookup l =>
    intro answer
    cases answer with
    | true => exact always_pure nofun
    | false => exact always_pure (hreject _)
  | nested schema =>
    refine always_run_nested (fun _ => nofun) (fun members _ => ?_) hreject
    refine (always_within_runFields schema.fields (site.path ++ ".") members).mono ?_
    intro r hr v hv hpath
    obtain ⟨name, f, _, c, _, hw⟩ := hr.2 v hv
    rw [String.append_assoc] at hw
    exact absurd hpath (ne_path_of_within hw (by simp))
  | each inner =>
    refine (always_own_each inner site value).mono fun r hr v hv hpath => ?_
    exact ⟨_, (hr v hv hpath).2⟩

/-! ## Checks -/

/-- The message of what is reported of the value of a field itself, where `m` is asked for. -/
def Context.ownMessage (context : Context) (m path : String) (kind : Kind) : String :=
  if context.each = true ∧ kind = .date then noArrayText path else m

/-- What checks report of the value of a field itself is on behalf of one rule and has one message;
where rules apply to the elements of an array, it is reported of what is no array. -/
def OwnReport (context : Context) (path : String) (value : Option Json) (kind : Kind)
    (message : String) (report : FieldReport) : Prop :=
  ∀ v ∈ report.violations, v.path = path → v = ⟨path, kind, message⟩ ∧
    (context.each = true → ∀ items, value ≠ some (.array items))

theorem runChecks_singleton (c : Check) (path : String) (value : Option Json) :
    runChecks [c] path none value = (do
      let verdict ← c.predicate.run ⟨c.kind, c.message, path⟩ value
      pure ⟨verdict.value, verdict.violations⟩) := by
  obtain ⟨kind, position, predicate, metadata, message⟩ := c
  simp [runChecks]

/-- The own check of a rule has the message asked for. -/
theorem always_own_place {context : Context} {m : String} (hm : context.message = some m)
    (kind : Kind) (position : Nat) (q : Predicate) (metadata : Metadata) (path : String)
    (value : Option Json) :
    (runChecks [(Rule.Place.mk kind position context.each context.message context.example?).own q
      metadata] path none value).Always (OwnReport context path value kind m) := by
  rw [runChecks_singleton]
  cases heach : context.each with
  | false =>
    refine (always_own_run q ⟨kind, context.message, path⟩ value).bind fun r hr => ?_
    refine always_pure fun v hv hpath => ?_
    obtain ⟨text, hv⟩ := hr v hv hpath
    rw [hm] at hv
    exact ⟨hv, fun h => absurd (heach.symm.trans h) (by decide)⟩
  | true =>
    refine (always_own_each q ⟨kind, context.message, path⟩ value).bind fun r hr => ?_
    refine always_pure fun v hv hpath => ?_
    obtain ⟨hnone, hv⟩ := hr v hv hpath
    rw [hm] at hv
    exact ⟨hv, fun _ => hnone⟩

/-- A check that comes first in its token and is not held skips the one behind it. -/
theorem runChecks_pair {c d : Check} (hp : d.position = c.position) (path : String)
    (value : Option Json) :
    runChecks [c, d] path none value = (do
      let first ← c.predicate.run ⟨c.kind, c.message, path⟩ value
      if first.passed then
        let second ← d.predicate.run ⟨d.kind, d.message, path⟩ first.value
        pure ⟨second.value, first.violations ++ second.violations⟩
      else pure ⟨first.value, first.violations⟩) := by
  obtain ⟨kind, position, predicate, metadata, message⟩ := c
  obtain ⟨kind', position', predicate', metadata', message'⟩ := d
  obtain rfl : position' = position := hp
  simp only [runChecks, reduceCtorEq, ↓reduceIte, pure_bind, List.append_nil]
  refine congrArg _ (funext fun first => ?_)
  cases first.passed <;> simp

/-! ## Rules -/

section

variable {context : Context} {m : String} {position : Nat} {path : String} {value : Option Json}

theorem not_array_of_shape {v w : Option Json} (h : v.map shape = w.map shape)
    (hv : ∀ items, v ≠ some (.array items)) : ∀ items, w ≠ some (.array items) := by
  rintro items rfl
  obtain ⟨others, hothers, _⟩ := Json.exists_array_of_shape h.symm
  exact hv others hothers

/-- The rule `date` coerces elements first, so it is that check which reports what is no array, in
the default words. -/
theorem runChecks_date_of_not_array (heach : context.each = true)
    (h : ∀ items, value ≠ some (.array items)) :
    runChecks (Rule.date.checks position context) path none value =
      pure ⟨value, [⟨path, .date, noArrayText path⟩]⟩ := by
  have hfirst : (Predicate.each .coerceDate).run ⟨.date, none, path⟩ value = _ :=
    (settles_each_of_not_array .coerceDate ⟨.date, none, path⟩ h).run
  simp only [Rule.checks, Rule.checksAt, Rule.kind, heach, ↓reduceIte]
  rw [runChecks_pair (by rfl)]
  simp only [Rule.Place.plain, hfirst, pure_bind, Site.reject, Option.getD_none, noArrayText,
    Bool.false_eq_true, ↓reduceIte]

theorem always_own_date (hm : context.message = some m) :
    (runChecks (Rule.date.checks position context) path none value).Always
      (OwnReport context path value .date (context.ownMessage m path .date)) := by
  by_cases heach : context.each = true
  · by_cases harray : ∃ items, value = some (.array items)
    · -- neither check reports an array itself
      obtain ⟨items, rfl⟩ := harray
      simp only [Rule.checks, Rule.checksAt, heach, ↓reduceIte]
      rw [runChecks_pair (by rfl)]
      refine ((always_within_run _ _ _).and (always_own_each _ _ _)).bind fun first hfirst => ?_
      obtain ⟨⟨hshape, _⟩, hown⟩ := hfirst
      have hreported : ∀ v ∈ first.violations, v.path ≠ path := fun v hv hpath =>
        (hown v hv hpath).1 items rfl
      split
      · refine (always_own_each _ _ first.value).bind fun second hsecond => always_pure ?_
        intro v hv hpath
        rcases List.mem_append.mp hv with hv | hv
        · exact absurd hpath (hreported v hv)
        · have hnone := not_array_of_shape hshape (hsecond v hv hpath).1
          exact absurd rfl (hnone items)
      · exact always_pure fun v hv hpath => absurd hpath (hreported v hv)
    · have hnone := not_exists.mp harray
      rw [runChecks_date_of_not_array heach hnone]
      refine always_pure fun v hv _ => ⟨?_, fun _ => hnone⟩
      rw [List.mem_singleton.mp hv, Context.ownMessage, if_pos ⟨heach, rfl⟩]
  · have hmessage : context.ownMessage m path .date = m := if_neg fun h => heach h.1
    simp only [Rule.checks, Rule.checksAt, heach, Bool.false_eq_true, ↓reduceIte]
    rw [runChecks_pair (by rfl), hmessage]
    simp only [Rule.Place.plain, Predicate.run, pure_bind, Verdict.accept, ↓reduceIte]
    refine (always_own_run _ _ _).bind fun second hsecond => always_pure fun v hv hpath => ?_
    obtain ⟨text, hv⟩ := hsecond v hv hpath
    simp only [Rule.Place.own, hm] at hv
    exact ⟨hv, fun h => absurd h heach⟩

/-- An array is told from other values before its elements are looked at, with the message asked
for. -/
theorem always_own_array (hm : context.message = some m) (element : Element) :
    (runChecks ((Rule.array element).checks position context) path none value).Always
      (OwnReport context path value .array m) := by
  simp only [Rule.checks, Rule.checksAt, Rule.kind]
  rw [runChecks_pair (by rfl)]
  simp only [Predicate.run_test, pure_bind]
  by_cases hvalue : Test.sequence.holds value = true
  · obtain ⟨items, rfl⟩ : ∃ items, value = some (.array items) := by
      rcases value with _ | v
      · cases hvalue
      · cases v with
        | array items => exact ⟨items, rfl⟩
        | _ => cases hvalue
    simp only [hvalue, ↓reduceIte, Verdict.accept, List.nil_append]
    refine (always_own_each _ _ _).bind fun second hsecond => always_pure fun v hv hpath => ?_
    exact absurd rfl ((hsecond v hv hpath).1 items)
  · have hnone : ∀ items, value ≠ some (.array items) := fun items h => hvalue (h ▸ rfl)
    simp only [hvalue, Bool.false_eq_true, ↓reduceIte, Site.reject, hm, Option.getD_some]
    exact always_pure fun v hv _ => ⟨List.mem_singleton.mp hv, fun _ => hnone⟩

/-- Whatever the rule, what it reports of the value of its field itself has the message asked for,
but for a rule `date` about elements. -/
theorem always_own_checks (hm : context.message = some m) (r : Rule) :
    (runChecks (r.checks position context) path none value).Always
      (OwnReport context path value r.kind (context.ownMessage m path r.kind)) := by
  have hmessage (hr : r.kind ≠ .date) : context.ownMessage m path r.kind = m :=
    if_neg fun h => hr h.2
  cases r with
  | date => exact always_own_date hm
  | optional =>
    refine Always.mono (P := fun report => report.violations = []) ?_ fun report h v hv => ?_
    · exact always_pure rfl
    · rw [h] at hv
      cases hv
  | array element =>
    rw [hmessage nofun]
    exact always_own_array hm element
  | _ =>
    rw [hmessage nofun]
    exact always_own_place hm _ _ _ _ _ _

end

/-! ## Tokens -/

section

variable {context : Context} {m : String} {position : Nat} {tokens : List Token}
  {checks : List Check}

theorem Rule.eq_date_of_ofToken {t : Token} {r : Rule} (hr : Rule.ofToken t context = .ok r)
    (ht : t.name = Kind.date.name) : r = .date := by
  have hkind : Kind.ofName? r.kind.name = Kind.ofName? Kind.date.name :=
    congrArg _ ((Rule.kind_of_ofToken hr).trans ht)
  rw [Kind.ofName?_name, Kind.ofName?_name] at hkind
  cases r with
  | date => rfl
  | _ => cases hkind

/-- Tokens report one after another, and coercions before them leave arrays arrays. -/
theorem always_own_compileTokens (hm : context.message = some m)
    (hc : compileTokens context position tokens = .ok checks) (path : String)
    (value : Option Json) :
    (runChecks checks path none value).Always fun report =>
      ∀ v ∈ report.violations, v.path = path →
        v.message = context.ownMessage m path v.rule ∧ (∃ t ∈ tokens, t.name = v.rule.name) ∧
          (context.each = true → ∀ items, value ≠ some (.array items)) := by
  induction tokens generalizing position checks value with
  | nil =>
    obtain rfl := Except.ok.inj hc
    exact always_pure nofun
  | cons t tokens ih =>
    obtain ⟨r, more, hr, hmore, rfl⟩ := compileTokens_cons_ok hc
    rw [runChecks_append (position_ne_of_compileTokens hmore) (by simp)]
    refine ((always_within_runChecks _ path none value).and
      (always_own_checks hm r)).bind fun first hfirst => ?_
    obtain ⟨⟨hshape, _⟩, hown⟩ := hfirst
    refine (ih hmore first.value).bind fun second hsecond => always_pure fun v hv hpath => ?_
    rcases List.mem_append.mp hv with hv | hv
    · obtain ⟨rfl, hnone⟩ := hown v hv hpath
      exact ⟨rfl, ⟨t, List.mem_cons_self .., (Rule.kind_of_ofToken hr).symm⟩, hnone⟩
    · obtain ⟨hmessage, ⟨u, hu, hname⟩, hnone⟩ := hsecond v hv hpath
      refine ⟨hmessage, ⟨u, List.mem_cons_of_mem _ hu, hname⟩, fun heach => ?_⟩
      exact not_array_of_shape hshape (hnone heach)

/-- A token `date` about elements reports what is no array, whatever tokens are before it. -/
theorem always_mem_of_date (heach : context.each = true)
    (hc : compileTokens context position tokens = .ok checks)
    (ht : ∃ t ∈ tokens, t.name = Kind.date.name) (path : String) {value : Option Json}
    (hvalue : ∀ items, value ≠ some (.array items)) :
    (runChecks checks path none value).Always fun report =>
      ⟨path, .date, noArrayText path⟩ ∈ report.violations := by
  induction tokens generalizing position checks value with
  | nil =>
    obtain ⟨t, ht, _⟩ := ht
    cases ht
  | cons t tokens ih =>
    obtain ⟨r, more, hr, hmore, rfl⟩ := compileTokens_cons_ok hc
    rw [runChecks_append (position_ne_of_compileTokens hmore) (by simp)]
    by_cases hdate : t.name = Kind.date.name
    · obtain rfl := Rule.eq_date_of_ofToken hr hdate
      rw [runChecks_date_of_not_array heach hvalue, pure_bind]
      refine (always_true _).bind fun second _ => always_pure ?_
      exact List.mem_append_left _ (List.mem_singleton_self _)
    · have hlater : ∃ u ∈ tokens, u.name = Kind.date.name := by
        obtain ⟨u, hu, hname⟩ := ht
        rcases List.mem_cons.mp hu with rfl | hu
        · exact absurd hname hdate
        · exact ⟨u, hu, hname⟩
      refine (always_within_runChecks _ path none value).bind fun first hfirst => ?_
      have hfirstValue := not_array_of_shape hfirst.1.symm hvalue
      refine (ih hmore hlater hfirstValue).bind fun second hsecond => always_pure ?_
      exact List.mem_append_right _ hsecond

end

/-! ## Fields -/

/-- **Messages.** Where a context asks for a message, all that is reported of the value of a field
itself has it, unless the rules apply to the elements of an array and the rule is `date`: then it
has the default one of a value that is no array. That is reported if and only if there is a token
`date`, the value is no array, and it is not skipped. -/
theorem own_violations_have_message {rules : String} {context : Context} {f : Field}
    (hf : compile rules context = .ok f) {m : String} (hm : context.message = some m)
    {path : String} {value : Option Json} {σ : Type} {evaluator : Evaluator (StateM σ)} {s s' : σ}
    {r : FieldReport} (h : (f.validate path value).resultFrom evaluator s = (.ok r, s')) :
    (∀ v ∈ r.violations, v.path = path →
      v.message = if context.each = true ∧ v.rule = .date
        then "each value in " ++ path ++ " requires an array" else m) ∧
    (context.each = true →
      ((∃ v ∈ r.violations, v.path = path ∧ v.rule = .date) ↔
        (∃ t ∈ Token.ofString rules, t.name = "date") ∧
          (∀ items, value ≠ some (.array items)) ∧
          (isAbsent value = true → f.isOptional = false))) := by
  by_cases hskip : f.isOptional = true ∧ isAbsent value = true
  · rw [Field.validate_of_absent path hskip.1 hskip.2] at h
    obtain rfl : (⟨value, []⟩ : FieldReport) = r := Except.ok.inj (Prod.mk.inj h).1
    refine ⟨nofun, fun _ => ⟨?_, ?_⟩⟩
    · rintro ⟨v, hv, _⟩
      cases hv
    · rintro ⟨_, _, hrun⟩
      exact absurd hskip.1 (by simp [hrun hskip.2])
  · have hrun : isAbsent value = false ∨ f.isOptional = false := by
      cases hv : isAbsent value <;> simp_all
    rw [Field.validate_eq_runChecks hrun] at h
    have hown := (always_own_compileTokens hm (compile_ok hf) path value).of_resultFrom h
    refine ⟨fun v hv hpath => (hown v hv hpath).1, fun heach => ⟨?_, ?_⟩⟩
    · rintro ⟨v, hv, hpath, hrule⟩
      obtain ⟨_, ⟨t, ht, hname⟩, hnone⟩ := hown v hv hpath
      refine ⟨⟨t, ht, hname.trans (congrArg Kind.name hrule)⟩, hnone heach, fun habsent => ?_⟩
      exact hrun.resolve_left (by simp [habsent])
    · rintro ⟨ht, hnone, _⟩
      exact ⟨_, (always_mem_of_date heach (compile_ok hf) ht path hnone).of_resultFrom h, rfl, rfl⟩

/-- Reminders on several days. -/
def Context.reminders : Context :=
  { Context.empty with each := true, message := some "days, please" }

/-- A day on its own is said to be no array in the default words by `date`, and with the message
asked for by `max`. -/
theorem own_violations_have_message_reminders :
    ∃ f r, compile "date|max:10" Context.reminders = .ok f ∧
      (f.validate "days" (some (.string "2024-02-29"))).resultFrom
        (fun _ _ => pure (.ok true) : Evaluator (StateM Unit)) () = (.ok r, ()) ∧
      r.violations.map (fun v => (v.path, v.rule)) = [("days", .date), ("days", .max)] ∧
      (∀ v ∈ r.violations, v.path = "days" →
        v.message = if Context.reminders.each = true ∧ v.rule = .date
          then "each value in days requires an array" else "days, please") ∧
      ∃ t ∈ Token.ofString "date|max:10", t.name = "date" := by
  obtain ⟨f, hf⟩ : ∃ f, compile "date|max:10" Context.reminders = .ok f := ⟨_, rfl⟩
  obtain rfl := Except.ok.inj hf
  obtain ⟨hmessages, hdate⟩ := @own_violations_have_message _ _ _ hf "days, please" rfl "days"
    (some (.string "2024-02-29")) Unit (fun _ _ => pure (.ok true)) () () _ rfl
  exact ⟨_, _, hf, rfl, rfl, hmessages, ((hdate rfl).mp ⟨_, List.mem_cons_self .., rfl, rfl⟩).1⟩

/-- So not everything that is reported of the value itself has the message. -/
theorem date_elements_miss_message :
    ∃ f r, compile "date" Context.reminders = .ok f ∧
      (f.validate "days" (some (.ofNat 5))).resultFrom
        (fun _ _ => pure (.ok true) : Evaluator (StateM Unit)) () = (.ok r, ()) ∧
      ∃ v ∈ r.violations, v.path = "days" ∧ Context.reminders.message ≠ some v.message :=
  ⟨_, _, rfl, rfl, _, List.mem_cons_self .., rfl, by decide⟩

end Rulebook
