import Rulebook.Proofs.Rule.Splitting
import Rulebook.Proofs.Validation.Composition
import Rulebook.Proofs.Validation.Questions

/-!
# The rule `optional`

The rule `optional` says nothing about values that are there. Wherever its token is put into a rule
string, it takes a position of its own, and the checks behind it are moved on by one; what a field
makes of a present value, and what it asks about it, stays the same. Of an absent value nothing is
checked any more, neither by the tokens before it nor by those after it.

* `compileTokens_insert`: the checks of tokens with an `optional` among them;
* `runChecks_cons_optional`, `runChecks_insert`: what running them comes to;
* `Token.ofString_join_insert`: the tokens of the new rule string;
* `optional_is_neutral`: rule strings.
-/

namespace Rulebook

open Inquiry

/-! ## Compiling -/

theorem Rule.ofToken_optional (arg : Option String) (context : Context) :
    ofToken ⟨"optional", arg⟩ context = .ok optional := rfl

theorem compileTokens_append_ok {context : Context} {position : Nat} {xs ys : List Token}
    {checks : List Check} (h : compileTokens context position (xs ++ ys) = .ok checks) :
    ∃ before after, compileTokens context position xs = .ok before ∧
      compileTokens context (position + xs.length) ys = .ok after ∧ checks = before ++ after := by
  rw [compileTokens_append] at h
  cases hxs : compileTokens context position xs with
  | error e => simp [hxs] at h
  | ok before =>
    cases hys : compileTokens context (position + xs.length) ys with
    | error e => simp [hxs, hys] at h
    | ok after =>
      simp only [hxs, hys, Except.ok.injEq] at h
      exact ⟨before, after, rfl, rfl, h.symm⟩

/-- A token `optional` adds its check, and moves those behind it on by one. -/
theorem compileTokens_insert {context : Context} {position : Nat} {xs ys : List Token}
    {before after : List Check} (hxs : compileTokens context position xs = .ok before)
    (hys : compileTokens context (position + xs.length) ys = .ok after) (arg : Option String) :
    compileTokens context position (xs ++ ⟨"optional", arg⟩ :: ys) =
      .ok (before ++ (Rule.optional.checks (position + xs.length) context ++
        after.map (Check.shift 1))) := by
  rw [compileTokens_append, hxs]
  simp only [compileTokens, Rule.ofToken_optional, compileTokens_shift, hys, Except.map]

theorem compile_of_tokens {rules : String} {context : Context} {checks : List Check}
    (h : compileTokens context 0 (Token.ofString rules) = .ok checks) :
    compile rules context = .ok (.ofChecks checks) := by
  rw [compile, h]
  rfl

/-! ## Running -/

/-- A check `optional` holds, so it may be left out. -/
theorem runChecks_cons_optional {c : Check} (h : c.predicate = .optional) (rest : List Check)
    (path : String) (failed : Option Nat) (value : Option Json) :
    runChecks (c :: rest) path failed value = runChecks rest path failed value := by
  obtain ⟨kind, position, predicate, metadata, message⟩ := c
  obtain rfl : predicate = .optional := h
  simp only [runChecks]
  split
  · rfl
  · simp [Predicate.run, Verdict.accept]

/-- Checks with a check `optional` among them, behind which all are moved on by one. -/
theorem runChecks_insert {before after : List Check} {c : Check} (hc : c.predicate = .optional)
    (hbefore : ∀ x ∈ before, x.position < c.position)
    (hafter : ∀ y ∈ after, c.position ≤ y.position) (path : String) (value : Option Json) :
    runChecks (before ++ c :: after.map (Check.shift 1)) path none value =
      runChecks (before ++ after) path none value := by
  have hsame : ∀ x ∈ before, ∀ y ∈ after, x.position ≠ y.position := by
    intro x hx y hy
    have hxc := hbefore x hx
    have hyc := hafter y hy
    omega
  have hmoved : ∀ x ∈ before, ∀ y ∈ c :: after.map (Check.shift 1), x.position ≠ y.position := by
    intro x hx y hy
    have hxc := hbefore x hx
    rcases List.mem_cons.mp hy with rfl | hy
    · omega
    · obtain ⟨z, hz, rfl⟩ := List.mem_map.mp hy
      have hzc := hafter z hz
      simp only [Check.shift]
      omega
  rw [runChecks_append hmoved (by simp), runChecks_append hsame (by simp)]
  refine congrArg _ (funext fun first => ?_)
  have hshift := runChecks_shift 1 after path none first.value
  rw [Option.map_none] at hshift
  rw [runChecks_cons_optional hc, hshift]

/-- Tokens compile with an `optional` among them if they do without it, and to checks that run to
the same. -/
theorem exists_compileTokens_insert {context : Context} {xs ys : List Token} {checks : List Check}
    (h : compileTokens context 0 (xs ++ ys) = .ok checks) (arg : Option String) :
    ∃ more, compileTokens context 0 (xs ++ ⟨"optional", arg⟩ :: ys) = .ok more ∧
      more.any (fun c => c.predicate.isOptional) = true ∧
      ∀ path value, runChecks more path none value = runChecks checks path none value := by
  obtain ⟨before, after, hbefore, hafter, rfl⟩ := compileTokens_append_ok h
  have hmore := compileTokens_insert hbefore hafter arg
  refine ⟨_, hmore, ?_, fun path value => ?_⟩
  · rw [any_isOptional_compileTokens hmore]
    simp
  · refine runChecks_insert rfl (fun x hx => ?_) (fun y hy => ?_) path value
    · have hxp := position_compileTokens hbefore hx
      exact hxp.2
    · have hyp := position_compileTokens hafter hy
      exact hyp.1

/-! ## Rule strings -/

theorem Token.ofString_join_insert {rules : String} {xs ys : List Token}
    (hrules : ofString rules = xs ++ ys) {arg : Option String}
    (harg : ∀ text, arg = some text → '|' ∉ text.toList) :
    ofString (join (xs ++ ⟨"optional", arg⟩ :: ys)) = xs ++ ⟨"optional", arg⟩ :: ys := by
  have hbar : '|' ∉ "optional".toList := by decide
  have hcolon : ':' ∉ "optional".toList := by decide
  have hwell : ∀ t ∈ xs ++ ⟨"optional", arg⟩ :: ys, t.WellFormed := by
    intro t ht
    rcases List.mem_append.mp ht with ht | ht
    · exact wellFormed_of_mem (hrules ▸ List.mem_append_left _ ht)
    · rcases List.mem_cons.mp ht with rfl | ht
      · exact ⟨hbar, hcolon, harg⟩
      · exact wellFormed_of_mem (hrules ▸ List.mem_append_right _ ht)
  have hnamed : xs ++ ⟨"optional", arg⟩ :: ys ≠ [⟨"", none⟩] := by
    intro h
    have hmem : (⟨"optional", arg⟩ : Token) ∈ [(⟨"", none⟩ : Token)] := h ▸ by simp
    have hname : "optional" = "" := congrArg name (List.mem_singleton.mp hmem)
    exact absurd hname (by decide)
  exact ofString_join_of_wellFormed (by simp) hnamed hwell

/-- **Neutrality.** A token `optional`, with or without an argument, may be put into a rule string
that compiles, at any place. The new rule string has the same tokens besides, and compiles. What it
makes of a value that is present and not null is what the old one makes of it, with the same
questions in the same order, whoever answers them. A value that is absent or null it lets pass
unchanged without a violation and without a question. -/
theorem optional_is_neutral {rules : String} {context : Context} {f : Field}
    (hf : compile rules context = .ok f) {xs ys : List Token}
    (hrules : Token.ofString rules = xs ++ ys) {arg : Option String}
    (harg : ∀ text, arg = some text → '|' ∉ text.toList) :
    Token.ofString (Token.join (xs ++ ⟨"optional", arg⟩ :: ys)) = xs ++ ⟨"optional", arg⟩ :: ys ∧
    ∃ g, compile (Token.join (xs ++ ⟨"optional", arg⟩ :: ys)) context = .ok g ∧
      (∀ path value, isAbsent value = false → g.validate path value = f.validate path value ∧
        ∀ (σ : Type) (evaluator : Evaluator (StateM σ)) (s : σ),
          (g.validate path value).resultFrom (recording evaluator) ([], s) =
            (f.validate path value).resultFrom (recording evaluator) ([], s)) ∧
      ∀ path value, isAbsent value = true → ∀ (σ : Type) (evaluator : Evaluator (StateM σ)) (s : σ),
        (g.validate path value).resultFrom (recording evaluator) ([], s) =
          (.ok ⟨value, []⟩, [], s) := by
  have htokens := Token.ofString_join_insert hrules harg
  have hchecks := compile_ok hf
  rw [hrules] at hchecks
  obtain ⟨more, hmore, hoptional, hrun⟩ := exists_compileTokens_insert hchecks arg
  rw [← htokens] at hmore
  refine ⟨htokens, .ofChecks more, compile_of_tokens hmore, fun path value hvalue => ?_,
    fun path value hvalue σ evaluator s => ?_⟩
  · have hsame : (Field.ofChecks more).validate path value = f.validate path value := by
      rw [Field.validate_eq_runChecks (.inl hvalue), Field.validate_eq_runChecks (.inl hvalue)]
      exact hrun path value
    exact ⟨hsame, fun σ evaluator s => by rw [hsame]⟩
  · have hskipped := @Field.validate_of_absent (.ofChecks more) path value hoptional hvalue
    rw [hskipped]
    rfl

/-- Whether a day is known: the store is asked about the day as coerced, also with an `optional`
between the two tokens, and nothing is asked if there is no day. -/
theorem optional_is_neutral_day :
    ∃ f g, compile "date|exist:day" { Context.empty with entity := some "Event" } = .ok f ∧
      compile "date|optional|exist:day" { Context.empty with entity := some "Event" } = .ok g ∧
      g.validate "day" (some (.string "2024-02-29")) =
        f.validate "day" (some (.string "2024-02-29")) ∧
      (f.validate "day" (some (.string "2024-02-29"))).first? =
        some (⟨"Event", "day", .string "2024-02-29T00:00:00.000Z", .exist⟩, "day") ∧
      (g.validate "day" none).resultFrom (recording closing) ([], 0) = (.ok ⟨none, []⟩, [], 0) := by
  obtain ⟨f, hf⟩ : ∃ f, compile "date|exist:day"
      { Context.empty with entity := some "Event" } = .ok f := ⟨_, rfl⟩
  obtain ⟨_, g, hg, hpresent, habsent⟩ := @optional_is_neutral "date|exist:day"
    { Context.empty with entity := some "Event" } f hf [⟨"date", none⟩] [⟨"exist", some "day"⟩] rfl
    none nofun
  have hjoin : Token.join [⟨"date", none⟩, ⟨"optional", none⟩, ⟨"exist", some "day"⟩] =
      "date|optional|exist:day" := rfl
  refine ⟨f, g, hf, hjoin ▸ hg, (hpresent "day" _ rfl).1, ?_, habsent "day" none rfl Nat closing 0⟩
  obtain rfl := Except.ok.inj hf
  rfl

end Rulebook
