import Mathlib.Data.List.Forall2
import Rulebook.Rule.Compile

/-!
# Rule strings token by token

Compiling takes the tokens one by one. What a token compiles to is its own affair: the tokens around
it move its checks to its position, and no more. So rule strings may be compiled apart and put
together afterwards, the checks in order and the metadata overlaid.

* `exists_rules_of_compileTokens`: tokens compile to the checks of their rules, one rule each;
* `compileTokens_eq_mapM`: tokens, each compiled by itself;
* `compile_homomorphism`: two rule strings with a bar between them.
-/

namespace Rulebook

/-- The checks of each rule by themselves; the first rule stands at that position. -/
def Rule.turns (context : Context) (position : Nat) (rs : List Rule) : List (List Check) :=
  (rs.zipIdx position).map fun p => p.1.checks p.2 context

theorem Rule.turns_cons (context : Context) (position : Nat) (r : Rule) (rs : List Rule) :
    turns context position (r :: rs) =
      r.checks position context :: turns context (position + 1) rs := rfl

theorem Rule.le_position_of_mem_turns {context : Context} {position : Nat} {rs : List Rule}
    {c : Check} (h : c ∈ (turns context position rs).flatten) : position ≤ c.position := by
  obtain ⟨checks, hchecks, hc⟩ := List.mem_flatten.mp h
  obtain ⟨p, hp, rfl⟩ := List.mem_map.mp hchecks
  rw [(mem_checks hc).2]
  exact List.le_snd_of_mem_zipIdx hp

/-- Tokens that compile state a rule each, and compile to the checks of these rules. -/
theorem exists_rules_of_compileTokens {context : Context} {position : Nat} {tokens : List Token}
    {checks : List Check} (h : compileTokens context position tokens = .ok checks) :
    ∃ rs, List.Forall₂ (fun t r => Rule.ofToken t context = .ok r) tokens rs ∧
      checks = (Rule.turns context position rs).flatten := by
  induction tokens generalizing position checks with
  | nil =>
    obtain rfl := Except.ok.inj h
    exact ⟨[], .nil, rfl⟩
  | cons t rest ih =>
    obtain ⟨r, more, hr, hmore, rfl⟩ := compileTokens_cons_ok h
    obtain ⟨rs, hrs, rfl⟩ := ih hmore
    exact ⟨r :: rs, .cons hr hrs, by rw [Rule.turns_cons, List.flatten_cons]⟩

/-- The checks of a token that stands alone. -/
def Token.checks (t : Token) (context : Context) : Except Failure (List Check) :=
  compileTokens context 0 [t]

theorem Token.checks_eq_map (t : Token) (context : Context) :
    t.checks context = (Rule.ofToken t context).map fun r => r.checks 0 context := by
  simp only [checks, compileTokens]
  cases Rule.ofToken t context with
  | error e => rfl
  | ok r => simp [Except.map]

/-- Each token is compiled by itself, and its checks are moved to its position. The first token that
does not compile decides the failure. -/
theorem compileTokens_eq_mapM (context : Context) (position : Nat) (tokens : List Token) :
    compileTokens context position tokens =
      (tokens.mapM (Token.checks · context)).map fun parts =>
        (parts.zipIdx position).flatMap fun p => p.1.map (Check.shift p.2) := by
  induction tokens generalizing position with
  | nil => rfl
  | cons t rest ih =>
    rw [compileTokens, List.mapM_cons, ih, Token.checks_eq_map]
    cases Rule.ofToken t context with
    | error e => rfl
    | ok r =>
      have hr := Rule.checks_shift r 0 position context
      rw [Nat.zero_add] at hr
      cases rest.mapM (Token.checks · context) with
      | error e => rfl
      | ok parts => simp [Except.map, bind, Except.bind, pure, Except.pure, hr]

/-- **Homomorphism.** Two rule strings with a bar between them compile if both do: to the checks of
both, those of the second one further on by the number of tokens of the first, and to the metadata
of the first overlaid with that of the second. Otherwise the failure is that of the first of the two
that fails. Any rule string is what its tokens compile to by themselves, each at its position. -/
theorem compile_homomorphism {a b : String} (ha : a ≠ "") (hb : b ≠ "") (context : Context) :
    (∀ fa fb, compile a context = .ok fa → compile b context = .ok fb →
      ∃ f, compile (a ++ "|" ++ b) context = .ok f ∧
        f.checks = fa.checks ++ fb.checks.map (Check.shift (Token.ofString a).length) ∧
        f.metadata = fa.metadata.overlay fb.metadata) ∧
    (∀ e, compile a context = .error e → compile (a ++ "|" ++ b) context = .error e) ∧
    (∀ fa e, compile a context = .ok fa → compile b context = .error e →
      compile (a ++ "|" ++ b) context = .error e) ∧
    ∀ rules, compile rules context =
      ((Token.ofString rules).mapM (Token.checks · context)).map fun parts =>
        .ofChecks (parts.zipIdx.flatMap fun p => p.1.map (Check.shift p.2)) := by
  rw [compile_append ha hb]
  refine ⟨fun fa fb hfa hfb => ?_, fun e he => ?_, fun fa e hfa he => ?_, fun rules => ?_⟩
  · refine ⟨_, by rw [hfa, hfb], rfl, ?_⟩
    have hmetadata : (fb.checks.map (Check.shift (Token.ofString a).length)).map Check.metadata =
        fb.checks.map Check.metadata := by
      simp [Function.comp_def, Check.shift]
    rw [Field.metadata_ofChecks_append, eq_ofChecks_of_compile hfa, eq_ofChecks_of_compile hfb]
    simp only [Field.ofChecks, hmetadata]
  · rw [he]
  · rw [hfa, he]
  · rw [compile, compileTokens_eq_mapM]
    cases (Token.ofString rules).mapM (Token.checks · context) <;> rfl

/-- The second length replaces the first one in the metadata, and both are checked; a length that is
missing is reported, and not the name after it that is unknown. -/
theorem compile_homomorphism_lengths :
    (∃ f, compile ("required|min:3" ++ "|" ++ "date|min:8") Context.empty = .ok f ∧
      f.checks.map Check.position = [0, 1, 2, 2, 3] ∧ f.metadata.minLength = some 8) ∧
    compile ("max" ++ "|" ++ "nope") Context.empty =
      .error (.missingArgument "max" "a length is required, as in 'max:3'") := by
  obtain ⟨f, hf, hchecks, hmetadata⟩ := (@compile_homomorphism "required|min:3" "date|min:8"
    (by decide) (by decide) Context.empty).1 _ _ rfl rfl
  refine ⟨⟨f, hf, ?_, ?_⟩, ?_⟩
  · rw [hchecks]
    rfl
  · rw [hmetadata]
    rfl
  · exact (@compile_homomorphism "max" "nope" (by decide) (by decide) Context.empty).2.1 _ rfl

end Rulebook
