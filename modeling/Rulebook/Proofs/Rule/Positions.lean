import Rulebook.Proofs.Rule.Tokenwise

/-!
# Positions of checks

The checks of a compiled field stand in the order of the tokens, and each knows which token it comes
from. So the tokens can be told from the checks: a new one begins where the position changes.

* `Rule.pairwise_position_turns`, `Rule.filter_position_turns`: the checks of rules one after
  another, and those at one position;
* `Field.kindsFrom_turns`: the kinds where positions change;
* `checks_mirror_tokens`: rule strings.
-/

namespace Rulebook

/-! ## Rules one after another -/

theorem Rule.checks_ne_nil (r : Rule) (position : Nat) (context : Context) :
    r.checks position context ≠ [] := by
  cases r <;> exact List.cons_ne_nil _ _

theorem Rule.pairwise_position_turns (context : Context) (position : Nat) (rs : List Rule) :
    (turns context position rs).flatten.Pairwise fun c d => c.position ≤ d.position := by
  induction rs generalizing position with
  | nil => exact .nil
  | cons r rs ih =>
    rw [turns_cons, List.flatten_cons]
    refine List.pairwise_append.mpr ⟨?_, ih (position + 1), fun c hc d hd => ?_⟩
    · refine List.pairwise_of_forall_mem_list fun c hc d hd => ?_
      exact Nat.le_of_eq ((mem_checks hc).2.trans (mem_checks hd).2.symm)
    · have hcp := (mem_checks hc).2
      have hdp := le_position_of_mem_turns hd
      omega

/-- The checks at one position are those of the rule that stands there. -/
theorem Rule.filter_position_turns (context : Context) (position : Nat) {rs : List Rule} {i : Nat}
    {r : Rule} (h : rs[i]? = some r) :
    (turns context position rs).flatten.filter (fun c => c.position = position + i) =
      r.checks (position + i) context := by
  induction rs generalizing position i with
  | nil => cases h
  | cons q rs ih =>
    rw [turns_cons, List.flatten_cons, List.filter_append]
    cases i with
    | zero =>
      obtain rfl := Option.some.inj h
      have hmine : (q.checks position context).filter (fun c => c.position = position + 0) =
          q.checks position context :=
        List.filter_eq_self.mpr fun c hc => by simpa using (mem_checks hc).2
      have hothers : (turns context (position + 1) rs).flatten.filter
          (fun c => c.position = position + 0) = [] := by
        refine List.filter_eq_nil_iff.mpr fun c hc => ?_
        have hcp := le_position_of_mem_turns hc
        simp only [decide_eq_true_eq]
        omega
      rw [hmine, hothers, List.append_nil, Nat.add_zero]
    | succ i =>
      have hnext : position + 1 + i = position + (i + 1) := by omega
      have hbefore : (q.checks position context).filter
          (fun c => c.position = position + (i + 1)) = [] := by
        refine List.filter_eq_nil_iff.mpr fun c hc => ?_
        have hcp := (mem_checks hc).2
        simp only [decide_eq_true_eq]
        omega
      rw [hbefore, List.nil_append, ← hnext]
      exact ih (position + 1) h

/-! ## Kinds where positions change -/

namespace Field

/-- Checks at the position of the last one add no kind. -/
theorem kindsFrom_append_of_position {checks : List Check} {position : Nat}
    (h : ∀ c ∈ checks, c.position = position) (rest : List Check) :
    kindsFrom (some position) (checks ++ rest) = kindsFrom (some position) rest := by
  induction checks with
  | nil => rfl
  | cons c checks ih =>
    obtain ⟨hc, hchecks⟩ := List.forall_mem_cons.mp h
    rw [List.cons_append, kindsFrom, if_pos (congrArg some hc.symm), ih hchecks]

/-- Checks of one kind at a new position add that kind once, however many they are. -/
theorem kindsFrom_append {checks : List Check} {position : Nat} {kind : Kind} {last : Option Nat}
    (hne : checks ≠ []) (h : ∀ c ∈ checks, c.kind = kind ∧ c.position = position)
    (hlast : last ≠ some position) (rest : List Check) :
    kindsFrom last (checks ++ rest) = kind :: kindsFrom (some position) rest := by
  cases checks with
  | nil => exact absurd rfl hne
  | cons c checks =>
    obtain ⟨⟨rfl, rfl⟩, hchecks⟩ := List.forall_mem_cons.mp h
    rw [List.cons_append, kindsFrom, if_neg hlast,
      kindsFrom_append_of_position fun d hd => (hchecks d hd).2]

/-- Every rule adds its kind, also one of the same kind as the rule before it. -/
theorem kindsFrom_turns (context : Context) {position : Nat} {last : Option Nat}
    (hlast : ∀ p, last = some p → p < position) (rs : List Rule) :
    kindsFrom last (Rule.turns context position rs).flatten = rs.map Rule.kind := by
  induction rs generalizing position last with
  | nil => rfl
  | cons r rs ih =>
    have hnew : last ≠ some position := fun h => absurd (hlast position h) (Nat.lt_irrefl _)
    rw [Rule.turns_cons, List.flatten_cons, List.map_cons,
      kindsFrom_append (r.checks_ne_nil position context) (fun c hc => Rule.mem_checks hc) hnew]
    refine congrArg _ (ih fun p hp => ?_)
    have := Option.some.inj hp
    omega

end Field

/-! ## Rule strings -/

/-- What stands at an index of one list stands for something at that index of the other. -/
theorem exists_getElem?_of_forall₂ {α β : Type} {R : α → β → Prop} {xs : List α} {ys : List β}
    (h : List.Forall₂ R xs ys) {i : Nat} {x : α} (hx : xs[i]? = some x) :
    ∃ y, ys[i]? = some y ∧ R x y := by
  obtain ⟨hi, rfl⟩ := List.getElem?_eq_some_iff.mp hx
  have hi' : i < ys.length := h.length_eq ▸ hi
  exact ⟨_, List.getElem?_eq_getElem hi', h.get hi hi'⟩

/-- **Positions.** The checks of a compiled field stand in the order of their positions, and the
positions are those of the tokens. At the position of a token are checks of its kind and no others:
two if the token is `date` or `array`, and one if not. The kinds read off the positions are as many
as the tokens, each that of its token, also where tokens of one kind stand side by side. -/
theorem checks_mirror_tokens {rules : String} {context : Context} {f : Field}
    (hf : compile rules context = .ok f) :
    (f.checks.Pairwise fun c d => c.position ≤ d.position) ∧
    (∀ i, (∃ c ∈ f.checks, c.position = i) ↔ i < (Token.ofString rules).length) ∧
    f.kinds.length = (Token.ofString rules).length ∧
    ∀ i t, (Token.ofString rules)[i]? = some t → ∃ k : Kind, k.name = t.name ∧
      f.kinds[i]? = some k ∧
      (f.checks.filter fun c => c.position = i).map Check.kind =
        List.replicate (if k = .date ∨ k = .array then 2 else 1) k := by
  obtain ⟨rs, hrs, hchecks⟩ := exists_rules_of_compileTokens (compile_ok hf)
  have hkinds : f.kinds = rs.map Rule.kind := by
    have hnone : ∀ p, (none : Option Nat) = some p → p < 0 := nofun
    rw [Field.kinds, hchecks, Field.kindsFrom_turns context hnone]
  have hat : ∀ i r, rs[i]? = some r →
      f.checks.filter (fun c => c.position = i) = r.checks i context := by
    intro i r hr
    rw [hchecks]
    simpa only [Nat.zero_add] using Rule.filter_position_turns context 0 hr
  refine ⟨hchecks ▸ Rule.pairwise_position_turns context 0 rs, fun i => ⟨?_, fun hi => ?_⟩, ?_,
    fun i t ht => ?_⟩
  · rintro ⟨c, hc, rfl⟩
    simpa only [Nat.zero_add] using (position_compileTokens (compile_ok hf) hc).2
  · obtain ⟨r, hr, _⟩ := exists_getElem?_of_forall₂ hrs (List.getElem?_eq_getElem hi)
    obtain ⟨c, hc⟩ := List.exists_mem_of_ne_nil _ (r.checks_ne_nil i context)
    obtain ⟨hmem, hposition⟩ := List.mem_filter.mp (hat i r hr ▸ hc)
    exact ⟨c, hmem, of_decide_eq_true hposition⟩
  · rw [hkinds, List.length_map, hrs.length_eq]
  · obtain ⟨r, hr, hrule⟩ := exists_getElem?_of_forall₂ hrs ht
    refine ⟨r.kind, Rule.kind_of_ofToken hrule, ?_, ?_⟩
    · rw [hkinds, List.getElem?_map, hr, Option.map_some]
    · rw [hat i r hr]
      refine List.eq_replicate_iff.mpr ⟨?_, fun k hk => ?_⟩
      · rw [List.length_map, Rule.length_checks]
      · obtain ⟨c, hc, rfl⟩ := List.mem_map.mp hk
        exact (Rule.mem_checks hc).1

/-- Two arrays and a date, two checks each, and a length. -/
theorem checks_mirror_tokens_arrays :
    ∃ f, compile "array:string|array:number|date|max:3" Context.empty = .ok f ∧
      f.checks.map Check.position = [0, 0, 1, 1, 2, 2, 3] ∧ f.kinds.length = 4 ∧
      ∃ k : Kind, k.name = "array" ∧ f.kinds[1]? = some k := by
  obtain ⟨f, hf⟩ : ∃ f, compile "array:string|array:number|date|max:3" Context.empty = .ok f :=
    ⟨_, rfl⟩
  obtain ⟨_, _, hlength, htokens⟩ := checks_mirror_tokens hf
  obtain ⟨k, hname, hk, _⟩ := htokens 1 ⟨"array", some "number"⟩ rfl
  obtain rfl := Except.ok.inj hf
  exact ⟨_, hf, rfl, hlength, k, hname, hk⟩

end Rulebook
