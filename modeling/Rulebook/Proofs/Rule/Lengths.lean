import Rulebook.Proofs.Rule.Compilation
import Rulebook.Proofs.Rule.Splitting
import Rulebook.Proofs.Rule.Admission
import Rulebook.Proofs.Validation.Coercions

/-!
# Rules of length

The rules `min` and `max` read a length from their argument and bound the length of a value by it.
An argument of ASCII digits is a length if its value fits 64 bits, however many zeros it starts
with. The rules count the characters of a string and the items of an array, and no other value has
a length.

* `Length.states_iff`: the texts of lengths, and their values;
* `Length.states_zeros_iff`: zeros in front make no difference;
* `compile_length`: a rule of length by itself;
* `violations_bounds`: both rules on a value;
* `lengths_read_and_bound`: all of this together.
-/

namespace Rulebook

/-! ## Texts of lengths -/

/-- A text is written for a length: digits of that value, perhaps with a plus sign in front. -/
def Length.States (text : List Char) (n : Nat) : Prop :=
  ∃ digits, (text = digits ∨ text = '+' :: digits) ∧ digits ≠ [] ∧
    (∀ c ∈ digits, c.isDigit = true) ∧ Digits.value digits = n ∧ n ≤ 18446744073709551615

namespace Length

theorem states_iff {text : List Char} {n : Nat} : States text n ↔ ofText text = some n := by
  have hlimit : limit = 18446744073709551615 + 1 := rfl
  rw [ofText_eq_some_iff, hlimit, Nat.lt_succ_iff]
  constructor
  · rintro ⟨digits, htext, hne, hdigits, hvalue, hle⟩
    have hdrop : dropSign text = digits := by
      rcases htext with rfl | rfl
      · exact dropSign_of_digits hdigits
      · rfl
    rw [hdrop]
    exact ⟨hne, List.all_eq_true.mpr hdigits, hvalue, hle⟩
  · rintro ⟨hne, hdigits, hvalue, hle⟩
    refine ⟨dropSign text, ?_, hne, List.all_eq_true.mp hdigits, hvalue, hle⟩
    unfold dropSign
    split
    · exact .inr rfl
    · exact .inl rfl

/-- Zeros in front of digits make no difference. -/
theorem states_zeros_iff {digits : List Char} (hne : digits ≠ [])
    (hdigits : ∀ c ∈ digits, c.isDigit = true) (zeros n : Nat) :
    States (List.replicate zeros '0' ++ digits) n ↔ States digits n := by
  have hzeros : ∀ c ∈ List.replicate zeros '0' ++ digits, c.isDigit = true := by
    intro c hc
    rcases List.mem_append.mp hc with hc | hc
    · rw [List.eq_of_mem_replicate hc]
      rfl
    · exact hdigits c hc
  simp only [states_iff, ofText_eq_some_iff, dropSign_of_digits hzeros,
    dropSign_of_digits hdigits, Digits.value_replicate_zero]
  simp [hne]

/-- No bar is mistaken in a length. -/
theorem States.not_mem {text : List Char} {n : Nat} (h : States text n) : '|' ∉ text := by
  obtain ⟨digits, htext, _, hdigits, _⟩ := h
  have hbar : '|' ∉ digits := fun hmem => absurd (hdigits '|' hmem) (by decide)
  rcases htext with rfl | rfl
  · exact hbar
  · simpa using hbar

theorem States.ne_empty {text : String} {n : Nat} (h : States text.toList n) : text ≠ "" := by
  rintro rfl
  obtain ⟨digits, htext, hne, _⟩ := h
  rcases htext with h | h
  · exact hne h.symm
  · cases h

end Length

/-! ## Single rules -/

namespace Rule

/-- The two kinds of rules that bound a length. -/
inductive Bounds : Kind → (Nat → Rule) → Prop where
  | min : Bounds .min min
  | max : Bounds .max max

theorem exists_bounds {k : Kind} (h : k = .min ∨ k = .max) : ∃ bound, Bounds k bound := by
  rcases h with rfl | rfl
  · exact ⟨_, .min⟩
  · exact ⟨_, .max⟩

variable {k : Kind} {bound : Nat → Rule} {context : Context}

theorem Bounds.ofToken_eq (h : Bounds k bound) (arg : Option String) :
    ofToken ⟨k.name, arg⟩ context = (lengthArg ⟨k.name, arg⟩ k.name).map bound := by
  rw [ofToken_of_name rfl]
  cases h with
  | min => rfl
  | max => rfl

theorem lengthArg_of_states {name text rule : String} {n : Nat}
    (h : Length.States text.toList n) : lengthArg ⟨name, some text⟩ rule = .ok n := by
  have hgiven : givenArg ⟨name, some text⟩ = some text :=
    givenArg_eq_some_iff.mpr ⟨rfl, h.ne_empty⟩
  simp only [lengthArg, hgiven, Length.states_iff.mp h]

theorem lengthArg_of_not_states {name text rule : String} (hne : text ≠ "")
    (h : ¬∃ n, Length.States text.toList n) :
    lengthArg ⟨name, some text⟩ rule =
      .error (.invalidArgument rule ("'" ++ text ++ "' is not a non-negative integer")) := by
  have hgiven : givenArg ⟨name, some text⟩ = some text := givenArg_eq_some_iff.mpr ⟨rfl, hne⟩
  have hnone : Length.ofText text.toList = none := by
    cases hn : Length.ofText text.toList with
    | none => rfl
    | some n => exact absurd ⟨n, Length.states_iff.mpr hn⟩ h
  simp only [lengthArg, hgiven, hnone]

end Rule

/-- The tokens of a rule with an argument. -/
theorem Token.ofString_rule {name arg : String} (hn : '|' ∉ name.toList ∧ ':' ∉ name.toList)
    (ha : '|' ∉ arg.toList) : ofString (name ++ ":" ++ arg) = [⟨name, some arg⟩] := by
  have hwell : ∀ t ∈ [(⟨name, some arg⟩ : Token)], t.WellFormed :=
    List.forall_mem_singleton.mpr ⟨hn.1, hn.2, fun _ h => Option.some.inj h ▸ ha⟩
  have hjoin : name ++ ":" ++ arg = join [⟨name, some arg⟩] := by
    simp [join, Text.join, chars, String.ofList_append, ← String.toList_inj]
  rw [hjoin, ofString_join_of_wellFormed (List.cons_ne_nil _ _) (by simp) hwell]

/-- A rule of length by itself. -/
theorem compile_length {k : Kind} {bound : Nat → Rule} (hk : Rule.Bounds k bound) {arg : String}
    (ha : '|' ∉ arg.toList) (context : Context) :
    compile (k.name ++ ":" ++ arg) context =
      (Rule.lengthArg ⟨k.name, some arg⟩ k.name).map fun n =>
        .ofChecks ((bound n).checks 0 context) := by
  have hname : '|' ∉ k.name.toList ∧ ':' ∉ k.name.toList := by
    cases hk with
    | min => decide
    | max => decide
  simp only [compile, Token.ofString_rule hname ha, compileTokens, hk.ofToken_eq]
  cases Rule.lengthArg ⟨k.name, some arg⟩ k.name with
  | error e => rfl
  | ok n => simp [Except.map]

/-- A rule of length by itself compiles if its argument is a length; an empty argument is missing,
and any other is invalid. -/
theorem compile_length_cases {k : Kind} {bound : Nat → Rule} (hk : Rule.Bounds k bound)
    {arg : String} (harg : '|' ∉ arg.toList) (context : Context) :
    ((∃ f, compile (k.name ++ ":" ++ arg) context = .ok f) ↔ ∃ n, Length.States arg.toList n) ∧
    (arg = "" → compile (k.name ++ ":" ++ arg) context =
      .error (.missingArgument k.name ("a length is required, as in '" ++ k.name ++ ":3'"))) ∧
    (arg ≠ "" → (¬∃ n, Length.States arg.toList n) →
      compile (k.name ++ ":" ++ arg) context = .error (.invalidArgument k.name
        ("'" ++ arg ++ "' is not a non-negative integer"))) := by
  rw [compile_length hk harg]
  refine ⟨⟨?_, ?_⟩, ?_, fun hne hnot => ?_⟩
  · rintro ⟨f, hf⟩
    by_contra hnot
    by_cases hne : arg = ""
    · subst hne
      cases hf
    · rw [Rule.lengthArg_of_not_states hne hnot] at hf
      cases hf
  · rintro ⟨n, hn⟩
    rw [Rule.lengthArg_of_states hn]
    exact ⟨_, rfl⟩
  · rintro rfl
    rfl
  · rw [Rule.lengthArg_of_not_states hne hnot]
    rfl

/-! ## Both rules -/

/-- A least length, a bar, and a greatest length. -/
theorem compile_bounds {least most : String} {a b : Nat} (ha : Length.States least.toList a)
    (hb : Length.States most.toList b) (context : Context) :
    compile ("min:" ++ least ++ "|max:" ++ most) context =
      .ok (.ofChecks ((Rule.min a).checks 0 context ++ (Rule.max b).checks 1 context)) := by
  have hmin := compile_length .min ha.not_mem context
  have hmax := compile_length .max hb.not_mem context
  rw [Rule.lengthArg_of_states ha] at hmin
  rw [Rule.lengthArg_of_states hb] at hmax
  have hsplit : "min:" ++ least ++ "|max:" ++ most =
      (Kind.min.name ++ ":" ++ least) ++ "|" ++ (Kind.max.name ++ ":" ++ most) := by
    simp [Kind.name, ← String.toList_inj]
  have htokens : Token.ofString (Kind.min.name ++ ":" ++ least) = [⟨"min", some least⟩] :=
    Token.ofString_rule (by decide) ha.not_mem
  rw [hsplit, compile_append (by simp [Kind.name, ← String.toList_inj])
    (by simp [Kind.name, ← String.toList_inj]), hmin, hmax, htokens]
  rfl

/-- A length between two bounds. -/
def Json.LengthWithin (least most : Nat) (v : Json) : Prop :=
  (∃ text, v = .string text ∧ least ≤ text.length ∧ text.length ≤ most) ∨
    ∃ items, v = .array items ∧ least ≤ items.length ∧ items.length ≤ most

theorem Json.lengthWithin_iff {least most : Nat} {v : Json} :
    v.LengthWithin least most ↔
      (Test.minLength least).holds (some v) = true ∧
        (Test.maxLength most).holds (some v) = true := by
  cases v <;> simp [LengthWithin, Test.holds, Test.holdsOf, length?]

/-- What a test reports of a value. -/
def Test.complaints (t : Test) (site : Site) (value : Option Json) : List Violation :=
  if t.holds value then []
  else [⟨site.path, site.kind, site.message.getD (t.describe site.path)⟩]

theorem Test.complaints_eq_nil_iff {t : Test} {site : Site} {value : Option Json} :
    t.complaints site value = [] ↔ t.holds value = true := by
  unfold complaints
  split <;> simp_all

/-- A test keeps the value, whether it holds or not. -/
theorem Test.run_eq (t : Test) (site : Site) (value : Option Json) :
    (Predicate.test t).run site value =
      pure ⟨t.holds value, value, t.complaints site value⟩ := by
  rw [Predicate.run_test, complaints]
  cases t.holds value with
  | false => rfl
  | true => rfl

/-- The violations of both rules on a value are those of their tests, one after the other. -/
theorem violations_bounds {a b : Nat} {context : Context} (he : context.each = false)
    (path : String) (v : Json) :
    (Field.ofChecks ((Rule.min a).checks 0 context ++ (Rule.max b).checks 1 context)).validate
        path (some v) =
      pure ⟨some v, (Test.minLength a).complaints ⟨.min, context.message, path⟩ (some v) ++
        (Test.maxLength b).complaints ⟨.max, context.message, path⟩ (some v)⟩ := by
  have hneeded : (Field.ofChecks ((Rule.min a).checks 0 context ++
      (Rule.max b).checks 1 context)).isOptional = false := by
    simp [Field.isOptional, Field.ofChecks, List.any_append, Rule.any_isOptional_checks, Rule.kind]
  rw [Field.validate_eq_runChecks (.inr hneeded)]
  -- the second rule stands at another position, so it runs even if the first one does not hold
  simp [Field.ofChecks, Rule.checks, Rule.checksAt, Rule.Place.own, he, Rule.kind, runChecks,
    Test.run_eq]

theorem validate_bounds {a b : Nat} {context : Context} (he : context.each = false)
    (path : String) (v : Json) :
    ∃ violations, (Field.ofChecks ((Rule.min a).checks 0 context ++
        (Rule.max b).checks 1 context)).validate path (some v) = .done ⟨some v, violations⟩ ∧
      (violations = [] ↔ v.LengthWithin a b) := by
  refine ⟨_, violations_bounds he path v, ?_⟩
  rw [List.append_eq_nil_iff, Test.complaints_eq_nil_iff, Test.complaints_eq_nil_iff,
    Json.lengthWithin_iff]

/-! ## The rules -/

/-- **Rules of length.** The argument of `min` and of `max` is a length if and only if it is one or
more ASCII digits, perhaps with a plus sign in front, whose value fits 64 bits; zeros in front make
no difference. An empty argument counts as missing, and any other is invalid. With both rules the
metadata has both lengths, and a value passes if and only if it is a string with so many characters,
or an array with so many items, that both bounds are kept. -/
theorem lengths_read_and_bound (context : Context) :
    (∀ k : Kind, k = .min ∨ k = .max → ∀ arg : String, '|' ∉ arg.toList →
      ((∃ f, compile (k.name ++ ":" ++ arg) context = .ok f) ↔
        ∃ n, Length.States arg.toList n) ∧
      (arg = "" → compile (k.name ++ ":" ++ arg) context =
        .error (.missingArgument k.name ("a length is required, as in '" ++ k.name ++ ":3'"))) ∧
      (arg ≠ "" → (¬∃ n, Length.States arg.toList n) →
        compile (k.name ++ ":" ++ arg) context = .error (.invalidArgument k.name
          ("'" ++ arg ++ "' is not a non-negative integer")))) ∧
    (∀ digits : List Char, digits ≠ [] → (∀ c ∈ digits, c.isDigit = true) → ∀ zeros n : Nat,
      Length.States (List.replicate zeros '0' ++ digits) n ↔ Length.States digits n) ∧
    ∀ (least most : String) (a b : Nat), Length.States least.toList a →
      Length.States most.toList b →
      ∃ f, compile ("min:" ++ least ++ "|max:" ++ most) context = .ok f ∧
        f.metadata = { Metadata.empty with
          example? := context.example?, minLength := some a, maxLength := some b } ∧
        (context.each = false → ∀ (path : String) (v : Json), ∃ violations,
          f.validate path (some v) = .done ⟨some v, violations⟩ ∧
          (violations = [] ↔ v.LengthWithin a b)) := by
  refine ⟨fun k hlength arg harg => ?_,
    fun digits hne hdigits => Length.states_zeros_iff hne hdigits,
    fun least most a b ha hb => ⟨_, compile_bounds ha hb context, ?_, fun he path v =>
      validate_bounds he path v⟩⟩
  · obtain ⟨bound, hk⟩ := Rule.exists_bounds hlength
    exact compile_length_cases hk harg context
  · simp [Field.ofChecks, Rule.checks, Rule.checksAt, Rule.Place.own, Rule.Place.fragment,
      Metadata.overlayAll, Metadata.overlay, Metadata.empty]

/-- The greatest length of 64 bits is read, and the next number is not. Seven characters are seven,
whatever bytes they take. -/
theorem lengths_read_and_bound_limit :
    compile "max:18446744073709551616" Context.empty = .error (.invalidArgument "max"
      "'18446744073709551616' is not a non-negative integer") ∧
    ∃ f, compile "min:007|max:+18446744073709551615" Context.empty = .ok f ∧
      f.metadata.minLength = some 7 ∧ f.metadata.maxLength = some 18446744073709551615 ∧
      f.validate "name" (some (.string "Ναυσικά")) = .done ⟨some (.string "Ναυσικά"), []⟩ := by
  obtain ⟨hread, hzeros, hbound⟩ := lengths_read_and_bound Context.empty
  have hlarge : ¬∃ n, Length.States "18446744073709551616".toList n := by
    simp only [Length.states_iff]
    rintro ⟨n, hn⟩
    cases hn
  have hseven : ∀ c ∈ ['7'], c.isDigit = true := List.forall_mem_singleton.mpr rfl
  have hleast : Length.States "007".toList 7 :=
    (hzeros ['7'] (List.cons_ne_nil _ _) hseven 2 7).mpr
      ⟨['7'], .inl rfl, List.cons_ne_nil _ _, hseven, rfl, by decide⟩
  have hmost : Length.States "+18446744073709551615".toList 18446744073709551615 :=
    Length.states_iff.mpr rfl
  obtain ⟨f, hf, hmetadata, hpasses⟩ := hbound "007" "+18446744073709551615" _ _ hleast hmost
  obtain ⟨violations, hdone, hiff⟩ := hpasses rfl "name" (.string "Ναυσικά")
  have hnone : violations = [] := hiff.mpr (.inl ⟨_, rfl, by decide, by decide⟩)
  refine ⟨(hread .max (.inr rfl) _ (by decide)).2.2 (by decide) hlarge, f, hf, ?_, ?_, ?_⟩
  · rw [hmetadata]
  · rw [hmetadata]
  · rw [hdone, hnone]

end Rulebook
