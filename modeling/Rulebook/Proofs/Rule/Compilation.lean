import Rulebook.Proofs.Rule.Predicates
import Rulebook.Proofs.Validation.Results

/-!
# Which rule strings compile

A rule string compiles if each of its tokens states a rule: it has the name of one, and the
parameters of that rule are there, in the context or as its argument. Otherwise the first token that
states no rule decides the failure, which tells what is wrong with that token.

* `Length.IsWritten`: texts of lengths;
* `Kind.Supplied`, `Token.Stated`: parameters that are there, and tokens that state a rule;
* `Rule.ofToken_ok_iff`, `Rule.refused_of_ofToken`: single tokens;
* `compile_outcome`: rule strings.
-/

namespace Rulebook

/-! ## Parameters -/

/-- A length is written in ASCII digits, perhaps with a plus sign in front, and fits 64 bits. -/
def Length.IsWritten (text : List Char) : Prop :=
  ∃ digits, (text = digits ∨ text = '+' :: digits) ∧ digits ≠ [] ∧
    (∀ c ∈ digits, c.isDigit = true) ∧ Digits.value digits < 18446744073709551616

theorem Length.isWritten_iff {text : List Char} : IsWritten text ↔ ∃ n, ofText text = some n := by
  have hlimit : limit = 18446744073709551616 := by decide
  constructor
  · rintro ⟨digits, htext, hne, hdigits, hlt⟩
    have hdrop : dropSign text = digits := by
      rcases htext with rfl | rfl
      · exact dropSign_of_digits hdigits
      · rfl
    refine ⟨_, (ofText_eq_some_iff text _).mpr ⟨hdrop ▸ hne, ?_, rfl, ?_⟩⟩
    · rw [hdrop]
      exact List.all_eq_true.mpr hdigits
    · rw [hdrop, hlimit]
      exact hlt
  · rintro ⟨n, hn⟩
    obtain ⟨hne, hdigits, rfl, hlt⟩ := (ofText_eq_some_iff text n).mp hn
    refine ⟨dropSign text, ?_, hne, List.all_eq_true.mp hdigits, hlimit ▸ hlt⟩
    unfold dropSign
    split
    · exact .inr rfl
    · exact .inl rfl

/-- Whether what the rules of a kind need is there: in the context, or as the argument of a
token. -/
def Kind.Supplied (context : Context) (arg : Option String) : Kind → Prop
  | .min | .max => ∃ text, arg = some text ∧ Length.IsWritten text.toList
  | .pattern => ∃ p, context.pattern = some p
  | .enum => ∃ e, context.enumeration = some e
  | .object => ∃ s, context.nested = some s
  | .array =>
    (∃ element, context.element = some element) ∨ arg = some "string" ∨ arg = some "number"
  | .unique | .exist =>
    (∃ entity, context.entity = some entity) ∧ ∃ field, arg = some field ∧ field ≠ ""
  | _ => True

/-- A token states a rule: it has the name of one, and its parameters are there. -/
def Token.Stated (context : Context) (t : Token) : Prop :=
  ∃ k : Kind, k.name = t.name ∧ k.Supplied context t.arg

namespace Rule

variable {t : Token} {context : Context} {e : Failure}

theorem givenArg_eq_some_iff {arg : String} :
    givenArg t = some arg ↔ t.arg = some arg ∧ arg ≠ "" := by
  simp [givenArg, Option.filter_eq_some_iff]

theorem givenArg_eq_none_iff : givenArg t = none ↔ t.arg = none ∨ t.arg = some "" := by
  cases h : t.arg with
  | none => simp [givenArg, h]
  | some arg => simp [givenArg, h, Option.filter]

/-! ## Reading parameters -/

/-- What is wrong with a token that has the name of a rule but states none: a parameter is missing,
or the argument is no length. -/
inductive Refused (context : Context) (arg : Option String) (k : Kind) : Failure → Prop where
  | missing (h : ¬k.Supplied context arg)
      (hempty : k = .min ∨ k = .max → arg = none ∨ arg = some "") (text : String) :
      Refused context arg k (.missingArgument k.name text)
  | invalid (hk : k = .min ∨ k = .max) {text : String} (harg : arg = some text) (hne : text ≠ "")
      (h : ¬Length.IsWritten text.toList) :
      Refused context arg k
        (.invalidArgument k.name ("'" ++ text ++ "' is not a non-negative integer"))

theorem Refused.not_supplied {arg : Option String} {k : Kind} (h : Refused context arg k e) :
    ¬k.Supplied context arg := by
  cases h with
  | missing h => exact h
  | invalid hk harg _ h =>
    intro hsupplied
    have hlength : ∃ text, arg = some text ∧ Length.IsWritten text.toList := by
      rcases hk with rfl | rfl
      · exact hsupplied
      · exact hsupplied
    obtain ⟨text, htext, hwritten⟩ := hlength
    obtain rfl := Option.some.inj (harg.symm.trans htext)
    exact h hwritten

/-- A length is read from an argument that is one. -/
theorem lengthArg_cases (t : Token) (context : Context) {k : Kind} (hk : k = .min ∨ k = .max) :
    (k.Supplied context t.arg ∧ ∃ n, lengthArg t k.name = .ok n) ∨
      ∃ e, Refused context t.arg k e ∧ lengthArg t k.name = .error e := by
  have hsupplied : k.Supplied context t.arg =
      ∃ text, t.arg = some text ∧ Length.IsWritten text.toList := by
    rcases hk with rfl | rfl <;> rfl
  unfold lengthArg
  cases harg : givenArg t with
  | none =>
    have hempty := givenArg_eq_none_iff.mp harg
    refine .inr ⟨_, .missing ?_ (fun _ => hempty) _, rfl⟩
    rw [hsupplied]
    rintro ⟨text, htext, digits, hdigits, hne, _⟩
    rcases hempty with h | h
    · cases h.symm.trans htext
    · obtain rfl := Option.some.inj (h.symm.trans htext)
      rcases hdigits with h | h
      · exact hne h.symm
      · cases h
  | some text =>
    obtain ⟨htext, hne⟩ := givenArg_eq_some_iff.mp harg
    cases hn : Length.ofText text.toList with
    | some n =>
      refine .inl ⟨?_, n, by simp [hn]⟩
      rw [hsupplied]
      exact ⟨text, htext, Length.isWritten_iff.mpr ⟨n, hn⟩⟩
    | none =>
      have hnot : ¬Length.IsWritten text.toList := by
        rw [Length.isWritten_iff, hn]
        simp
      exact .inr ⟨_, .invalid hk htext hne hnot, by simp [hn]⟩

/-- A record is looked up under an entity of the context and a field that the argument names. -/
theorem lookupArgs_cases (t : Token) (context : Context) {k : Kind}
    (hk : k = .unique ∨ k = .exist) :
    (k.Supplied context t.arg ∧ ∃ p, lookupArgs t context k.name = .ok p) ∨
      ∃ e, Refused context t.arg k e ∧ lookupArgs t context k.name = .error e := by
  have hsupplied : k.Supplied context t.arg = ((∃ entity, context.entity = some entity) ∧
      ∃ field, t.arg = some field ∧ field ≠ "") := by
    rcases hk with rfl | rfl <;> rfl
  have hlength : ¬(k = .min ∨ k = .max) := by
    rcases hk with rfl | rfl <;> decide
  unfold lookupArgs
  cases hentity : context.entity with
  | none =>
    refine .inr ⟨_, .missing ?_ (fun h => absurd h hlength) _, rfl⟩
    simp [hsupplied, hentity]
  | some entity =>
    cases harg : givenArg t with
    | none =>
      refine .inr ⟨_, .missing ?_ (fun h => absurd h hlength) _, rfl⟩
      rw [hsupplied]
      rintro ⟨_, field, hfield⟩
      cases harg.symm.trans (givenArg_eq_some_iff.mpr hfield)
    | some field =>
      refine .inl ⟨?_, _, rfl⟩
      rw [hsupplied]
      exact ⟨⟨entity, hentity⟩, field, givenArg_eq_some_iff.mp harg⟩

/-- A parameter is there or not. -/
theorem require_cases {α : Type} {parameter : Option α} (t : Token) {k : Kind} (text : String)
    (hk : ¬(k = .min ∨ k = .max)) (h : k.Supplied context t.arg ↔ ∃ a, parameter = some a) :
    (k.Supplied context t.arg ∧ ∃ a, require parameter k.name text = .ok a) ∨
      ∃ e, Refused context t.arg k e ∧ require parameter k.name text = .error e := by
  cases parameter with
  | none =>
    refine .inr ⟨_, .missing ?_ (fun hlength => absurd hlength hk) text, rfl⟩
    rw [h]
    simp
  | some a => exact .inl ⟨h.mpr ⟨a, rfl⟩, a, rfl⟩

/-- The type of elements that the context supplies goes before the one that the argument names. -/
theorem exists_element_iff (t : Token) (context : Context) :
    Kind.array.Supplied context t.arg ↔
      ∃ element, context.element.or (t.arg.bind Element.ofArg?) = some element := by
  have hsupplied : Kind.array.Supplied context t.arg =
      ((∃ element, context.element = some element) ∨
        t.arg = some "string" ∨ t.arg = some "number") := rfl
  rw [hsupplied]
  cases context.element with
  | some element => simp
  | none =>
    rw [Option.none_or]
    constructor
    · rintro (⟨element, h⟩ | h | h)
      · cases h
      · exact ⟨.string, by rw [h]; rfl⟩
      · exact ⟨.number, by rw [h]; rfl⟩
    · rintro ⟨element, h⟩
      obtain ⟨arg, harg, helement⟩ := Option.bind_eq_some_iff.mp h
      rcases (Element.ofArg?_eq_some_iff arg element).mp helement with ⟨rfl, _⟩ | ⟨rfl, _⟩
      · exact .inr (.inl harg)
      · exact .inr (.inr harg)

/-- A rule of a kind is stated if its parameters are there. -/
theorem ofKind_cases (t : Token) (context : Context) (k : Kind) :
    (k.Supplied context t.arg ∧ ∃ r, ofKind t context k = .ok r) ∨
      ∃ e, Refused context t.arg k e ∧ ofKind t context k = .error e := by
  have hmap {α : Type} {x : Except Failure α} (f : α → Rule)
      (h : (k.Supplied context t.arg ∧ ∃ a, x = .ok a) ∨
        ∃ e, Refused context t.arg k e ∧ x = .error e) :
      (k.Supplied context t.arg ∧ ∃ r, x.map f = .ok r) ∨
        ∃ e, Refused context t.arg k e ∧ x.map f = .error e := by
    rcases h with ⟨hs, a, rfl⟩ | ⟨e, he, rfl⟩
    · exact .inl ⟨hs, f a, rfl⟩
    · exact .inr ⟨e, he, rfl⟩
  cases k with
  | min => exact hmap _ (lengthArg_cases t context (.inl rfl))
  | max => exact hmap _ (lengthArg_cases t context (.inr rfl))
  | unique => exact hmap _ (lookupArgs_cases t context (.inl rfl))
  | exist => exact hmap _ (lookupArgs_cases t context (.inr rfl))
  | pattern => exact hmap _ (require_cases t _ (by decide) Iff.rfl)
  | enum => exact hmap _ (require_cases t _ (by decide) Iff.rfl)
  | object => exact hmap _ (require_cases t _ (by decide) Iff.rfl)
  | array => exact hmap _ (require_cases t _ (by decide) (exists_element_iff t context))
  | _ => exact .inl ⟨trivial, _, rfl⟩

/-! ## Tokens -/

theorem ofToken_of_name {k : Kind} (h : k.name = t.name) :
    ofToken t context = ofKind t context k := by
  simp only [ofToken, Kind.ofName, ← h, Kind.ofName?_name]

theorem ofToken_of_unknown (h : ∀ k : Kind, k.name ≠ t.name) :
    ofToken t context = .error (.unknownRule t.name) := by
  have hnone : Kind.ofName? t.name = none := by
    cases hk : Kind.ofName? t.name with
    | none => rfl
    | some k => exact absurd (Kind.name_of_ofName? hk) (h k)
  simp only [ofToken, Kind.ofName, hnone]

theorem ofToken_ok_iff : (∃ r, ofToken t context = .ok r) ↔ t.Stated context := by
  constructor
  · rintro ⟨r, hr⟩
    have hname := kind_of_ofToken hr
    rcases ofKind_cases t context r.kind with ⟨hs, _⟩ | ⟨e, _, he⟩
    · exact ⟨r.kind, hname, hs⟩
    · rw [ofToken_of_name hname, he] at hr
      cases hr
  · rintro ⟨k, hname, hs⟩
    rw [ofToken_of_name hname]
    rcases ofKind_cases t context k with ⟨_, h⟩ | ⟨e, he, _⟩
    · exact h
    · exact absurd hs he.not_supplied

/-- A token that states no rule has an unknown name, or its parameters are refused. -/
theorem refused_of_ofToken (h : ofToken t context = .error e) :
    ((∀ k : Kind, k.name ≠ t.name) ∧ e = .unknownRule t.name) ∨
      ∃ k : Kind, k.name = t.name ∧ Refused context t.arg k e := by
  by_cases hname : ∃ k : Kind, k.name = t.name
  · obtain ⟨k, hk⟩ := hname
    rw [ofToken_of_name hk] at h
    rcases ofKind_cases t context k with ⟨_, r, hr⟩ | ⟨e', he, hk'⟩
    · cases hr.symm.trans h
    · obtain rfl := Except.error.inj (hk'.symm.trans h)
      exact .inr ⟨k, hk, he⟩
  · have hunknown := not_exists.mp hname
    rw [ofToken_of_unknown hunknown] at h
    exact .inl ⟨hunknown, (Except.error.inj h).symm⟩

end Rule

/-! ## Lists of tokens -/

theorem compileTokens_ok_iff {context : Context} {position : Nat} {tokens : List Token} :
    (∃ checks, compileTokens context position tokens = .ok checks) ↔
      ∀ t ∈ tokens, t.Stated context := by
  induction tokens generalizing position with
  | nil => exact ⟨fun _ => nofun, fun _ => ⟨[], rfl⟩⟩
  | cons t rest ih =>
    rw [List.forall_mem_cons, ← Rule.ofToken_ok_iff, ← ih]
    constructor
    · rintro ⟨checks, h⟩
      obtain ⟨r, more, hr, hmore, _⟩ := compileTokens_cons_ok h
      exact ⟨⟨r, hr⟩, more, hmore⟩
    · rintro ⟨⟨r, hr⟩, more, hmore⟩
      exact ⟨r.checks position context ++ more, by simp only [compileTokens, hr, hmore]⟩

/-- A list fails at its first token, or that one states a rule and the rest fails. -/
theorem compileTokens_cons_error_iff {context : Context} {position : Nat} {t : Token}
    {rest : List Token} {e : Failure} :
    compileTokens context position (t :: rest) = .error e ↔
      Rule.ofToken t context = .error e ∨
        t.Stated context ∧ compileTokens context (position + 1) rest = .error e := by
  rw [← Rule.ofToken_ok_iff]
  cases hr : Rule.ofToken t context with
  | error e' => simp [compileTokens, hr]
  | ok r =>
    cases hrest : compileTokens context (position + 1) rest with
    | error e' => simp [compileTokens, hr, hrest]
    | ok checks => simp [compileTokens, hr, hrest]

/-- The first token that states no rule decides the failure, whatever follows it. -/
theorem compileTokens_error_iff {context : Context} {position : Nat} {tokens : List Token}
    {e : Failure} :
    compileTokens context position tokens = .error e ↔
      ∃ (before : List Token) (t : Token) (after : List Token),
        tokens = before ++ t :: after ∧ (∀ u ∈ before, u.Stated context) ∧
        Rule.ofToken t context = .error e := by
  induction tokens generalizing position with
  | nil =>
    constructor
    · intro h
      cases h
    · rintro ⟨before, t, after, h, _⟩
      simp at h
  | cons t rest ih => rw [compileTokens_cons_error_iff, ih, exists_split_cons_iff]

/-! ## Rule strings -/

theorem compile_ok_iff {rules : String} {context : Context} :
    (∃ f, compile rules context = .ok f) ↔
      ∃ checks, compileTokens context 0 (Token.ofString rules) = .ok checks := by
  unfold compile
  cases compileTokens context 0 (Token.ofString rules) <;> simp [Except.map]

theorem compile_error_iff {rules : String} {context : Context} {e : Failure} :
    compile rules context = .error e ↔
      compileTokens context 0 (Token.ofString rules) = .error e := by
  unfold compile
  cases compileTokens context 0 (Token.ofString rules) <;> simp [Except.map]

/-- **Compilation.** A rule string compiles if and only if each of its tokens states a rule.
Otherwise the failure is that of the first token that states none, whatever tokens are behind it. It
tells of an unknown name, of a parameter that is missing or of an argument that is no length, and
never of a text that cannot be parsed, and it is a failure of configuration. -/
theorem compile_outcome (rules : String) (context : Context) :
    ((∃ f, compile rules context = .ok f) ↔ ∀ t ∈ Token.ofString rules, t.Stated context) ∧
    ∀ e, compile rules context = .error e ↔
      ∃ before t after, Token.ofString rules = before ++ t :: after ∧
        (∀ u ∈ before, u.Stated context) ∧ ¬t.Stated context ∧ Rule.ofToken t context = .error e ∧
        (((∀ k : Kind, k.name ≠ t.name) ∧ e = .unknownRule t.name) ∨
          ∃ k : Kind, k.name = t.name ∧ Rule.Refused context t.arg k e) ∧
        (∀ text, e ≠ .parse text) ∧ e.isConfiguration = true := by
  refine ⟨compile_ok_iff.trans compileTokens_ok_iff, fun e => ?_⟩
  rw [compile_error_iff, compileTokens_error_iff]
  constructor
  · rintro ⟨before, t, after, htokens, hbefore, he⟩
    have hnot : ¬t.Stated context := by
      intro hstated
      obtain ⟨r, hr⟩ := Rule.ofToken_ok_iff.mpr hstated
      cases hr.symm.trans he
    have hrefused := Rule.refused_of_ofToken he
    refine ⟨before, t, after, htokens, hbefore, hnot, he, hrefused, ?_⟩
    rcases hrefused with ⟨_, rfl⟩ | ⟨k, _, hk⟩
    · exact ⟨nofun, rfl⟩
    · cases hk with
      | missing => exact ⟨nofun, rfl⟩
      | invalid => exact ⟨nofun, rfl⟩
  · rintro ⟨before, t, after, htokens, hbefore, _, he, _⟩
    exact ⟨before, t, after, htokens, hbefore, he⟩

/-- A plus sign may stand before a length, a minus sign may not; and an empty length is missing,
which hides the unknown name behind it. -/
theorem compile_outcome_lengths :
    (∃ f, compile "min:+3|array:number" Context.empty = .ok f) ∧
    (∃ before t after, Token.ofString "required|max:|nope" = before ++ t :: after ∧
      (∀ u ∈ before, u.Stated Context.empty) ∧ ¬t.Stated Context.empty) ∧
    ¬∀ t ∈ Token.ofString "min:-3", t.Stated Context.empty := by
  have hfirst : Token.Stated Context.empty ⟨"min", some "+3"⟩ :=
    ⟨.min, rfl, "+3", rfl, ['3'], .inr rfl, by decide, by simp, by decide⟩
  have hsecond : Token.Stated Context.empty ⟨"array", some "number"⟩ :=
    ⟨.array, rfl, .inr (.inr rfl)⟩
  refine ⟨?_, ?_, fun h => ?_⟩
  · refine (compile_outcome "min:+3|array:number" Context.empty).1.mpr ?_
    exact List.forall_mem_cons.mpr ⟨hfirst, List.forall_mem_singleton.mpr hsecond⟩
  · obtain ⟨before, t, after, htokens, hbefore, hnot, _⟩ :=
      ((compile_outcome "required|max:|nope" Context.empty).2
        (.missingArgument "max" "a length is required, as in 'max:3'")).mp rfl
    exact ⟨before, t, after, htokens, hbefore, hnot⟩
  · obtain ⟨f, hf⟩ := (compile_outcome "min:-3" Context.empty).1.mpr h
    cases hf

end Rulebook
