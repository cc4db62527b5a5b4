import Rulebook.Rule.Basic

/-!
# Compiling rule strings

A rule string is compiled token by token; the first token that does not make a rule decides the
failure. The checks of all tokens, in order, make up the field, and so does their metadata.

* `compileTokens_append`: compiling two lists of tokens is compiling the first and then the second,
  at positions further on;
* `position_compileTokens`: checks carry the positions of their tokens;
* `compileTokens_shift`: positions have no influence but on the positions of checks;
* `compile_append`: two rule strings with a bar between them;
* `Schema.Built.nodup_names`: no name is declared twice.
-/

namespace Rulebook

/-! ## Tokens -/

/-- The checks of tokens of which the first stands at that position. -/
def compileTokens (context : Context) : Nat → List Token → Except Failure (List Check)
  | _, [] => .ok []
  | position, t :: rest =>
    match Rule.ofToken t context with
    | .error f => .error f
    | .ok r =>
      match compileTokens context (position + 1) rest with
      | .error f => .error f
      | .ok checks => .ok (r.checks position context ++ checks)

theorem compileTokens_cons_ok {context : Context} {position : Nat} {t : Token}
    {rest : List Token} {checks : List Check}
    (h : compileTokens context position (t :: rest) = .ok checks) :
    ∃ r more, Rule.ofToken t context = .ok r ∧
      compileTokens context (position + 1) rest = .ok more ∧
      checks = r.checks position context ++ more := by
  simp only [compileTokens] at h
  cases hr : Rule.ofToken t context with
  | error f => simp [hr] at h
  | ok r =>
    cases hm : compileTokens context (position + 1) rest with
    | error f => simp [hr, hm] at h
    | ok more =>
      simp only [hr, hm, Except.ok.injEq] at h
      exact ⟨r, more, rfl, rfl, h.symm⟩

theorem compileTokens_append (context : Context) (position : Nat) (xs ys : List Token) :
    compileTokens context position (xs ++ ys) =
      match compileTokens context position xs with
      | .error f => .error f
      | .ok cs =>
        match compileTokens context (position + xs.length) ys with
        | .error f => .error f
        | .ok ds => .ok (cs ++ ds) := by
  induction xs generalizing position with
  | nil =>
    simp only [compileTokens, List.nil_append, List.length_nil, Nat.add_zero]
    split <;> simp_all
  | cons t xs ih =>
    simp only [compileTokens, List.cons_append, ih, List.length_cons]
    cases Rule.ofToken t context with
    | error f => rfl
    | ok r =>
      cases compileTokens context (position + 1) xs with
      | error f => rfl
      | ok cs =>
        have hp : position + 1 + xs.length = position + (xs.length + 1) := by omega
        cases h : compileTokens context (position + (xs.length + 1)) ys <;> simp [hp, h]

/-- The checks of tokens carry the positions of these. -/
theorem position_compileTokens {context : Context} {position : Nat} {tokens : List Token}
    {checks : List Check} (h : compileTokens context position tokens = .ok checks) {c : Check}
    (hc : c ∈ checks) : position ≤ c.position ∧ c.position < position + tokens.length := by
  induction tokens generalizing position checks with
  | nil =>
    simp only [compileTokens, Except.ok.injEq] at h
    simp [← h] at hc
  | cons t rest ih =>
    obtain ⟨r, more, _, hm, rfl⟩ := compileTokens_cons_ok h
    rw [List.length_cons]
    rcases List.mem_append.mp hc with hc | hc
    · have := (Rule.mem_checks hc).2
      omega
    · have := ih hm hc
      omega

/-- An absent value skips the checks of tokens if one of them is `optional`. -/
theorem any_isOptional_compileTokens {context : Context} {position : Nat} {tokens : List Token}
    {checks : List Check} (h : compileTokens context position tokens = .ok checks) :
    checks.any (fun c => c.predicate.isOptional) = tokens.any fun t => t.name == "optional" := by
  induction tokens generalizing position checks with
  | nil =>
    simp only [compileTokens, Except.ok.injEq] at h
    simp [← h]
  | cons t rest ih =>
    obtain ⟨r, more, hr, hm, rfl⟩ := compileTokens_cons_ok h
    have hn : decide (r.kind = .optional) = (t.name == "optional") := by
      rw [← Rule.kind_of_ofToken hr]
      cases r.kind <;> decide
    rw [List.any_append, List.any_cons, Rule.any_isOptional_checks, ih hm, hn]

/-! ## Positions -/

/-- The same check at a position further on. -/
def Check.shift (n : Nat) (c : Check) : Check := { c with position := c.position + n }

theorem Rule.checks_shift (r : Rule) (position n : Nat) (context : Context) :
    r.checks (position + n) context = (r.checks position context).map (Check.shift n) := by
  cases r <;> rfl

theorem compileTokens_shift (context : Context) (position n : Nat) (tokens : List Token) :
    compileTokens context (position + n) tokens =
      (compileTokens context position tokens).map (List.map (Check.shift n)) := by
  induction tokens generalizing position with
  | nil => rfl
  | cons t rest ih =>
    have hp : position + n + 1 = position + 1 + n := by omega
    simp only [compileTokens, hp, ih]
    cases Rule.ofToken t context with
    | error f => rfl
    | ok r =>
      cases compileTokens context (position + 1) rest with
      | error f => rfl
      | ok cs => simp [Except.map, Rule.checks_shift]

/-! ## Fields -/

/-- A field with these checks; its metadata is theirs, overlaid in order. -/
def Field.ofChecks (checks : List Check) : Field :=
  ⟨checks, Metadata.empty.overlayAll (checks.map Check.metadata)⟩

/-- The field that a rule string describes in a context. -/
def compile (rules : String) (context : Context) : Except Failure Field :=
  (compileTokens context 0 (Token.ofString rules)).map Field.ofChecks

/-- The checks of a rule string are those of its tokens. -/
theorem compile_ok {rules : String} {context : Context} {f : Field}
    (h : compile rules context = .ok f) :
    compileTokens context 0 (Token.ofString rules) = .ok f.checks := by
  simp only [compile] at h
  cases hc : compileTokens context 0 (Token.ofString rules) with
  | error e => simp [hc, Except.map] at h
  | ok checks =>
    simp only [hc, Except.map, Except.ok.injEq] at h
    rw [← h]
    rfl

theorem eq_ofChecks_of_compile {rules : String} {context : Context} {f : Field}
    (h : compile rules context = .ok f) : f = .ofChecks f.checks := by
  have hc := compile_ok h
  simp only [compile, hc, Except.map, Except.ok.injEq] at h
  exact h.symm

/-- Two rule strings with a bar between them: the checks of both, those of the second one at
positions further on. The first failure decides. -/
theorem compile_append {a b : String} (ha : a ≠ "") (hb : b ≠ "") (context : Context) :
    compile (a ++ "|" ++ b) context =
      match compile a context, compile b context with
      | .ok fa, .ok fb =>
        .ok (.ofChecks (fa.checks ++ fb.checks.map (Check.shift (Token.ofString a).length)))
      | .error f, _ => .error f
      | .ok _, .error f => .error f := by
  have hs := compileTokens_shift context 0 (Token.ofString a).length (Token.ofString b)
  simp only [compile, Token.ofString_append ha hb, compileTokens_append, hs]
  cases compileTokens context 0 (Token.ofString a) with
  | error f => rfl
  | ok cs =>
    cases compileTokens context 0 (Token.ofString b) with
    | error f => rfl
    | ok ds => rfl

theorem Field.metadata_ofChecks_append (xs ys : List Check) :
    (Field.ofChecks (xs ++ ys)).metadata =
      (Field.ofChecks xs).metadata.overlay (Field.ofChecks ys).metadata := by
  simp only [Field.ofChecks, List.map_append, Metadata.overlayAll_append]
  exact Metadata.overlayAll_eq _ _

/-! ## Schemas -/

/-- Declares a field by its rule string. -/
def Schema.declare (s : Schema) (name rules : String) (context : Context) :
    Except Failure Schema :=
  (compile rules context).map (s.insert name)

/-- The schemas that come of declarations, one after another. -/
inductive Schema.Built : Schema → Prop where
  | empty (name : String) : Built (Schema.empty name)
  | insert {s : Schema} (h : Built s) (name : String) (field : Field) : Built (s.insert name field)
  | declare {s t : Schema} {name rules : String} {context : Context} (h : Built s)
      (ht : s.declare name rules context = .ok t) : Built t

/-- Declaring a field by its rule string inserts what the string compiles to. -/
theorem Schema.declare_ok {s t : Schema} {name rules : String} {context : Context}
    (h : s.declare name rules context = .ok t) :
    ∃ f, compile rules context = .ok f ∧ t = s.insert name f := by
  simp only [declare] at h
  cases hc : compile rules context with
  | error e => simp [hc, Except.map] at h
  | ok f =>
    simp only [hc, Except.map, Except.ok.injEq] at h
    exact ⟨f, rfl, h.symm⟩

theorem Schema.nodup_names_insert {s : Schema} (h : s.names.Nodup) (name : String) (field : Field) :
    (s.insert name field).names.Nodup := by
  rw [names_insert]
  split
  · exact h
  · next hm =>
    refine List.nodup_append.mpr ⟨h, List.pairwise_singleton _ name, ?_⟩
    rintro other ho n hn rfl
    exact hm (List.mem_singleton.mp hn ▸ ho)

theorem Schema.Built.nodup_names {s : Schema} (h : s.Built) : s.names.Nodup := by
  induction h with
  | empty name => exact List.nodup_nil
  | insert _ name field ih => exact nodup_names_insert ih name field
  | declare _ ht ih =>
    obtain ⟨f, _, rfl⟩ := declare_ok ht
    exact nodup_names_insert ih _ f

end Rulebook
