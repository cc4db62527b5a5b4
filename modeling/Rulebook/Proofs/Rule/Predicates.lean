import Rulebook.Proofs.Field.Presence

/-!
# What rules make of predicates

A rule applies its predicate to the value or, where it is asked to, to the elements of an array; it
never goes into the elements of elements. Dates are coerced by the rule `date` alone, stores are
asked by `unique` and `exist`, and schemas are the ones that the context supplies. So a field that
is described by a rule string is known by its tokens and by the schemas of its context.

* `Rule.Uses`, `exists_uses_of_mem_checks`: the predicates of a rule;
* `coercion_of_mem_checks`: the rule `date`;
* `Context.Supplies`, `supplies_of_uses`: the schemas that rules refer to;
* `Field.Written`, `Schema.Written`: rule strings at any depth;
* `exists_uses_of_compile`, `Field.Written.schema`: fields.
-/

namespace Rulebook

/-! ## Predicates -/

namespace Predicate

def isEach : Predicate → Bool
  | each _ => true
  | _ => false

/-- The schema that a predicate refers to. -/
def schema? : Predicate → Option Schema
  | nested s => some s
  | each inner => inner.schema?
  | _ => none

theorem eq_nested_of_schema? {q : Predicate} {s : Schema} (hq : q.isEach = false)
    (h : q.schema? = some s) : q = nested s := by
  cases q with
  | nested t => rw [Option.some.inj h]
  | each inner => cases hq
  | _ => cases h

end Predicate

/-! ## Rules -/

namespace Rule

variable {r : Rule} {position : Nat} {context : Context} {c : Check}

/-- What is known of the predicate that a rule applies to the value or to its elements. -/
structure Uses (r : Rule) (q : Predicate) : Prop where
  flat : q.isEach = false
  coercion : q = .coerceDate → r.kind = .date
  lookup : ∀ l, q = .lookup l → r.kind = .unique ∨ r.kind = .exist
  nested : ∀ s, q = .nested s → r = .object s ∨ r = .array (.nested s)

theorem uses_test (r : Rule) (t : Test) : r.Uses (.test t) := ⟨rfl, nofun, nofun, nofun⟩

theorem own_predicate (p : Place) (q : Predicate) (m : Metadata) :
    (p.own q m).predicate = q ∨ (p.own q m).predicate = .each q := by
  cases h : p.each with
  | false => exact .inl (by simp [Place.own, h])
  | true => exact .inr (by simp [Place.own, h])

theorem uses_elementCheck (m : Metadata) (element : Element) :
    (array element).Uses (elementCheck m element).1 := by
  cases element with
  | string => exact uses_test _ _
  | number => exact uses_test _ _
  | nested schema => exact ⟨rfl, nofun, nofun, by rintro _ ⟨⟩; exact .inr rfl⟩

/-- The predicates of a rule are about the value or about its elements. -/
theorem exists_uses_of_mem_checks (h : c ∈ r.checks position context) :
    ∃ q, (c.predicate = q ∨ c.predicate = .each q) ∧ r.Uses q := by
  cases r with
  | optional =>
    obtain rfl := List.mem_singleton.mp h
    exact ⟨.optional, .inl rfl, rfl, nofun, nofun, nofun⟩
  | date =>
    obtain rfl | rfl := List.mem_pair.mp h
    · refine ⟨.coerceDate, ?_, rfl, fun _ => rfl, nofun, nofun⟩
      cases context.each with
      | false => exact .inl rfl
      | true => exact .inr rfl
    · exact ⟨.test .date, own_predicate _ _ _, uses_test _ _⟩
  | unique recordKind field =>
    obtain rfl := List.mem_singleton.mp h
    exact ⟨_, own_predicate _ _ _, rfl, nofun, fun _ _ => .inl rfl, nofun⟩
  | exist recordKind field =>
    obtain rfl := List.mem_singleton.mp h
    exact ⟨_, own_predicate _ _ _, rfl, nofun, fun _ _ => .inr rfl, nofun⟩
  | object schema =>
    obtain rfl := List.mem_singleton.mp h
    exact ⟨_, own_predicate _ _ _, rfl, nofun, nofun, by rintro _ ⟨⟩; exact .inl rfl⟩
  | array element =>
    obtain rfl | rfl := List.mem_pair.mp h
    · exact ⟨.test .sequence, .inl rfl, uses_test _ _⟩
    · exact ⟨_, .inr rfl, uses_elementCheck _ element⟩
  | _ =>
    obtain rfl := List.mem_singleton.mp h
    exact ⟨_, own_predicate _ _ _, uses_test _ _⟩

/-- A rule `date` coerces what it is about, the value or its elements. -/
theorem coercion_of_mem_checks (h : c ∈ r.checks position context) (hk : r.kind = .date) :
    ∃ d ∈ r.checks position context,
      d.predicate = if c.predicate.isEach then .each .coerceDate else .coerceDate := by
  cases r with
  | date =>
    refine ⟨_, List.mem_cons_self .., ?_⟩
    obtain rfl | rfl := List.mem_pair.mp h <;> cases context.each <;> rfl
  | _ => cases hk

end Rule

/-! ## Contexts -/

/-- Whether a context supplies a schema, for a rule `object` or for the elements of an array. -/
def Context.Supplies (context : Context) (s : Schema) : Prop :=
  context.nested = some s ∨ context.element = some (.nested s)

namespace Rule

theorem require_eq_ok {α : Type} {parameter : Option α} {name text : String} {a : α} :
    require parameter name text = .ok a ↔ parameter = some a := by
  cases parameter <;> simp [require]

theorem map_eq_ok {α β : Type} {x : Except Failure α} {f : α → β} {b : β} :
    x.map f = .ok b ↔ ∃ a, x = .ok a ∧ f a = b := by
  cases x <;> simp [Except.map]

theorem ofKind_of_ofToken {t : Token} {context : Context} {r : Rule}
    (h : ofToken t context = .ok r) : ofKind t context r.kind = .ok r := by
  simp only [ofToken] at h
  split at h
  · next k _ => rwa [kind_of_ofKind h]
  · cases h

theorem nested_of_ofToken {t : Token} {context : Context} {s : Schema}
    (h : ofToken t context = .ok (.object s)) : context.nested = some s := by
  obtain ⟨u, hu, hus⟩ := map_eq_ok.mp (ofKind_of_ofToken h)
  obtain rfl := object.inj hus
  exact require_eq_ok.mp hu

/-- No argument of a token names a schema. -/
theorem element_of_ofToken {t : Token} {context : Context} {s : Schema}
    (h : ofToken t context = .ok (.array (.nested s))) : context.element = some (.nested s) := by
  obtain ⟨u, hu, hus⟩ := map_eq_ok.mp (ofKind_of_ofToken h)
  obtain rfl := array.inj hus
  rcases Option.or_eq_some_iff.mp (require_eq_ok.mp hu) with helement | ⟨_, harg⟩
  · exact helement
  · obtain ⟨arg, _, harg⟩ := Option.bind_eq_some_iff.mp harg
    rcases (Element.ofArg?_eq_some_iff arg _).mp harg with ⟨_, hs⟩ | ⟨_, hs⟩
    · cases hs
    · cases hs

/-- The schemas that rules refer to are those of the context. -/
theorem supplies_of_uses {t : Token} {context : Context} {r : Rule}
    (hr : ofToken t context = .ok r) {s : Schema} (h : r.Uses (.nested s)) :
    context.Supplies s := by
  rcases h.nested s rfl with rfl | rfl
  · exact .inl (nested_of_ofToken hr)
  · exact .inr (element_of_ofToken hr)

end Rule

/-! ## Fields -/

section

variable {rules : String} {context : Context} {f : Field} {c : Check}

theorem exists_uses_of_compile (hf : compile rules context = .ok f) (hc : c ∈ f.checks) :
    ∃ t ∈ Token.ofString rules, ∃ r q, Rule.ofToken t context = .ok r ∧ c.kind = r.kind ∧
      (c.predicate = q ∨ c.predicate = .each q) ∧ r.Uses q := by
  obtain ⟨before, t, after, r, _, _, htokens, _, hr, hcr, _⟩ :=
    exists_token_of_mem (compile_ok hf) hc
  obtain ⟨q, hq, huses⟩ := Rule.exists_uses_of_mem_checks hcr
  exact ⟨t, by simp [htokens], r, q, hr, (Rule.mem_checks hcr).1, hq, huses⟩

/-- Behind a rule `date` there is a coercion. -/
theorem exists_coercion_of_compile (hf : compile rules context = .ok f) (hc : c ∈ f.checks)
    (hk : c.kind = .date) : ∃ d ∈ f.checks,
      d.predicate = if c.predicate.isEach then .each .coerceDate else .coerceDate := by
  obtain ⟨_, t, _, r, _, _, _, _, _, hcr, hchecks⟩ := exists_token_of_mem (compile_ok hf) hc
  obtain ⟨d, hd, hp⟩ := Rule.coercion_of_mem_checks hcr ((Rule.mem_checks hcr).1 ▸ hk)
  refine ⟨d, ?_, hp⟩
  rw [hchecks]
  exact List.mem_append_left _ (List.mem_append_right _ hd)

theorem supplies_of_compile (hf : compile rules context = .ok f) (hc : c ∈ f.checks) {s : Schema}
    (hs : c.predicate.schema? = some s) : context.Supplies s := by
  obtain ⟨t, _, r, q, hr, _, hq, huses⟩ := exists_uses_of_compile hf hc
  have hqs : q.schema? = some s := by
    rcases hq with hq | hq
    · exact hq ▸ hs
    · rw [hq] at hs
      exact hs
  obtain rfl := Predicate.eq_nested_of_schema? huses.flat hqs
  exact Rule.supplies_of_uses hr huses

end

/-! ## Rule strings at any depth -/

/-- The rules of the field, and those of the schemas nested in it at any depth, are written as rule
strings. -/
inductive Field.Written : Field → Prop where
  | compile {rules : String} {context : Context} {f : Field}
      (hf : Rulebook.compile rules context = .ok f)
      (hs : ∀ s, context.Supplies s → ∀ p ∈ s.fields, Written p.2) : Written f

def Schema.Written (s : Schema) : Prop := ∀ p ∈ s.fields, p.2.Written

theorem Field.Written.schema {f : Field} (hf : f.Written) {c : Check} (hc : c ∈ f.checks)
    {s : Schema} (hs : c.predicate.schema? = some s) : s.Written := by
  obtain ⟨hcompile, hschemas⟩ := hf
  exact hschemas s (supplies_of_compile hcompile hc hs)

theorem Schema.Written.empty (name : String) : (Schema.empty name).Written := by
  simp [Written, Schema.empty]

theorem Schema.Written.insert {s : Schema} (hs : s.Written) (name : String) {f : Field}
    (hf : f.Written) : (s.insert name f).Written := by
  intro p hp
  rcases eq_or_mem_of_mem_insertField hp with h | h
  · exact h ▸ hf
  · exact hs p h

theorem Schema.Written.declare {s t : Schema} (hs : s.Written) {name rules : String}
    {context : Context} (hc : ∀ u, context.Supplies u → u.Written)
    (ht : s.declare name rules context = .ok t) : t.Written := by
  obtain ⟨f, hf, rfl⟩ := declare_ok ht
  exact hs.insert name (.compile hf hc)

end Rulebook
