import Rulebook.Proofs.Rule.Predicates
import Rulebook.Proofs.Validation.Unchanged

/-!
# What metadata says of values

Metadata promises a type, a format, bounds on the length and so on; a value that keeps all of these
promises is admitted. What passes the check of a rule is admitted by the metadata of that check,
and what several metadata admit is admitted by them overlaid, whichever key comes from where.

* `Metadata.Admits`: the values that metadata admits;
* `Metadata.Admits.overlay`, `Metadata.Admits.overlayAll`: metadata overlaid;
* `Metadata.Admits.congr_outline`: no promise is about what objects hold;
* `Rule.admits_of_mem_checks`: the metadata of a check.
-/

namespace Rulebook

/-! ## Promises -/

/-- Whether a value is of a documented type; types that are not in the list admit all values. -/
def Json.HasType (v : Json) : String → Prop
  | "string" => ∃ s, v = .string s
  | "integer" => ∃ n, v = .number n ∧ n.isWhole = true
  | "array" => ∃ items, v = .array items
  | "object" => ∃ members, v = .object members
  | _ => True

/-- Whether a value is of a documented format; formats that are not in the list admit all values. -/
def Json.HasFormat (v : Json) : String → Prop
  | "email" => Test.email.holds (some v) = true
  | "uuid" => Test.uuid.holds (some v) = true
  | _ => True

/-- Whether a value may be an element of an array whose items are documented like that. -/
def Json.IsItem (v : Json) : String → Prop
  | "string" => ∃ s, v = .string s
  | "number" => ∃ n, v = .number n
  | "object" => v = .null ∨ ∃ members, v = .object members
  | _ => False

/-- A value keeps what metadata says of it. The pattern is that of the context. -/
structure Metadata.Admits (m : Metadata) (context : Context) (v : Json) : Prop where
  minLength : ∀ n, m.minLength = some n → ∃ length, v.length? = some length ∧ n ≤ length
  maxLength : ∀ n, m.maxLength = some n → ∃ length, v.length? = some length ∧ length ≤ n
  pattern : ∀ source, m.pattern = some source → ∃ p s, context.pattern = some p ∧
    p.source = source ∧ v = .string s ∧ p.isMatch s = true
  type : ∀ name, m.type = some name → v.HasType name
  format : ∀ name, m.format = some name → v.HasFormat name
  isArray : ∀ b, m.isArray = some b → ∃ kind, m.items = some kind
  items : ∀ kind, m.items = some kind → ∃ items, v = .array items ∧ ∀ x ∈ items, x.IsItem kind

namespace Metadata.Admits

variable {context : Context} {u v : Json} {a b : Metadata}

/-! ## Overlaid metadata -/

theorem empty (context : Context) (v : Json) : Metadata.empty.Admits context v where
  minLength := nofun
  maxLength := nofun
  pattern := nofun
  type := nofun
  format := nofun
  isArray := nofun
  items := nofun

theorem overlay (ha : a.Admits context v) (hb : b.Admits context v) :
    (a.overlay b).Admits context v where
  minLength n h := (Option.or_eq_some_iff.mp h).elim (hb.minLength n) fun h => ha.minLength n h.2
  maxLength n h := (Option.or_eq_some_iff.mp h).elim (hb.maxLength n) fun h => ha.maxLength n h.2
  pattern s h := (Option.or_eq_some_iff.mp h).elim (hb.pattern s) fun h => ha.pattern s h.2
  type t h := (Option.or_eq_some_iff.mp h).elim (hb.type t) fun h => ha.type t h.2
  format t h := (Option.or_eq_some_iff.mp h).elim (hb.format t) fun h => ha.format t h.2
  isArray flag h := by
    -- the kind of the items may come from the other side than the key that needs it
    have hitems : b.items.isSome ∨ a.items.isSome :=
      (Option.or_eq_some_iff.mp h).imp (fun h => Option.isSome_iff_exists.mpr (hb.isArray flag h))
        fun h => Option.isSome_iff_exists.mpr (ha.isArray flag h.2)
    exact Option.isSome_iff_exists.mp (by simpa [Metadata.overlay] using hitems)
  items k h := (Option.or_eq_some_iff.mp h).elim (hb.items k) fun h => ha.items k h.2

theorem overlayAll {fragments : List Metadata} (ha : a.Admits context v)
    (h : ∀ m ∈ fragments, m.Admits context v) : (a.overlayAll fragments).Admits context v := by
  induction fragments generalizing a with
  | nil => exact ha
  | cons m rest ih =>
    obtain ⟨hm, hrest⟩ := List.forall_mem_cons.mp h
    exact ih (ha.overlay hm) hrest

end Metadata.Admits

/-! ## Outlines -/

theorem Json.length?_congr {u v : Json} (h : u.outline = v.outline) : u.length? = v.length? := by
  obtain rfl | ⟨_, _, rfl, rfl⟩ | ⟨xs, ys, rfl, rfl, hxs⟩ := outline_cases h
  · rfl
  · rfl
  · simpa [length?] using congrArg List.length hxs

theorem Json.HasType.congr {u v : Json} {name : String} (h : u.outline = v.outline)
    (hu : u.HasType name) : v.HasType name := by
  obtain rfl | ⟨_, _, rfl, rfl⟩ | ⟨_, _, rfl, rfl, _⟩ := outline_cases h
  · exact hu
  all_goals
    unfold HasType at hu ⊢
    split <;> simp_all

theorem Json.HasFormat.congr {u v : Json} {name : String} (h : u.outline = v.outline)
    (hu : u.HasFormat name) : v.HasFormat name := by
  obtain rfl | ⟨_, _, rfl, rfl⟩ | ⟨_, _, rfl, rfl, _⟩ := outline_cases h
  · exact hu
  all_goals exact hu

theorem Json.isItem_flat (v : Json) (kind : String) : v.flat.IsItem kind ↔ v.IsItem kind := by
  unfold IsItem
  cases v <;> split <;> simp [flat]

/-- What objects hold is of no matter to metadata. -/
theorem Metadata.Admits.congr_outline {m : Metadata} {context : Context} {u v : Json}
    (hu : m.Admits context u) (h : u.outline = v.outline) : m.Admits context v where
  minLength n hn := Json.length?_congr h ▸ hu.minLength n hn
  maxLength n hn := Json.length?_congr h ▸ hu.maxLength n hn
  pattern source hs := by
    obtain ⟨p, s, hp, hsource, rfl, hmatch⟩ := hu.pattern source hs
    obtain rfl | ⟨_, _, hs, _⟩ | ⟨_, _, hs, _⟩ := Json.outline_cases h
    · exact ⟨p, s, hp, hsource, rfl, hmatch⟩
    · cases hs
    · cases hs
  type name hn := (hu.type name hn).congr h
  format name hn := (hu.format name hn).congr h
  isArray := hu.isArray
  items kind hk := by
    obtain ⟨xs, rfl, hxs⟩ := hu.items kind hk
    obtain rfl | ⟨_, _, hs, _⟩ | ⟨_, ys, ⟨⟩, rfl, hflat⟩ := Json.outline_cases h
    · exact ⟨xs, rfl, hxs⟩
    · cases hs
    · refine ⟨ys, rfl, fun y hy => ?_⟩
      obtain ⟨x, hx, hxy⟩ := List.mem_map.mp (hflat ▸ List.mem_map_of_mem hy)
      rw [← Json.isItem_flat, ← hxy, Json.isItem_flat]
      exact hxs x hx

/-! ## Tests -/

namespace Test

variable {v : Json}

theorem holds_text_iff : text.holds (some v) = true ↔ ∃ s, v = .string s := by
  cases v <;> simp [holds, holdsOf]

theorem holds_number_iff : number.holds (some v) = true ↔ ∃ n, v = .number n := by
  cases v <;> simp [holds, holdsOf]

theorem holds_integer_iff :
    integer.holds (some v) = true ↔ ∃ n, v = .number n ∧ n.isWhole = true := by
  cases v <;> simp [holds, holdsOf]

theorem holds_sequence_iff : sequence.holds (some v) = true ↔ ∃ items, v = .array items := by
  cases v <;> simp [holds, holdsOf]

theorem holds_pattern_iff {p : Pattern} :
    (pattern p).holds (some v) = true ↔ ∃ s, v = .string s ∧ p.isMatch s = true := by
  cases v <;> simp [holds, holdsOf]

theorem holds_minLength_iff {n : Nat} :
    (minLength n).holds (some v) = true ↔ ∃ length, v.length? = some length ∧ n ≤ length := by
  cases h : v.length? <;> simp [holds, holdsOf, h]

theorem holds_maxLength_iff {n : Nat} :
    (maxLength n).holds (some v) = true ↔ ∃ length, v.length? = some length ∧ length ≤ n := by
  cases h : v.length? <;> simp [holds, holdsOf, h]

end Test

/-! ## Rules -/

/-- What a value that passed a predicate is known to be. -/
def Predicate.Certifies : Predicate → Json → Prop
  | .test t, v => t.holds (some v) = true
  | .nested _, v => v = .null ∨ ∃ members, v = .object members
  | .each inner, v => ∃ items, v = .array items ∧ ∀ x ∈ items, inner.Certifies x
  | .optional, _ => True
  | .coerceDate, _ => True
  | .lookup _, _ => True

theorem Rule.pattern_of_ofToken {t : Token} {context : Context} {p : Pattern}
    (h : ofToken t context = .ok (.pattern p)) : context.pattern = some p := by
  obtain ⟨q, hq, hqp⟩ := map_eq_ok.mp (ofKind_of_ofToken h)
  obtain rfl := pattern.inj hqp
  exact require_eq_ok.mp hq

/-- The check of the elements of an array documents what it tests. -/
theorem Rule.isItem_of_certifies {m : Metadata} {element : Element} {kind : String}
    (hk : (elementCheck m element).2.items = some kind) {v : Json}
    (h : (elementCheck m element).1.Certifies v) : v.IsItem kind := by
  cases element with
  | string =>
    obtain rfl := Option.some.inj hk
    exact Test.holds_text_iff.mp h
  | number =>
    obtain rfl := Option.some.inj hk
    exact Test.holds_number_iff.mp h
  | nested schema =>
    obtain rfl := Option.some.inj hk
    exact h

/-- What passed a check is admitted by the metadata of the check. -/
theorem Rule.admits_of_mem_checks {t : Token} {context : Context} {r : Rule}
    (hr : ofToken t context = .ok r) (hd : r.kind ≠ .date) (he : context.each = false)
    {position : Nat} {c : Check} (hc : c ∈ r.checks position context) {v : Json} (hv : v ≠ .null)
    (h : c.predicate.Certifies v) : c.metadata.Admits context v := by
  rw [checks, he] at hc
  have hf := Metadata.Admits.empty context v
  cases r with
  | date => exact absurd rfl hd
  | array element =>
    obtain rfl | rfl := List.mem_pair.mp hc
    · exact { hf with type := by rintro _ ⟨⟩; exact Test.holds_sequence_iff.mp h }
    · obtain ⟨items, rfl, hitems⟩ := h
      have hi : ∀ kind, (elementCheck _ element).2.items = some kind →
          ∃ xs, Json.array items = .array xs ∧ ∀ x ∈ xs, x.IsItem kind :=
        fun kind hk => ⟨items, rfl, fun x hx => isItem_of_certifies hk (hitems x hx)⟩
      cases element <;> exact { hf with isArray := fun _ _ => ⟨_, rfl⟩, items := hi }
  | email | uuid =>
    obtain rfl := List.mem_singleton.mp hc
    exact { hf with format := by rintro _ ⟨⟩; exact h }
  | string =>
    obtain rfl := List.mem_singleton.mp hc
    exact { hf with type := by rintro _ ⟨⟩; exact Test.holds_text_iff.mp h }
  | int =>
    obtain rfl := List.mem_singleton.mp hc
    exact { hf with type := by rintro _ ⟨⟩; exact Test.holds_integer_iff.mp h }
  | object schema =>
    obtain rfl := List.mem_singleton.mp hc
    exact { hf with type := by rintro _ ⟨⟩; exact h.resolve_left hv }
  | pattern p =>
    obtain rfl := List.mem_singleton.mp hc
    obtain ⟨s, hs, hm⟩ := Test.holds_pattern_iff.mp h
    exact { hf with pattern := by rintro _ ⟨⟩; exact ⟨p, s, pattern_of_ofToken hr, rfl, hs, hm⟩ }
  | min n =>
    obtain rfl := List.mem_singleton.mp hc
    exact { hf with minLength := by rintro _ ⟨⟩; exact Test.holds_minLength_iff.mp h }
  | max n =>
    obtain rfl := List.mem_singleton.mp hc
    exact { hf with maxLength := by rintro _ ⟨⟩; exact Test.holds_maxLength_iff.mp h }
  | required | optional | decimal | float | number | unique | exist | enum =>
    obtain rfl := List.mem_singleton.mp hc
    exact { hf with type := by rintro _ ⟨⟩ <;> trivial, format := by rintro _ ⟨⟩ <;> trivial }

end Rulebook
