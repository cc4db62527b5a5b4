import Rulebook.Rule.Compile

/-!
# Where metadata comes from

The metadata of a compiled field is that of its checks, overlaid in order: under each key stands
what the last check says that says anything. And each check is one of those that a token of the rule
string contributes.

* `Metadata.key_overlayAll`, `findSome?_reverse_eq_some_iff`: the last fragment that sets a key
  decides;
* `exists_token_of_mem`: the token that a check comes from;
* `exists_check_of_key`: the check that a key comes from.
-/

namespace Rulebook

/-- The last element of a list that gives anything, and what it gives. -/
theorem findSome?_reverse_eq_some_iff {α β : Type} {f : α → Option β} {l : List α} {b : β} :
    l.reverse.findSome? f = some b ↔
      ∃ before a after, l = before ++ a :: after ∧ f a = some b ∧ ∀ x ∈ after, f x = none := by
  rw [List.findSome?_eq_some_iff]
  constructor
  · rintro ⟨after, a, before, hl, ha, hafter⟩
    refine ⟨before.reverse, a, after.reverse, ?_, ha, fun x hx => hafter x (List.mem_reverse.mp hx)⟩
    simpa using congrArg List.reverse hl
  · rintro ⟨before, a, after, rfl, ha, hafter⟩
    refine ⟨after.reverse, a, before.reverse, by simp, ha, fun x hx => ?_⟩
    exact hafter x (List.mem_reverse.mp hx)

/-- A key of metadata, of which the fragment that is laid over decides unless it leaves it unset. -/
structure Metadata.IsKey {α : Type} (key : Metadata → Option α) : Prop where
  empty : key Metadata.empty = none
  overlay : ∀ a b : Metadata, key (a.overlay b) = (key b).or (key a)

theorem Metadata.key_overlayAll {α : Type} {key : Metadata → Option α} (hkey : IsKey key)
    (base : Metadata) (fragments : List Metadata) :
    key (base.overlayAll fragments) = (fragments.reverse.findSome? key).or (key base) := by
  induction fragments generalizing base with
  | nil => rfl
  | cons m rest ih =>
    calc key ((base.overlay m).overlayAll rest)
        = (rest.reverse.findSome? key).or ((key m).or (key base)) := by rw [ih, hkey.overlay]
      _ = ((m :: rest).reverse.findSome? key).or (key base) := by
        simp [List.findSome?_append, Option.or_assoc, List.findSome?]
        cases key m <;> simp

/-! ## Checks of a rule string -/

/-- A check comes from a token, and the checks before and after it from the tokens before and after
that one, as far as they are not from the same token. -/
theorem exists_token_of_mem {context : Context} {position : Nat} {tokens : List Token}
    {checks : List Check} (h : compileTokens context position tokens = .ok checks) {c : Check}
    (hc : c ∈ checks) :
    ∃ before t after r start rest, tokens = before ++ t :: after ∧
      compileTokens context position before = .ok start ∧ Rule.ofToken t context = .ok r ∧
      c ∈ r.checks (position + before.length) context ∧
      checks = start ++ r.checks (position + before.length) context ++ rest := by
  induction tokens generalizing position checks with
  | nil =>
    obtain rfl := Except.ok.inj h
    cases hc
  | cons t tokens ih =>
    obtain ⟨r, more, hr, hm, rfl⟩ := compileTokens_cons_ok h
    rcases List.mem_append.mp hc with hc | hc
    · exact ⟨[], t, tokens, r, [], more, rfl, rfl, hr, hc, rfl⟩
    · obtain ⟨before, u, after, q, start, rest, rfl, hstart, hq, hcq, rfl⟩ := ih hm hc
      have hp : position + 1 + before.length = position + (t :: before).length := by
        rw [List.length_cons]
        omega
      rw [hp] at hcq ⊢
      refine ⟨t :: before, u, after, q, r.checks position context ++ start, rest, rfl, ?_, hq, hcq,
        by simp only [List.append_assoc]⟩
      simp [compileTokens, hr, hstart]

theorem key_of_compile {rules : String} {context : Context} {f : Field}
    (h : compile rules context = .ok f) {α : Type} {key : Metadata → Option α}
    (hkey : Metadata.IsKey key) :
    key f.metadata = f.checks.reverse.findSome? fun c => key c.metadata := by
  calc key f.metadata
      = ((f.checks.map Check.metadata).reverse.findSome? key).or none := by
        rw [eq_ofChecks_of_compile h, Field.ofChecks, Metadata.key_overlayAll hkey, hkey.empty]
    _ = f.checks.reverse.findSome? fun c => key c.metadata := by
        rw [Option.or_none, ← List.map_reverse, List.findSome?_map]
        rfl

/-- A key that the metadata of a field has was set by one of its checks. -/
theorem exists_check_of_key {rules : String} {context : Context} {f : Field}
    (h : compile rules context = .ok f) {α : Type} {key : Metadata → Option α}
    (hkey : Metadata.IsKey key) {a : α} (ha : key f.metadata = some a) :
    ∃ c ∈ f.checks, key c.metadata = some a := by
  rw [key_of_compile h hkey] at ha
  obtain ⟨c, hc, hcm⟩ := List.exists_of_findSome?_eq_some ha
  exact ⟨c, List.mem_reverse.mp hc, hcm⟩

end Rulebook
