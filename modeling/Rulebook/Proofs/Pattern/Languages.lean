import Rulebook.Pattern.Source
import Rulebook.Proofs.Pattern.Walks

/-!
# Texts that patterns describe

A pattern without tests of positions describes a set of texts, built up part by part. Wherever such
a pattern spans a part of a text, that part is one of these; and between the tests for both ends of
the text it matches those texts and no others, whatever is put around them.

* `Expr.Denotes`: the texts that a pattern describes;
* `Expr.spans_iff_denotes`: the parts of a text that it spans;
* `isMatch_anchored_iff`, `isMatch_of_anchored`: patterns between the tests for both ends;
* `denotesAll_append`, `denotes_optional`, `denotes_some`, `denotes_many_chars`: sequences and
  repetitions.
-/

namespace Rulebook.Pattern

/-! ## Languages -/

mutual

/-- The texts that a pattern describes; tests of positions describe none. -/
def Expr.Denotes : Expr → List Char → Prop
  | .empty, xs => xs = []
  | .text cs, xs => xs = cs
  | .chars set, xs => ∃ c, set.contains c = true ∧ xs = [c]
  | .edge _, _ => False
  | .group _ p, xs => p.Denotes xs
  | .seq ps, xs => DenotesAll ps xs
  | .alt ps, xs => DenotesAny ps xs
  | .many p least most _, xs =>
    ∃ (more : Nat) (parts : List (List Char)), (∀ m, most = some m → more ≤ m - least) ∧
      parts.length = least + more ∧ (∀ part ∈ parts, p.Denotes part) ∧ xs = parts.flatten

/-- Texts of the parts of a sequence, one after another. -/
def DenotesAll : List Expr → List Char → Prop
  | [], xs => xs = []
  | p :: ps, xs =>
    ∃ first rest : List Char, xs = first ++ rest ∧ p.Denotes first ∧ DenotesAll ps rest

def DenotesAny : List Expr → List Char → Prop
  | [], _ => False
  | p :: ps, xs => p.Denotes xs ∨ DenotesAny ps xs

end

mutual

/-- No part of a pattern tests a position. -/
def Expr.HasNoEdge : Expr → Prop
  | .edge _ => False
  | .group _ p => p.HasNoEdge
  | .seq ps => HaveNoEdge ps
  | .alt ps => HaveNoEdge ps
  | .many p _ _ _ => p.HasNoEdge
  | .empty | .text _ | .chars _ => True

def HaveNoEdge : List Expr → Prop
  | [] => True
  | p :: ps => p.HasNoEdge ∧ HaveNoEdge ps

end

/-! ## Parts of texts -/

variable {text : Array Char}

theorem standsAt_append {xs ys : List Char} {i j : Nat} :
    StandsAt text (xs ++ ys) i j ↔ ∃ k, StandsAt text xs i k ∧ StandsAt text ys k j := by
  induction xs generalizing i with
  | nil => simp [StandsAt]
  | cons x xs ih => simp [StandsAt, ih, and_assoc]

/-- What stands from a position to the end of the text is all that is left of it. -/
theorem standsAt_size_iff {xs : List Char} {i : Nat} :
    StandsAt text xs i text.size ↔ i ≤ text.size ∧ xs = text.toList.drop i := by
  induction xs generalizing i with
  | nil =>
    rw [StandsAt, eq_comm (a := []), List.drop_eq_nil_iff, Array.length_toList]
    omega
  | cons x xs ih =>
    rw [StandsAt, ih, Array.getElem?_eq_some_iff]
    constructor
    · rintro ⟨⟨hi, hx⟩, _, hxs⟩
      refine ⟨by omega, ?_⟩
      rw [List.drop_eq_getElem_cons (by simpa using hi), Array.getElem_toList, hx, hxs]
    · rintro ⟨hle, hdrop⟩
      have hi : i < text.size := by
        refine Nat.lt_of_le_of_ne hle ?_
        rintro rfl
        rw [← Array.length_toList, List.drop_length] at hdrop
        cases hdrop
      rw [List.drop_eq_getElem_cons (by simpa using hi), Array.getElem_toList] at hdrop
      injection hdrop with hhead htail
      exact ⟨⟨hi, hhead.symm⟩, hi, htail⟩

/-- Steps along texts go along the texts put together. -/
theorem times_iff_flatten {step : Nat → Nat → Prop} {describes : List Char → Prop}
    (h : ∀ i j, step i j ↔ ∃ xs, StandsAt text xs i j ∧ describes xs) {n i j : Nat} :
    Times step n i j ↔ ∃ parts : List (List Char), parts.length = n ∧
      (∀ part ∈ parts, describes part) ∧ StandsAt text parts.flatten i j := by
  induction n generalizing i with
  | zero =>
    constructor
    · exact fun hij => ⟨[], rfl, nofun, hij⟩
    · rintro ⟨parts, hlength, _, hstands⟩
      obtain rfl := List.eq_nil_of_length_eq_zero hlength
      exact hstands
  | succ n ih =>
    simp only [Times, h, ih]
    constructor
    · rintro ⟨k, ⟨xs, hxs, hd⟩, parts, hlength, hparts, hstands⟩
      refine ⟨xs :: parts, by rw [List.length_cons, hlength],
        List.forall_mem_cons.mpr ⟨hd, hparts⟩, ?_⟩
      exact standsAt_append.mpr ⟨k, hxs, hstands⟩
    · rintro ⟨parts, hlength, hparts, hstands⟩
      obtain ⟨xs, rest, rfl⟩ := List.exists_cons_of_length_eq_add_one hlength
      obtain ⟨hd, hrest⟩ := List.forall_mem_cons.mp hparts
      obtain ⟨k, hxs, hstands⟩ := standsAt_append.mp hstands
      exact ⟨k, ⟨xs, hxs, hd⟩, rest, Nat.succ.inj hlength, hrest, hstands⟩

/-! ## Spans and languages -/

mutual

/-- The parts of a text that a pattern spans are texts that it describes. -/
theorem Expr.spans_iff_denotes : ∀ {p : Expr}, p.HasNoEdge → ∀ {i j : Nat},
    p.Spans text i j ↔ ∃ xs, StandsAt text xs i j ∧ p.Denotes xs
  | .empty, _, i, j => by simp [Expr.Spans, Expr.Denotes, StandsAt]
  | .text cs, _, i, j => by simp [Expr.Spans, Expr.Denotes]
  | .chars set, _, i, j => by
    simp only [Expr.Spans, Expr.Denotes]
    constructor
    · rintro ⟨⟨c, hc, hset⟩, rfl⟩
      exact ⟨[c], ⟨hc, rfl⟩, c, hset, rfl⟩
    · rintro ⟨_, hstands, c, hset, rfl⟩
      exact ⟨⟨c, hstands.1, hset⟩, hstands.2.symm⟩
  | .edge _, h, _, _ => h.elim
  | .group _ p, h, i, j => Expr.spans_iff_denotes (p := p) h
  | .seq ps, h, i, j => @spansAll_iff_denotes ps h _ _
  | .alt ps, h, i, j => @spansAny_iff_denotes ps h _ _
  | .many p least most _, h, i, j => by
    have hp : ∀ i j, p.Spans text i j ↔ ∃ xs, StandsAt text xs i j ∧ p.Denotes xs :=
      fun i j => Expr.spans_iff_denotes (p := p) h
    simp only [Expr.Spans, Expr.Denotes, times_iff_flatten hp]
    constructor
    · rintro ⟨more, hmost, parts, hlength, hparts, hstands⟩
      exact ⟨_, hstands, more, parts, hmost, hlength, hparts, rfl⟩
    · rintro ⟨_, hstands, more, parts, hmost, hlength, hparts, rfl⟩
      exact ⟨more, hmost, parts, hlength, hparts, hstands⟩

theorem spansAll_iff_denotes : ∀ {ps : List Expr}, HaveNoEdge ps → ∀ {i j : Nat},
    SpansAll text ps i j ↔ ∃ xs, StandsAt text xs i j ∧ DenotesAll ps xs
  | [], _, i, j => by simp [SpansAll, DenotesAll, StandsAt]
  | p :: ps, h, i, j => by
    simp only [SpansAll, DenotesAll, Expr.spans_iff_denotes h.1, spansAll_iff_denotes h.2]
    constructor
    · rintro ⟨k, ⟨xs, hxs, hp⟩, ys, hys, hps⟩
      exact ⟨xs ++ ys, standsAt_append.mpr ⟨k, hxs, hys⟩, xs, ys, rfl, hp, hps⟩
    · rintro ⟨_, hstands, xs, ys, rfl, hp, hps⟩
      obtain ⟨k, hxs, hys⟩ := standsAt_append.mp hstands
      exact ⟨k, ⟨xs, hxs, hp⟩, ys, hys, hps⟩

theorem spansAny_iff_denotes : ∀ {ps : List Expr}, HaveNoEdge ps → ∀ {i j : Nat},
    SpansAny text ps i j ↔ ∃ xs, StandsAt text xs i j ∧ DenotesAny ps xs
  | [], _, i, j => by simp [SpansAny, DenotesAny]
  | p :: ps, h, i, j => by
    simp only [SpansAny, DenotesAny, Expr.spans_iff_denotes h.1, spansAny_iff_denotes h.2,
      and_or_left, exists_or]

end

/-! ## Whole texts -/

theorem spansAll_append {ps qs : List Expr} {i j : Nat} :
    SpansAll text (ps ++ qs) i j ↔ ∃ k, SpansAll text ps i k ∧ SpansAll text qs k j := by
  induction ps generalizing i with
  | nil => simp [SpansAll]
  | cons p ps ih =>
    simp only [List.cons_append, SpansAll, ih]
    constructor
    · rintro ⟨l, hl, k, hk, hj⟩
      exact ⟨k, ⟨l, hl, hk⟩, hj⟩
    · rintro ⟨k, ⟨l, hl, hk⟩, hj⟩
      exact ⟨l, hl, k, hk, hj⟩

theorem Edge.holdsAt_start_iff {i : Nat} : Edge.start.HoldsAt text i ↔ i = 0 := by
  rw [Edge.HoldsAt, Edge.holds_start_iff]
  constructor
  · rintro ⟨hi, hnone⟩
    by_cases h0 : i = 0
    · exact h0
    · rw [if_neg h0, Array.getElem?_eq_none_iff] at hnone
      omega
  · rintro rfl
    exact ⟨Nat.zero_le _, rfl⟩

theorem Edge.holdsAt_stop_iff {i : Nat} : Edge.stop.HoldsAt text i ↔ i = text.size := by
  rw [Edge.HoldsAt, Edge.holds_stop_iff, Array.getElem?_eq_none_iff]
  omega

/-- The pattern of some parts between the tests for both ends of the text. -/
def anchored (ps : List Expr) : Expr := .seq (.edge .start :: (ps ++ [.edge .stop]))

/-- A pattern between the tests for both ends matches the texts that it describes. -/
theorem isMatch_anchored_iff {ps : List Expr} (h : HaveNoEdge ps) :
    (anchored ps).isMatch text = true ↔ DenotesAll ps text.toList := by
  have hspans : ∀ i j, (anchored ps).Spans text i j ↔
      i = 0 ∧ j = text.size ∧ SpansAll text ps 0 text.size := by
    intro i j
    simp only [anchored, Expr.Spans, SpansAll, spansAll_append, Edge.holdsAt_start_iff,
      Edge.holdsAt_stop_iff]
    constructor
    · rintro ⟨_, ⟨rfl, rfl⟩, k, hk, _, ⟨rfl, rfl⟩, rfl⟩
      exact ⟨rfl, rfl, hk⟩
    · rintro ⟨rfl, rfl, hk⟩
      exact ⟨0, ⟨rfl, rfl⟩, text.size, hk, text.size, ⟨rfl, rfl⟩, rfl⟩
  rw [Expr.isMatch_iff]
  simp only [hspans]
  constructor
  · rintro ⟨_, _, _, rfl, rfl, hall⟩
    obtain ⟨xs, hstands, hxs⟩ := (spansAll_iff_denotes h).mp hall
    obtain ⟨_, rfl⟩ := standsAt_size_iff.mp hstands
    exact hxs
  · intro hall
    have hstands : StandsAt text text.toList 0 text.size :=
      standsAt_size_iff.mpr ⟨Nat.zero_le _, rfl⟩
    exact ⟨0, text.size, Nat.zero_le _, rfl, rfl, (spansAll_iff_denotes h).mpr ⟨_, hstands, hall⟩⟩

theorem isMatch_of_anchored {source : String} {ps : List Expr}
    (h : HaveNoEdge ps) (text : String) :
    Pattern.isMatch ⟨source, anchored ps⟩ text = true ↔
      DenotesAll ps text.toList := by
  rw [Pattern.isMatch, isMatch_anchored_iff h, List.toList_toArray]

/-! ## Sequences and repetitions -/

theorem denotesAll_append {ps qs : List Expr} {xs : List Char} :
    DenotesAll (ps ++ qs) xs ↔
      ∃ first rest, xs = first ++ rest ∧ DenotesAll ps first ∧ DenotesAll qs rest := by
  induction ps generalizing xs with
  | nil =>
    constructor
    · exact fun h => ⟨[], xs, rfl, rfl, h⟩
    · rintro ⟨_, rest, rfl, rfl, h⟩
      exact h
  | cons p ps ih =>
    simp only [List.cons_append, DenotesAll, ih]
    constructor
    · rintro ⟨a, _, rfl, ha, b, c, rfl, hb, hc⟩
      exact ⟨a ++ b, c, by rw [List.append_assoc], ⟨a, b, rfl, ha, hb⟩, hc⟩
    · rintro ⟨_, c, rfl, ⟨a, b, rfl, ha, hb⟩, hc⟩
      exact ⟨a, b ++ c, by rw [List.append_assoc], ha, b, c, rfl, hb, hc⟩

/-- A text of the first part, and of the rest behind it. -/
theorem denotesAll_text_cons {cs : List Char} {ps : List Expr} {xs : List Char} :
    DenotesAll (.text cs :: ps) xs ↔ ∃ rest, xs = cs ++ rest ∧ DenotesAll ps rest := by
  constructor
  · rintro ⟨_, rest, rfl, rfl, h⟩
    exact ⟨rest, rfl, h⟩
  · rintro ⟨rest, rfl, h⟩
    exact ⟨cs, rest, rfl, rfl, h⟩

theorem denotesAll_chars_cons {set : CharSet} {ps : List Expr} {xs : List Char} :
    DenotesAll (.chars set :: ps) xs ↔
      ∃ c rest, xs = c :: rest ∧ set.contains c = true ∧ DenotesAll ps rest := by
  constructor
  · rintro ⟨_, rest, rfl, ⟨c, hc, rfl⟩, h⟩
    exact ⟨c, rest, rfl, hc, h⟩
  · rintro ⟨c, rest, rfl, hc, h⟩
    exact ⟨[c], rest, rfl, ⟨c, hc, rfl⟩, h⟩

theorem denotesAll_singleton {p : Expr} {xs : List Char} :
    DenotesAll [p] xs ↔ p.Denotes xs := by
  constructor
  · rintro ⟨first, _, rfl, hp, rfl⟩
    rwa [List.append_nil]
  · exact fun hp => ⟨xs, [], (List.append_nil xs).symm, hp, rfl⟩

/-- What may be left out. -/
theorem denotes_optional {p : Expr} {isLazy : Bool} {xs : List Char} :
    (Expr.many p 0 (some 1) isLazy).Denotes xs ↔ xs = [] ∨ p.Denotes xs := by
  simp only [Expr.Denotes]
  constructor
  · rintro ⟨more, parts, hmost, hlength, hparts, rfl⟩
    have hmore := hmost 1 rfl
    match parts, hlength, hparts with
    | [], _, _ => exact .inl rfl
    | [part], _, hparts => exact .inr (by simpa using hparts)
    | _ :: _ :: _, hlength, _ =>
      simp only [List.length_cons] at hlength
      omega
  · rintro (rfl | hp)
    · exact ⟨0, [], fun m _ => Nat.zero_le _, rfl, nofun, rfl⟩
    · refine ⟨1, [xs], ?_, rfl, by simpa using hp, by simp⟩
      rintro m ⟨⟩
      exact Nat.le_refl _

/-- What stands there once at least. -/
theorem denotes_some {p : Expr} {isLazy : Bool} {xs : List Char} :
    (Expr.many p 1 none isLazy).Denotes xs ↔
      ∃ parts, parts ≠ [] ∧ (∀ part ∈ parts, p.Denotes part) ∧ xs = parts.flatten := by
  simp only [Expr.Denotes]
  constructor
  · rintro ⟨more, parts, _, hlength, hparts, rfl⟩
    refine ⟨parts, ?_, hparts, rfl⟩
    rintro rfl
    simp at hlength
    omega
  · rintro ⟨parts, hne, hparts, rfl⟩
    have hlength := List.length_pos_iff.mpr hne
    exact ⟨parts.length - 1, parts, nofun, by omega, hparts, rfl⟩

theorem flatten_of_singletons {test : Char → Prop} {parts : List (List Char)}
    (h : ∀ part ∈ parts, ∃ c, test c ∧ part = [c]) :
    parts.flatten.length = parts.length ∧ ∀ c ∈ parts.flatten, test c := by
  induction parts with
  | nil => exact ⟨rfl, nofun⟩
  | cons part rest ih =>
    obtain ⟨⟨c, hc, rfl⟩, hrest⟩ := List.forall_mem_cons.mp h
    obtain ⟨hlength, htest⟩ := ih hrest
    exact ⟨by simp [hlength], List.forall_mem_cons.mpr ⟨hc, htest⟩⟩

/-- A repetition of characters of a set is a text of these, of a length within the bounds. -/
theorem denotes_many_chars {set : CharSet} {least : Nat} {most : Option Nat} {isLazy : Bool}
    {xs : List Char} :
    (Expr.many (.chars set) least most isLazy).Denotes xs ↔
      (least ≤ xs.length ∧ ∀ m, most = some m → xs.length - least ≤ m - least) ∧
        ∀ c ∈ xs, set.contains c = true := by
  simp only [Expr.Denotes]
  constructor
  · rintro ⟨more, parts, hmost, hlength, hparts, rfl⟩
    obtain ⟨hflat, htest⟩ := flatten_of_singletons hparts
    rw [hflat, hlength]
    exact ⟨⟨by omega, fun m hm => by have := hmost m hm; omega⟩, htest⟩
  · rintro ⟨⟨hleast, hmost⟩, htest⟩
    refine ⟨xs.length - least, xs.map fun c => [c], hmost, ?_, ?_, ?_⟩
    · rw [List.length_map]
      omega
    · intro part hpart
      obtain ⟨c, hc, rfl⟩ := List.mem_map.mp hpart
      exact ⟨c, htest c hc, rfl⟩
    · rw [← List.flatMap_def, List.flatMap_singleton']

end Rulebook.Pattern
