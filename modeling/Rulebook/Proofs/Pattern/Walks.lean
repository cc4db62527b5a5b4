import Mathlib.Algebra.Group.Nat.Defs
import Rulebook.Pattern.Matching

/-!
# What matching finds

Where a pattern can begin and end in a text is a relation between positions, read off the pattern
part by part. Matching computes with sets of positions instead, in numbers: a walk takes a set to
all positions that the relation leads to. Repetitions stop early there, since a repetition that
makes headway ends within the text; and those of a set of characters run along the carries of a sum.

* `Expr.Spans`: where a pattern begins and ends;
* `testBit_positions`, `Walk.testBit_runThrough_succ`: sets of positions as numbers;
* `Walk.Follows.times`, `Walk.Follows.spread`: repetitions;
* `follows_walk`: a walk goes where its pattern leads;
* `Expr.isMatch_iff`: a text matches if the pattern spans some part of it.
-/

namespace Rulebook.Pattern

/-! ## Where patterns begin and end -/

/-- From one position to another by so many steps. -/
def Times (step : Nat → Nat → Prop) : Nat → Nat → Nat → Prop
  | 0, i, j => i = j
  | n + 1, i, j => ∃ k, step i k ∧ Times step n k j

/-- Characters stand one after another between two positions. -/
def StandsAt (text : Array Char) : List Char → Nat → Nat → Prop
  | [], i, j => i = j
  | c :: cs, i, j => text[i]? = some c ∧ StandsAt text cs (i + 1) j

/-- A test holds between the characters around a position. -/
def Edge.HoldsAt (e : Edge) (text : Array Char) (i : Nat) : Prop :=
  i ≤ text.size ∧ e.holds (if i = 0 then none else text[i - 1]?) text[i]? = true

mutual

/-- A match may begin at the first position and end at the second one. A repetition is made at
least `least` times, and then up to its bound. -/
def Expr.Spans (text : Array Char) : Expr → Nat → Nat → Prop
  | .empty, i, j => i = j
  | .text cs, i, j => StandsAt text cs i j
  | .chars set, i, j => (∃ c, text[i]? = some c ∧ set.contains c = true) ∧ j = i + 1
  | .edge e, i, j => e.HoldsAt text i ∧ i = j
  | .group _ p, i, j => p.Spans text i j
  | .seq ps, i, j => SpansAll text ps i j
  | .alt ps, i, j => SpansAny text ps i j
  | .many p least most _, i, j =>
    ∃ more, (∀ m, most = some m → more ≤ m - least) ∧ Times (p.Spans text) (least + more) i j

/-- The parts of a sequence, one after another. -/
def SpansAll (text : Array Char) : List Expr → Nat → Nat → Prop
  | [], i, j => i = j
  | p :: ps, i, j => ∃ k, p.Spans text i k ∧ SpansAll text ps k j

/-- One of the parts of a choice. -/
def SpansAny (text : Array Char) : List Expr → Nat → Nat → Prop
  | [], _, _ => False
  | p :: ps, i, j => p.Spans text i j ∨ SpansAny text ps i j

end

/-! ## Steps that make headway -/

theorem times_add {step : Nat → Nat → Prop} {m n i j : Nat} :
    Times step (m + n) i j ↔ ∃ k, Times step m i k ∧ Times step n k j := by
  induction m generalizing i with
  | zero => simp [Times]
  | succ m ih =>
    rw [Nat.succ_add]
    simp only [Times, ih]
    constructor
    · rintro ⟨l, hl, k, hk, hj⟩
      exact ⟨k, ⟨l, hl, hk⟩, hj⟩
    · rintro ⟨k, ⟨l, hl, hk⟩, hj⟩
      exact ⟨l, hl, k, hk, hj⟩

theorem times_succ_last {step : Nat → Nat → Prop} {n i j : Nat} :
    Times step (n + 1) i j ↔ ∃ k, Times step n i k ∧ step k j := by
  rw [times_add]
  simp [Times]

/-- A step stays where it is, or goes on within the text. -/
def Onward (text : Array Char) (step : Nat → Nat → Prop) : Prop :=
  ∀ i j, step i j → i = j ∨ (i < j ∧ j ≤ text.size)

variable {text : Array Char}

theorem Onward.trans {i j k : Nat} (hij : i = j ∨ (i < j ∧ j ≤ text.size))
    (hjk : j = k ∨ (j < k ∧ k ≤ text.size)) : i = k ∨ (i < k ∧ k ≤ text.size) := by omega

theorem Onward.times {step : Nat → Nat → Prop} (h : Onward text step) (n : Nat) :
    Onward text (Times step n) := by
  induction n with
  | zero => exact fun i j hij => .inl hij
  | succ n ih =>
    rintro i j ⟨k, hik, hkj⟩
    exact Onward.trans (h i k hik) (ih k j hkj)

/-- Steps that stay where they are can be left out. -/
theorem Onward.exists_times_le {step : Nat → Nat → Prop} (h : Onward text step) {n i j : Nat}
    (hn : Times step n i j) : ∃ m, m ≤ n ∧ m ≤ text.size ∧ m ≤ j - i ∧ Times step m i j := by
  induction n generalizing i with
  | zero => exact ⟨0, by omega, by omega, by omega, hn⟩
  | succ n ih =>
    obtain ⟨k, hik, hkj⟩ := hn
    obtain ⟨m, hmn, hms, hmj, hm⟩ := ih hkj
    rcases h i k hik with rfl | ⟨hlt, hks⟩
    · exact ⟨m, by omega, hms, hmj, hm⟩
    · have hkj' := h.times m k j hm
      exact ⟨m + 1, by omega, by omega, by omega, k, hik, hm⟩

theorem onward_standsAt (cs : List Char) : Onward text (StandsAt text cs) := by
  induction cs with
  | nil => exact fun i j hij => .inl hij
  | cons c cs ih =>
    rintro i j ⟨hc, hcs⟩
    obtain ⟨hi, _⟩ := Array.getElem?_eq_some_iff.mp hc
    have := ih (i + 1) j hcs
    omega

mutual

theorem onward_spans : ∀ p : Expr, Onward text (p.Spans text)
  | .empty => fun i j hij => .inl hij
  | .text cs => onward_standsAt cs
  | .chars set => by
    rintro i j ⟨⟨c, hc, _⟩, rfl⟩
    obtain ⟨hi, _⟩ := Array.getElem?_eq_some_iff.mp hc
    omega
  | .edge e => fun i j hij => .inl hij.2
  | .group _ p => onward_spans p
  | .seq ps => onward_spansAll ps
  | .alt ps => onward_spansAny ps
  | .many p least most _ => by
    rintro i j ⟨more, _, htimes⟩
    exact (onward_spans p).times _ i j htimes

theorem onward_spansAll : ∀ ps : List Expr, Onward text (SpansAll text ps)
  | [] => fun i j hij => .inl hij
  | p :: ps => by
    rintro i j ⟨k, hik, hkj⟩
    exact Onward.trans (onward_spans p i k hik) (onward_spansAll ps k j hkj)

theorem onward_spansAny : ∀ ps : List Expr, Onward text (SpansAny text ps)
  | [] => nofun
  | p :: ps => by
    rintro i j (hij | hij)
    · exact onward_spans p i j hij
    · exact onward_spansAny ps i j hij

end

/-! ## Sets of positions -/

/-- The positions that pass a test are those below the power that do. -/
theorem testBit_positions (test : Nat → Bool) (first power i : Nat) :
    (positions test first power).testBit i = (decide (i < 2 ^ power) && test (first + i)) := by
  induction power generalizing first i with
  | zero =>
    rw [positions, Nat.testBit_bool_toNat]
    by_cases hi : i = 0 <;> simp [hi]
  | succ power ih =>
    have hlow : positions test first power < 2 ^ 2 ^ power := by
      refine Nat.lt_pow_two_of_testBit _ fun j hj => ?_
      rw [ih]
      simp [Nat.not_lt.mpr hj]
    have hsum : positions test first (power + 1) =
        2 ^ 2 ^ power * positions test (first + 2 ^ power) power + positions test first power := by
      rw [positions, Nat.one_shiftLeft, Nat.shiftLeft_eq, Nat.mul_comm, Nat.add_comm]
    have hpower : 2 ^ (power + 1) = 2 ^ power + 2 ^ power := by omega
    rw [hsum, Nat.testBit_two_pow_mul_add _ hlow, ih, ih, hpower]
    split
    · next hi => simp [hi, Nat.lt_add_right _ hi]
    · next hi =>
      have hsub : first + 2 ^ power + (i - 2 ^ power) = first + i := by omega
      have hlt : i - 2 ^ power < 2 ^ power ↔ i < 2 ^ power + 2 ^ power := by omega
      simp [hsub, hlt]

/-- The text fits into the power that its sets of positions have. -/
theorem lt_two_pow_textPower (text : Array Char) : text.size + 1 < 2 ^ textPower text :=
  Nat.lt_log2_self

theorem testBit_before (set : CharSet) (i : Nat) :
    (before set text).testBit i = true ↔ ∃ c, text[i]? = some c ∧ set.contains c = true := by
  have hpower := lt_two_pow_textPower text
  simp only [before, testBit_positions, Nat.zero_add, Bool.and_eq_true, decide_eq_true_eq,
    Option.any_eq_true]
  constructor
  · exact And.right
  · rintro ⟨c, hc, hset⟩
    obtain ⟨hi, _⟩ := Array.getElem?_eq_some_iff.mp hc
    exact ⟨by omega, c, hc, hset⟩

theorem testBit_passing (e : Edge) (i : Nat) :
    (passing e text).testBit i = true ↔ e.HoldsAt text i := by
  have hpower := lt_two_pow_textPower text
  simp only [passing, testBit_positions, Nat.zero_add, Bool.and_eq_true, decide_eq_true_eq,
    Edge.HoldsAt]
  exact ⟨And.right, fun h => ⟨by omega, h⟩⟩

theorem testBit_everywhere (i : Nat) :
    (everywhere text).testBit i = true ↔ i ≤ text.size := by
  rw [everywhere, Nat.one_shiftLeft, Nat.testBit_two_pow_sub_one, decide_eq_true_iff,
    Nat.lt_succ_iff]

/-- The positions behind those of a set that are in a mask, too. -/
theorem testBit_next (s mask j : Nat) :
    ((s &&& mask) <<< 1).testBit j = true ↔
      ∃ i, s.testBit i = true ∧ mask.testBit i = true ∧ j = i + 1 := by
  cases j with
  | zero => simp
  | succ j =>
    rw [Nat.testBit_shiftLeft, Nat.testBit_and]
    simp

/-! ## Walks -/

namespace Walk

/-- A walk takes every set of positions to those that a step leads to. -/
def Follows (w : Walk) (step : Nat → Nat → Prop) : Prop :=
  ∀ s j, (w.run s).testBit j = true ↔ ∃ i, s.testBit i = true ∧ step i j

variable {w : Walk} {step : Nat → Nat → Prop}

theorem times_of_fixed {s : Positions} (h : w.run s = s) (n : Nat) : w.times n s = s := by
  cases n with
  | zero => rfl
  | succ n => simp [times, h]

theorem times_succ (w : Walk) (n : Nat) (s : Positions) :
    w.times (n + 1) s = w.times n (w.run s) := by
  simp only [times]
  split
  · next h => rw [h, times_of_fixed h]
  · rfl

theorem Follows.times (h : w.Follows step) (n : Nat) :
    Follows ⟨w.times n⟩ (Times step n) := by
  induction n with
  | zero => exact fun s j => by simp [Walk.times, Times]
  | succ n ih =>
    intro s j
    have hnext := ih (w.run s) j
    simp only [h s, times_succ, Times] at hnext ⊢
    rw [hnext]
    constructor
    · rintro ⟨k, ⟨i, hi, hik⟩, hkj⟩
      exact ⟨i, hi, k, hik, hkj⟩
    · rintro ⟨i, hi, k, hik, hkj⟩
      exact ⟨k, ⟨i, hi, hik⟩, hkj⟩

theorem testBit_new (next reached j : Nat) :
    (next ^^^ (next &&& reached)).testBit j = (next.testBit j && !reached.testBit j) := by
  rw [Nat.testBit_xor, Nat.testBit_and]
  cases next.testBit j <;> cases reached.testBit j <;> rfl

/-- No number of steps leads out of positions that no step leads out of. -/
theorem testBit_of_times {s : Positions}
    (hclosed : ∀ i j, s.testBit i = true → step i j → s.testBit j = true) {n i j : Nat}
    (hi : s.testBit i = true) (hij : Times step n i j) : s.testBit j = true := by
  induction n generalizing i with
  | zero => exact hij ▸ hi
  | succ n ih =>
    obtain ⟨k, hik, hkj⟩ := hij
    exact ih (hclosed i k hi hik) hkj

/-- One round: the positions that are one step away from those reached so far are reached now. -/
theorem Follows.testBit_round (h : w.Follows step) {latest reached : Positions}
    (hclosed : ∀ i j, reached.testBit i = true → latest.testBit i = false → step i j →
      reached.testBit j = true) {i j : Nat} (hi : reached.testBit i = true) (hij : step i j) :
    (reached ||| (w.run latest ^^^ (w.run latest &&& reached))).testBit j = true := by
  rw [Nat.testBit_or, testBit_new]
  cases hl : latest.testBit i with
  | false => rw [hclosed i j hi hl hij, Bool.true_or]
  | true =>
    have hj := (h latest j).mpr ⟨i, hl, hij⟩
    cases reached.testBit j <;> simp [hj]

/-- What is reached within some rounds, if only the positions reached last lead to new ones. -/
theorem Follows.testBit_spread (h : w.Follows step) (rounds : Nat) {latest reached : Positions}
    (hlatest : ∀ i, latest.testBit i = true → reached.testBit i = true)
    (hclosed : ∀ i j, reached.testBit i = true → latest.testBit i = false → step i j →
      reached.testBit j = true) (j : Nat) :
    (w.spread rounds latest reached).testBit j = true ↔
      ∃ i n, reached.testBit i = true ∧ n ≤ rounds ∧ Times step n i j := by
  induction rounds generalizing latest reached with
  | zero =>
    constructor
    · exact fun hj => ⟨j, 0, hj, Nat.le_refl 0, rfl⟩
    · rintro ⟨i, n, hi, hn, hij⟩
      obtain rfl := Nat.le_zero.mp hn
      obtain rfl : i = j := hij
      exact hi
  | succ rounds ih =>
    rw [Walk.spread]
    split
    · next hnone =>
      subst hnone
      constructor
      · exact fun hj => ⟨j, 0, hj, Nat.zero_le _, rfl⟩
      · rintro ⟨i, n, hi, -, hij⟩
        exact testBit_of_times (fun i j hi => hclosed i j hi (Nat.zero_testBit i)) hi hij
    · rw [ih]
      · constructor
        · rintro ⟨i, n, hi, hn, hij⟩
          rw [Nat.testBit_or, testBit_new, Bool.or_eq_true, Bool.and_eq_true] at hi
          rcases hi with hi | ⟨hi, _⟩
          · exact ⟨i, n, hi, by omega, hij⟩
          · obtain ⟨k, hk, hki⟩ := (h latest i).mp hi
            exact ⟨k, n + 1, hlatest k hk, by omega, i, hki, hij⟩
        · rintro ⟨i, n, hi, hn, hij⟩
          cases n with
          | zero =>
            obtain rfl : i = j := hij
            exact ⟨i, 0, by simp [Nat.testBit_or, hi], Nat.zero_le _, rfl⟩
          | succ n =>
            obtain ⟨k, hik, hkj⟩ := hij
            exact ⟨k, n, h.testBit_round hclosed hi hik, by omega, hkj⟩
      · intro i hi
        rw [Nat.testBit_or, hi, Bool.or_true]
      · intro i k hi hnew hik
        rw [Nat.testBit_or, hnew, Bool.or_false] at hi
        exact h.testBit_round hclosed hi hik

theorem Follows.spread (h : w.Follows step) (rounds : Nat) :
    Follows ⟨fun s => w.spread rounds s s⟩ fun i j => ∃ n, n ≤ rounds ∧ Times step n i j := by
  intro s j
  have hclosed : ∀ i j, s.testBit i = true → s.testBit i = false → step i j →
      s.testBit j = true := by
    intro i j hi hnew
    rw [hi] at hnew
    cases hnew
  simp only [h.testBit_spread rounds (fun _ hi => hi) hclosed]
  constructor
  · rintro ⟨i, n, hi, hn⟩
    exact ⟨i, hi, n, hn⟩
  · rintro ⟨i, hi, n, hn⟩
    exact ⟨i, n, hi, hn⟩

theorem Follows.id : Follows ⟨fun s => s⟩ fun i j => i = j := by
  intro s j
  simp

theorem Follows.comp {v : Walk} {next : Nat → Nat → Prop} (h : w.Follows step)
    (hv : v.Follows next) :
    Follows ⟨fun s => v.run (w.run s)⟩ fun i j => ∃ k, step i k ∧ next k j := by
  intro s j
  simp only [hv _ j, h s]
  constructor
  · rintro ⟨k, ⟨i, hi, hik⟩, hkj⟩
    exact ⟨i, hi, k, hik, hkj⟩
  · rintro ⟨i, hi, k, hik, hkj⟩
    exact ⟨k, ⟨i, hi, hik⟩, hkj⟩

theorem Follows.congr {other : Nat → Nat → Prop} (h : w.Follows step)
    (hsame : ∀ i j, step i j ↔ other i j) : w.Follows other := by
  intro s j
  simp only [h s j, hsame]

/-! ## Runs of characters -/

theorem testBit_sum (x y : Nat) {size i : Nat} (hi : i < size) :
    (x + y).testBit i = (x.testBit i ^^ (y.testBit i ^^
      BitVec.carry i (BitVec.ofNat size x) (BitVec.ofNat size y) false)) := by
  have h := BitVec.getLsbD_add hi (BitVec.ofNat size x) (BitVec.ofNat size y)
  rw [← BitVec.ofNat_add] at h
  simpa only [BitVec.getLsbD_ofNat, hi, decide_true, Bool.true_and] using h

theorem testBit_runThrough_zero (mask s : Nat) :
    (runThrough mask s).testBit 0 = s.testBit 0 := by
  simp only [runThrough, Nat.testBit_or, Nat.testBit_xor, testBit_sum _ _ Nat.zero_lt_one,
    Nat.testBit_and, BitVec.carry_zero]
  cases s.testBit 0 <;> cases mask.testBit 0 <;> rfl

/-- The run goes on from a position if the mask has it: that is when the sum carries. -/
theorem testBit_runThrough_succ (mask s j : Nat) :
    (runThrough mask s).testBit (j + 1) =
      (s.testBit (j + 1) || (mask.testBit j && (runThrough mask s).testBit j)) := by
  have hj : j < j + 2 := by omega
  have hsucc : j + 1 < j + 2 := by omega
  simp only [runThrough, Nat.testBit_or, Nat.testBit_xor, testBit_sum _ _ hj,
    testBit_sum _ _ hsucc, BitVec.carry_succ, BitVec.getLsbD_ofNat, hj, decide_true, Bool.true_and,
    Nat.testBit_and]
  generalize BitVec.carry j _ _ false = carry
  cases s.testBit (j + 1) <;> cases mask.testBit (j + 1) <;> cases s.testBit j <;>
    cases mask.testBit j <;> cases carry <;> rfl

theorem follows_runThrough {mask : Nat} (h : ∀ i j, step i j ↔ mask.testBit i = true ∧ j = i + 1) :
    Follows ⟨runThrough mask⟩ fun i j => ∃ n, Times step n i j := by
  intro s j
  induction j with
  | zero =>
    rw [testBit_runThrough_zero]
    constructor
    · exact fun h0 => ⟨0, h0, 0, rfl⟩
    · rintro ⟨i, hi, n, hn⟩
      cases n with
      | zero => exact hn ▸ hi
      | succ n =>
        obtain ⟨k, _, hk⟩ := times_succ_last.mp hn
        cases ((h k 0).mp hk).2
  | succ j ih =>
    rw [testBit_runThrough_succ, Bool.or_eq_true, Bool.and_eq_true, ih]
    constructor
    · rintro (hj | ⟨hmask, i, hi, n, hn⟩)
      · exact ⟨j + 1, hj, 0, rfl⟩
      · exact ⟨i, hi, n + 1, times_succ_last.mpr ⟨j, hn, (h j _).mpr ⟨hmask, rfl⟩⟩⟩
    · rintro ⟨i, hi, n, hn⟩
      cases n with
      | zero => exact .inl (hn ▸ hi)
      | succ n =>
        obtain ⟨k, hk, hlast⟩ := times_succ_last.mp hn
        obtain ⟨hmask, hkj⟩ := (h k _).mp hlast
        obtain rfl := Nat.succ.inj hkj
        exact .inr ⟨hmask, i, hi, n, hk⟩

end Walk

/-! ## Patterns -/

open Walk

theorem follows_standsAt (cs : List Char) :
    Follows ⟨fun s => (cs.map fun c => before (.single c) text).foldl
      (fun s mask => (s &&& mask) <<< 1) s⟩ (StandsAt text cs) := by
  induction cs with
  | nil => exact .id
  | cons c cs ih =>
    intro s j
    have hrest := ih ((s &&& before (.single c) text) <<< 1) j
    simp only [testBit_next, testBit_before, CharSet.contains_single_iff] at hrest
    simp only [List.map_cons, List.foldl_cons, hrest, StandsAt]
    constructor
    · rintro ⟨_, ⟨i, hi, ⟨d, hd, rfl⟩, rfl⟩, hcs⟩
      exact ⟨i, hi, hd, hcs⟩
    · rintro ⟨i, hi, hc, hcs⟩
      exact ⟨i + 1, ⟨i, hi, ⟨c, hc, rfl⟩, rfl⟩, hcs⟩

theorem follows_chars (set : CharSet) :
    (walk text (.chars set)).Follows ((Expr.chars set).Spans text) := by
  intro s j
  simp only [walk, testBit_next, testBit_before, Expr.Spans]

theorem follows_edge (e : Edge) : (walk text (.edge e)).Follows ((Expr.edge e).Spans text) := by
  intro s j
  simp only [walk, Nat.testBit_and, Bool.and_eq_true, testBit_passing, Expr.Spans]
  constructor
  · rintro ⟨hj, he⟩
    exact ⟨j, hj, he, rfl⟩
  · rintro ⟨i, hi, he, rfl⟩
    exact ⟨hi, he⟩

/-- A repetition goes through any number of characters of a set at once. -/
theorem follows_many_chars (set : CharSet) (least : Nat) (isLazy : Bool) :
    (walk text (.many (.chars set) least none isLazy)).Follows
      ((Expr.many (.chars set) least none isLazy).Spans text) := by
  have hbefore : ∀ i j, (Expr.chars set).Spans text i j ↔
      (before set text).testBit i = true ∧ j = i + 1 := fun i j => by
    simp only [testBit_before, Expr.Spans]
  have hrun := follows_runThrough hbefore
  refine (((follows_chars set).times least).comp hrun).congr fun i j => ?_
  constructor
  · rintro ⟨k, hleast, n, hn⟩
    exact ⟨n, nofun, times_add.mpr ⟨k, hleast, hn⟩⟩
  · rintro ⟨more, _, hall⟩
    obtain ⟨k, hleast, hn⟩ := times_add.mp hall
    exact ⟨k, hleast, more, hn⟩

/-- Any other repetition goes round by round. -/
theorem follows_many {p : Expr} (h : (walk text p).Follows (p.Spans text)) (least : Nat)
    (most : Option Nat) (isLazy : Bool) :
    (walk text (.many p least most isLazy)).Follows
      ((Expr.many p least most isLazy).Spans text) := by
  by_cases hset : ∃ set, p = .chars set ∧ most = none
  · obtain ⟨set, rfl, rfl⟩ := hset
    exact follows_many_chars set least isLazy
  · have hwalk : walk text (.many p least most isLazy) = ⟨fun s =>
        (walk text p).spread (match most with
          | none => text.size + 1
          | some most => min (most - least) (text.size + 1))
          ((walk text p).times least s) ((walk text p).times least s)⟩ := by
      cases p <;> cases most <;> first | rfl | exact absurd ⟨_, rfl, rfl⟩ hset
    rw [hwalk]
    refine ((h.times least).comp (h.spread _)).congr fun i j => ?_
    constructor
    · rintro ⟨k, hleast, n, hn, hmore⟩
      refine ⟨n, ?_, times_add.mpr ⟨k, hleast, hmore⟩⟩
      rintro m rfl
      exact Nat.le_trans hn (Nat.min_le_left _ _)
    · rintro ⟨more, hmost, hall⟩
      obtain ⟨k, hleast, hmore⟩ := times_add.mp hall
      -- rounds beyond the size of the text reach nothing new
      obtain ⟨n, hn, hsize, _, hmore⟩ := (onward_spans p).exists_times_le hmore
      refine ⟨k, hleast, n, ?_, hmore⟩
      cases most with
      | none => exact Nat.le_succ_of_le hsize
      | some m => exact Nat.le_min.mpr ⟨Nat.le_trans hn (hmost m rfl), Nat.le_succ_of_le hsize⟩

mutual

theorem follows_walk : ∀ p : Expr, (walk text p).Follows (p.Spans text)
  | .empty => .id
  | .text cs => follows_standsAt cs
  | .chars set => follows_chars set
  | .edge e => follows_edge e
  | .group _ p => follows_walk p
  | .seq ps => follows_walkAll ps
  | .alt ps => by
    intro s j
    have hany := testBit_walkAny ps s 0 j
    simp only [Nat.zero_testBit, Bool.false_eq_true, false_or] at hany
    exact hany
  | .many p least most isLazy => follows_many (follows_walk p) least most isLazy

theorem follows_walkAll : ∀ ps : List Expr,
    Follows ⟨fun s => (walkAll text ps).foldl (fun s step => step.run s) s⟩ (SpansAll text ps)
  | [] => .id
  | p :: ps => (follows_walk p).comp (follows_walkAll ps)

theorem testBit_walkAny : ∀ (ps : List Expr) (s reached j : Nat),
    ((walkAll text ps).foldl (fun reached step => reached ||| step.run s) reached).testBit j =
        true ↔
      reached.testBit j = true ∨ ∃ i, s.testBit i = true ∧ SpansAny text ps i j
  | [], s, reached, j => by simp [walkAll, SpansAny]
  | p :: ps, s, reached, j => by
    have hrest := testBit_walkAny ps s (reached ||| (walk text p).run s) j
    rw [Nat.testBit_or, Bool.or_eq_true, follows_walk p s j] at hrest
    simp only [walkAll, List.foldl_cons, hrest, SpansAny, or_assoc, and_or_left, exists_or]

end

/-- **Matching.** A text matches a pattern if and only if the pattern spans some part of it. -/
theorem Expr.isMatch_iff {p : Expr} :
    p.isMatch text = true ↔ ∃ i j, i ≤ text.size ∧ p.Spans text i j := by
  rw [isMatch, bne_iff_ne]
  constructor
  · intro h
    obtain ⟨j, hj⟩ := Nat.exists_testBit_of_ne_zero h
    obtain ⟨i, hi, hij⟩ := (follows_walk p _ j).mp hj
    exact ⟨i, j, testBit_everywhere i |>.mp hi, hij⟩
  · rintro ⟨i, j, hi, hij⟩ hzero
    have hj := (follows_walk p _ j).mpr ⟨i, (testBit_everywhere i).mpr hi, hij⟩
    rw [hzero, Nat.zero_testBit] at hj
    cases hj

end Rulebook.Pattern
