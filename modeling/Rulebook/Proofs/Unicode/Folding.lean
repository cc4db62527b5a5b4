import Mathlib
import Rulebook.Unicode.CaseFold

/-!
# Sets of characters without regard to case

The ranges of a set are kept in order, apart from each other and none of them empty. There is only
one such list for given members, so that a set is known as soon as its members are. A set without
regard to case has the members of the set, and the variants of these. If all members are such that
other characters fold to them, and they to none, then these other characters are what is new.

* `coalesce_apart`, `eq_of_holds`: ranges that are apart, and that they are determined;
* `of_mem_variants`, `exists_variants`: what the groups of variants are;
* `fold_eq`: a set without regard to case.
-/

namespace Rulebook.CharSet

/-! ## Ranges that are apart -/

/-- Ranges in order, none of which is empty or reaches the next one. -/
def Apart : List RankRange → Prop
  | [] => True
  | r :: rest => r.1 ≤ r.2 ∧ (∀ s ∈ rest, r.2 + 1 < s.1) ∧ Apart rest

variable {r : RankRange} {ranges others : List RankRange}

theorem insertRange_apart (hr : r.1 ≤ r.2) (h : Apart ranges)
    (hfirst : ∀ s ∈ ranges, r.1 ≤ s.1) :
    Apart (insertRange r ranges) ∧ ∀ s ∈ insertRange r ranges, r.1 ≤ s.1 := by
  induction ranges generalizing r with
  | nil => simp [insertRange, Apart, hr]
  | cons s rest ih =>
    obtain ⟨hs, hrest, hapart⟩ := h
    have hrs := hfirst s (List.mem_cons_self ..)
    rw [insertRange]
    split
    · have hmin : min r.1 s.1 = r.1 := Nat.min_eq_left hrs
      rw [hmin]
      refine ih ?_ hapart fun t ht => hfirst t (List.mem_cons_of_mem _ ht)
      exact Nat.le_trans hr (Nat.le_max_left ..)
    · refine ⟨⟨hr, fun t ht => ?_, hs, hrest, hapart⟩, fun t ht => ?_⟩
      · rcases List.mem_cons.mp ht with rfl | ht
        · omega
        · have := hrest t ht
          omega
      · rcases List.mem_cons.mp ht with rfl | ht
        · exact Nat.le_refl _
        · exact hfirst t ht

/-- Ranges in order are apart when they are joined. -/
theorem coalesce_apart (hne : ∀ r ∈ ranges, r.1 ≤ r.2)
    (hsorted : ranges.Pairwise fun r s => r.1 ≤ s.1) :
    Apart (coalesce ranges) ∧ ∀ a, (∀ r ∈ ranges, a ≤ r.1) → ∀ s ∈ coalesce ranges, a ≤ s.1 := by
  induction ranges with
  | nil => exact ⟨trivial, fun a _ s hs => nomatch hs⟩
  | cons r rest ih =>
    obtain ⟨hr, hne⟩ := List.forall_mem_cons.mp hne
    obtain ⟨hfirst, hsorted⟩ := List.pairwise_cons.mp hsorted
    obtain ⟨hapart, hbound⟩ := ih hne hsorted
    obtain ⟨hinsert, hleast⟩ := insertRange_apart hr hapart (hbound r.1 hfirst)
    refine ⟨hinsert, fun a ha s hs => ?_⟩
    exact Nat.le_trans (ha r (List.mem_cons_self ..)) (hleast s hs)

theorem Apart.nonempty (h : Apart ranges) : ∀ r ∈ ranges, r.1 ≤ r.2 := by
  induction ranges with
  | nil => nofun
  | cons r rest ih => exact List.forall_mem_cons.mpr ⟨h.1, ih h.2.2⟩

theorem Apart.sorted (h : Apart ranges) : ranges.Pairwise fun r s => r.1 ≤ s.1 := by
  induction ranges with
  | nil => exact .nil
  | cons r rest ih =>
    obtain ⟨hr, hrest, hapart⟩ := h
    refine List.pairwise_cons.mpr ⟨fun s hs => ?_, ih hapart⟩
    have := hrest s hs
    omega

/-- The members of the other ranges lie behind the first one. -/
theorem Apart.lt_of_holds (h : Apart (r :: ranges)) {n : Nat}
    (hn : ranges.any (RankRange.holds n) = true) : r.2 + 1 < n := by
  obtain ⟨s, hs, hsn⟩ := List.any_eq_true.mp hn
  have := h.2.1 s hs
  simp only [RankRange.holds, Bool.and_eq_true, decide_eq_true_eq] at hsn
  omega

theorem Apart.holds_cons (h : Apart (r :: ranges)) (n : Nat) :
    ranges.any (RankRange.holds n) = true ↔
      (r :: ranges).any (RankRange.holds n) = true ∧ r.2 < n := by
  rw [List.any_cons, Bool.or_eq_true]
  constructor
  · intro hn
    have := h.lt_of_holds hn
    exact ⟨.inr hn, by omega⟩
  · rintro ⟨hn | hn, hlt⟩
    · simp only [RankRange.holds, Bool.and_eq_true, decide_eq_true_eq] at hn
      omega
    · exact hn

/-- The first range begins with the least member, and ends before the first gap. -/
theorem Apart.first_le {s : RankRange} (h : Apart (r :: ranges)) (hs : Apart (s :: others))
    (hsame : ∀ n, (r :: ranges).any (RankRange.holds n) = (s :: others).any (RankRange.holds n)) :
    s.1 ≤ r.1 ∧ (r.1 = s.1 → s.2 ≤ r.2) := by
  have hr := h.1
  constructor
  · have hfirst : (s :: others).any (RankRange.holds r.1) = true := by
      rw [← hsame, List.any_cons]
      simp [RankRange.holds, hr]
    rw [List.any_cons, Bool.or_eq_true] at hfirst
    rcases hfirst with hfirst | hfirst
    · simp only [RankRange.holds, Bool.and_eq_true, decide_eq_true_eq] at hfirst
      exact hfirst.1
    · have := hs.lt_of_holds hfirst
      have := hs.1
      omega
  · intro heq
    by_cases hlt : r.2 < s.2
    · -- the rank behind the first range would be a member
      have hnext : (r :: ranges).any (RankRange.holds (r.2 + 1)) = true := by
        rw [hsame, List.any_cons]
        have : RankRange.holds (r.2 + 1) s = true := by
          simp only [RankRange.holds, Bool.and_eq_true, decide_eq_true_eq]
          omega
        rw [this, Bool.true_or]
      have := h.lt_of_holds ((h.holds_cons _).mpr ⟨hnext, by omega⟩)
      omega
    · omega

/-- Ranges that are apart are determined by their members. -/
theorem eq_of_holds (h : Apart ranges) (ho : Apart others)
    (hsame : ∀ n, ranges.any (RankRange.holds n) = others.any (RankRange.holds n)) :
    ranges = others := by
  induction ranges generalizing others with
  | nil =>
    cases others with
    | nil => rfl
    | cons s others =>
      have hs := hsame s.1
      simp [RankRange.holds, ho.1] at hs
  | cons r ranges ih =>
    cases others with
    | nil =>
      have hr := hsame r.1
      simp [RankRange.holds, h.1] at hr
    | cons s others =>
      have hsr := h.first_le ho hsame
      have hrs := ho.first_le h fun n => (hsame n).symm
      obtain rfl : r = s := Prod.ext (by omega) (by omega)
      refine congrArg (r :: ·) (ih h.2.2 ho.2.2 fun n => ?_)
      rw [Bool.eq_iff_iff, h.holds_cons, ho.holds_cons, hsame]

/-- The order that ranges are sorted by. -/
theorem first_trans (a b c : RankRange) (hab : decide (a.1 ≤ b.1) = true)
    (hbc : decide (b.1 ≤ c.1) = true) : decide (a.1 ≤ c.1) = true := by
  simp only [decide_eq_true_eq] at *
  omega

theorem first_total (a b : RankRange) : (decide (a.1 ≤ b.1) || decide (b.1 ≤ a.1)) = true := by
  simp only [Bool.or_eq_true, decide_eq_true_eq]
  omega

theorem ofRanges_apart (ranges : List RankRange) : Apart (ofRanges ranges).ranges := by
  refine (coalesce_apart (fun r hr => ?_) ?_).1
  · rw [List.mem_mergeSort, List.mem_filter, decide_eq_true_eq] at hr
    exact hr.2
  · have hsorted := List.pairwise_mergeSort first_trans first_total
      (ranges.filter fun r => decide (r.1 ≤ r.2))
    simpa only [decide_eq_true_eq] using hsorted

theorem union_apart {s t : CharSet} (hs : Apart s.ranges) (ht : Apart t.ranges) :
    Apart (s.union t).ranges := by
  refine (coalesce_apart (fun r hr => ?_) ?_).1
  · rcases List.mem_merge.mp hr with hr | hr
    · exact hs.nonempty r hr
    · exact ht.nonempty r hr
  · have hsorted := List.pairwise_merge first_trans first_total s.ranges t.ranges
      (by simpa only [decide_eq_true_eq] using hs.sorted)
      (by simpa only [decide_eq_true_eq] using ht.sorted)
    simpa only [decide_eq_true_eq] using hsorted

/-! ## Variants -/

open Unicode in
/-- The code points that do not fold to themselves, each behind the one that it folds to. -/
def foldings : List (Nat × Nat) := foldRuns.flatMap unfoldRun

/-- The code points that fold to the same one, together. -/
def foldGroups : List (List (Nat × Nat)) :=
  (foldings.mergeSort fun p q => decide (p.1 ≤ q.1)).splitBy fun p q => p.1 == q.1

/-- A rank is that of a code point, or of one that folds to it. -/
def FoldsTo (n t : Nat) : Prop := n = rank t ∨ ∃ x, (t, x) ∈ foldings ∧ n = rank x

theorem same_of_isChain {p : Nat × Nat} {rest : List (Nat × Nat)}
    (h : (p :: rest).IsChain fun p q => (p.1 == q.1) = true) : ∀ q ∈ p :: rest, q.1 = p.1 := by
  induction rest generalizing p with
  | nil =>
    intro q hq
    rw [List.mem_singleton.mp hq]
  | cons r rest ih =>
    obtain ⟨hpr, hrest⟩ := List.isChain_cons_cons.mp h
    have hr : r.1 = p.1 := (beq_iff_eq.mp hpr).symm
    refine List.forall_mem_cons.mpr ⟨rfl, fun q hq => ?_⟩
    rw [ih hrest q hq, hr]

/-- Variants are put together by what they fold to. -/
theorem mem_variants_iff {g : List Nat} :
    g ∈ Unicode.variants ↔ ∃ p rest, (p :: rest) ∈ foldGroups ∧
      g = rank p.1 :: (p :: rest).map fun q => rank q.2 := by
  rw [Unicode.variants, List.mem_map]
  constructor
  · rintro ⟨group, hgroup, rfl⟩
    obtain ⟨p, rest, rfl⟩ := List.exists_cons_of_ne_nil (List.ne_nil_of_mem_splitBy hgroup)
    exact ⟨p, rest, hgroup, rfl⟩
  · rintro ⟨p, rest, hgroup, rfl⟩
    exact ⟨p :: rest, hgroup, rfl⟩

theorem mem_foldings_iff {p : Nat × Nat} :
    p ∈ foldings ↔ ∃ group ∈ foldGroups, p ∈ group := by
  rw [← List.mem_flatten, foldGroups, List.flatten_splitBy, List.mem_mergeSort]

/-- All variants of a group fold to the same code point. -/
theorem of_mem_variants {g : List Nat} (hg : g ∈ Unicode.variants) :
    ∃ t, ∀ n ∈ g, FoldsTo n t := by
  obtain ⟨p, rest, hgroup, rfl⟩ := mem_variants_iff.mp hg
  have hsame := same_of_isChain (List.isChain_of_mem_splitBy hgroup)
  refine ⟨p.1, List.forall_mem_cons.mpr ⟨.inl rfl, fun n hn => ?_⟩⟩
  obtain ⟨q, hq, rfl⟩ := List.mem_map.mp hn
  refine .inr ⟨q.2, ?_, rfl⟩
  rw [← hsame q hq]
  exact mem_foldings_iff.mpr ⟨_, hgroup, hq⟩

/-- A code point and one that folds to it are in a group. -/
theorem exists_variants {t x : Nat} (h : (t, x) ∈ foldings) :
    ∃ g ∈ Unicode.variants, rank t ∈ g ∧ rank x ∈ g := by
  obtain ⟨group, hgroup, hmem⟩ := mem_foldings_iff.mp h
  obtain ⟨p, rest, rfl⟩ := List.exists_cons_of_ne_nil (List.ne_nil_of_mem_splitBy hgroup)
  have hsame : t = p.1 := same_of_isChain (List.isChain_of_mem_splitBy hgroup) _ hmem
  refine ⟨_, mem_variants_iff.mpr ⟨p, rest, hgroup, rfl⟩, ?_, ?_⟩
  · rw [hsame]
    exact List.mem_cons_self ..
  · exact List.mem_cons_of_mem _ (List.mem_map.mpr ⟨_, hmem, rfl⟩)

/-! ## Sets without regard to case -/

variable {s t : CharSet}

theorem holds_fold_iff {n : Nat} :
    s.fold.ranges.any (RankRange.holds n) = true ↔
      s.ranges.any (RankRange.holds n) = true ∨
        ∃ g ∈ Unicode.variants, n ∈ g ∧ ∃ m ∈ g, s.ranges.any (RankRange.holds m) = true := by
  rw [fold, foldBy, holds_union, holds_ofRanges, Bool.or_eq_true]
  refine or_congr_right ?_
  simp only [List.any_eq_true, List.mem_flatMap, List.mem_filter, List.mem_map]
  constructor
  · rintro ⟨_, ⟨g, ⟨hg, hs⟩, m, hm, rfl⟩, hn⟩
    simp only [RankRange.holds, Bool.and_eq_true, decide_eq_true_eq] at hn
    obtain rfl : m = n := by omega
    exact ⟨g, hg, hm, hs⟩
  · rintro ⟨g, hg, hn, hs⟩
    exact ⟨(n, n), ⟨g, ⟨hg, hs⟩, n, hn, rfl⟩, by simp [RankRange.holds]⟩

/-- If all members of a set fold to themselves, the code points that fold to one of them are new. -/
theorem holds_fold_of_folded
    (hs : ∀ p ∈ foldings, s.ranges.any (RankRange.holds (rank p.2)) = false) {n : Nat} :
    s.fold.ranges.any (RankRange.holds n) = true ↔
      s.ranges.any (RankRange.holds n) = true ∨
        ∃ p ∈ foldings, s.ranges.any (RankRange.holds (rank p.1)) = true ∧ rank p.2 = n := by
  rw [holds_fold_iff]
  constructor
  · rintro (hn | ⟨g, hg, hn, m, hm, hsm⟩)
    · exact .inl hn
    · obtain ⟨t, ht⟩ := of_mem_variants hg
      rcases ht m hm with rfl | ⟨x, hx, rfl⟩
      · rcases ht n hn with rfl | ⟨x, hx, rfl⟩
        · exact .inl hsm
        · exact .inr ⟨_, hx, hsm, rfl⟩
      · rw [hs _ hx] at hsm
        cases hsm
  · rintro (hn | ⟨p, hp, hsp, rfl⟩)
    · exact .inl hn
    · obtain ⟨g, hg, hfirst, hsecond⟩ := exists_variants hp
      exact .inr ⟨g, hg, hsecond, _, hfirst, hsp⟩

/-! ## ASCII characters -/

/-- The letters that fold to ASCII characters: the capital ones, the long s and the Kelvin sign. -/
def asciiFoldings : List (Nat × Nat) :=
  (List.range 26).map (fun i => (97 + i, 65 + i)) ++ [(115, 0x17F), (107, 0x212A)]

theorem filter_foldings :
    (foldings.filter fun p => decide (p.1 < 128) || decide (p.2 < 128)) = asciiFoldings := by
  decide +kernel

theorem mem_asciiFoldings_iff {p : Nat × Nat} :
    p ∈ asciiFoldings ↔ p ∈ foldings ∧ (p.1 < 128 ∨ p.2 < 128) := by
  rw [← filter_foldings, List.mem_filter, Bool.or_eq_true, decide_eq_true_eq, decide_eq_true_eq]

theorem lt_of_rank_lt {n : Nat} (h : rank n < 128) : n < 128 := by
  unfold rank at h
  split at h <;> omega

theorem lt_of_isAscii (hs : s.isAscii = true) {n : Nat}
    (hn : s.ranges.any (RankRange.holds n) = true) : n < 128 := by
  obtain ⟨r, hr, hrn⟩ := List.any_eq_true.mp hn
  have hlast := decide_eq_true_eq.mp (List.all_eq_true.mp hs r hr)
  simp only [RankRange.holds, Bool.and_eq_true, decide_eq_true_eq] at hrn
  omega

theorem lt_of_isAlphanum {c : Char} (h : c.isAlphanum = true) : c.toNat < 128 := by
  simp only [Char.isAlphanum, Char.isAlpha, Char.isUpper, Char.isLower, Char.isDigit,
    Bool.or_eq_true, Bool.and_eq_true, decide_eq_true_eq, ge_iff_le, UInt32.le_iff_toNat_le,
    Char.reduceVal, UInt32.reduceToNat] at h
  have hval : c.toNat = c.val.toNat := rfl
  omega

/-- A set of ASCII characters and a test of these agree if they do on every ASCII character. -/
theorem contains_eq_of_ascii {test : Char → Bool} (hs : s.isAscii = true)
    (htest : ∀ c, test c = true → c.toNat < 128)
    (h : ∀ n < 128, s.contains (Char.ofNat n) = test (Char.ofNat n)) (c : Char) :
    s.contains c = test c := by
  by_cases hc : c.toNat < 128
  · have hn := h c.toNat hc
    rwa [Char.ofNat_toNat] at hn
  · have hcontains : s.contains c = false := by
      rw [Bool.eq_false_iff]
      exact fun hin => hc (lt_of_rank_lt (lt_of_isAscii hs hin))
    rw [hcontains, eq_comm, Bool.eq_false_iff]
    exact fun hin => hc (htest c hin)

/-- A set of ASCII characters without capital letters gets those of its small letters, and the two
other characters that fold to such letters. -/
theorem fold_eq (hascii : s.isAscii = true) (hsapart : Apart s.ranges) (htapart : Apart t.ranges)
    (hs : ∀ p ∈ asciiFoldings, s.ranges.any (RankRange.holds (rank p.2)) = false)
    (h : ∀ n, t.ranges.any (RankRange.holds n) = true ↔
      s.ranges.any (RankRange.holds n) = true ∨
        n ∈ (asciiFoldings.filter fun p => s.ranges.any (RankRange.holds (rank p.1))).map
          fun p => rank p.2) :
    s.fold = t := by
  have hfolded : ∀ p ∈ foldings, s.ranges.any (RankRange.holds (rank p.2)) = false := by
    intro p hp
    rw [Bool.eq_false_iff]
    intro hsp
    have hlt := lt_of_rank_lt (lt_of_isAscii hascii hsp)
    rw [hs p (mem_asciiFoldings_iff.mpr ⟨hp, .inr hlt⟩)] at hsp
    cases hsp
  have hranges : s.fold.ranges = t.ranges := by
    refine eq_of_holds (union_apart hsapart (ofRanges_apart _)) htapart fun n => ?_
    rw [Bool.eq_iff_iff, holds_fold_of_folded hfolded, h]
    refine or_congr_right ?_
    simp only [List.mem_map, List.mem_filter, mem_asciiFoldings_iff, and_assoc]
    constructor
    · rintro ⟨p, hp, hsp, rfl⟩
      exact ⟨p, hp, .inl (lt_of_rank_lt (lt_of_isAscii hascii hsp)), hsp, rfl⟩
    · rintro ⟨p, hp, _, hsp, rfl⟩
      exact ⟨p, hp, hsp, rfl⟩
  exact congrArg CharSet.mk hranges

end Rulebook.CharSet
