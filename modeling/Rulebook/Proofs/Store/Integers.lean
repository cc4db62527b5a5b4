import Mathlib.Algebra.Group.Int.Defs
import Mathlib.Algebra.Group.Nat.Defs
import Rulebook.Proofs.Store.Conversions
import Rulebook.Proofs.Store.Lookups
import Rulebook.Proofs.Store.Numerals

/-!
# Whole numbers that are looked up

Whole numbers in the signed range of 64 bits are looked up as they are, those beyond it as the
nearest real numbers. So a row is never found by two different whole numbers if one of them is in
the signed range: real numbers that stand for the others are beyond it, and in a column of texts
they are written with a point. Two numbers beyond the range are told apart only if they are rounded
to different real numbers, and in a column of texts only if these have different texts.

* `Binary64.le_units_ofInt`: numbers beyond the range are not rounded into it;
* `Cell.equals_iff_units?`: numbers are compared by their exact values;
* `Affinity.Confuses`, `Affinity.equals_two_iff`: what a column takes for the same;
* `Table.FoundBy`, `Table.foundBy_two_iff`: rows that are found by two numbers;
* `Disk.integers_told_apart`: answers through a connection.
-/

namespace Rulebook

/-! ## Numbers beyond the signed range -/

namespace Binary64

theorem le_roundHalfEven (num den : Nat) : num / den ≤ roundHalfEven num den := by
  simp only [roundHalfEven]
  split
  · exact Nat.le_refl _
  · split
    · exact Nat.le_succ _
    · exact Nat.le_add_right _ _

/-- Rounding does not go below a power of two that a number has reached. -/
theorem two_pow_log2_le_magnitude {negative : Bool} {num scaled : Nat} {x : Binary64}
    (h : nearest negative num 1 = some x) (hscaled : scaled = num * unitsPerOne)
    (hlog : 52 ≤ scaled.log2) : 2 ^ scaled.log2 ≤ x.magnitude := by
  simp only [nearest, ← hscaled, Nat.div_one, Nat.one_mul] at h
  have hpow : 2 ^ scaled.log2 = 2 ^ 52 * 2 ^ (scaled.log2 - 52) := by
    rw [← Nat.pow_add, Nat.add_sub_cancel' hlog]
  have hne : scaled ≠ 0 := by
    intro hzero
    rw [hzero, Nat.log2_zero] at hlog
    omega
  split at h
  · obtain rfl := Option.some.inj h
    have hquotient : 2 ^ 52 ≤ scaled / 2 ^ (scaled.log2 - 52) := by
      rw [Nat.le_div_iff_mul_le (Nat.two_pow_pos _), ← hpow]
      exact Nat.log2_self_le hne
    rw [hpow]
    exact Nat.mul_le_mul_right _ (Nat.le_trans hquotient (le_roundHalfEven _ _))
  · split at h
    · obtain rfl := Option.some.inj h
      rw [hpow]
      exact Nat.mul_le_mul_left _ (Nat.pow_le_pow_right (by decide) (Nat.le_succ _))
    · cases h

theorem two_pow_le_magnitude {x : Binary64} {k : Nat} (h : 0 < x.significand)
    (hk : k ≤ x.exponent) : 2 ^ k ≤ x.magnitude :=
  Nat.le_trans (Nat.pow_le_pow_right (by decide) hk) (Nat.le_mul_of_pos_left _ h)

theorem negative_ofInt (i : Int) : (ofInt i).negative = decide (i < 0) := by
  unfold ofInt
  cases h : nearest (decide (i < 0)) i.natAbs 1 with
  | none => rfl
  | some x =>
    simp only [nearest] at h
    split at h
    · rw [Option.getD_some, ← Option.some.inj h]
    · split at h
      · rw [Option.getD_some, ← Option.some.inj h]
      · cases h

/-- The exponent of the units in one is generalized, as the power is not to be worked out. -/
theorem exists_unitsPerOne : ∃ n, unitsPerOne = 2 ^ n ∧ 63 + n ≤ 2045 := by
  have hle : 63 + unitExponent ≤ 2045 := by decide
  unfold unitsPerOne
  generalize unitExponent = n at hle ⊢
  exact ⟨n, rfl, hle⟩

theorem le_magnitude_ofInt {i : Int} (h : 2 ^ 63 ≤ i) :
    2 ^ 63 * unitsPerOne ≤ (ofInt i).magnitude := by
  obtain ⟨n, hunits, hn⟩ := exists_unitsPerOne
  have hleast : 2 ^ 63 * unitsPerOne = 2 ^ (63 + n) := by rw [hunits, ← Nat.pow_add]
  have hscaled : 2 ^ (63 + n) ≤ i.natAbs * unitsPerOne := by
    rw [← hleast]
    exact Nat.mul_le_mul_right _ (by omega)
  rw [hleast]
  unfold ofInt
  cases hnearest : nearest (decide (i < 0)) i.natAbs 1 with
  | none =>
    -- the greatest finite number stands for all that are out of range
    rw [Option.getD_none]
    refine two_pow_le_magnitude ?_ hn
    exact Nat.sub_pos_of_lt (Nat.one_lt_two_pow (by decide))
  | some x =>
    have hlog : 63 + n ≤ (i.natAbs * unitsPerOne).log2 := by
      refine (Nat.le_log2 ?_).mpr hscaled
      exact Nat.ne_of_gt (Nat.lt_of_lt_of_le (Nat.two_pow_pos _) hscaled)
    calc 2 ^ (63 + n) ≤ 2 ^ (i.natAbs * unitsPerOne).log2 := Nat.pow_le_pow_right (by decide) hlog
      _ ≤ x.magnitude := two_pow_log2_le_magnitude hnearest rfl (by omega)

/-- What is beyond the signed range stays beyond it when it is rounded. -/
theorem le_truncate_ofInt {i : Int} (h : 2 ^ 63 ≤ i) : 2 ^ 63 ≤ (ofInt i).truncate := by
  have hpos : (ofInt i).negative = false := by
    rw [negative_ofInt]
    exact decide_eq_false (by omega)
  have hquotient : 2 ^ 63 ≤ (ofInt i).magnitude / unitsPerOne := by
    rw [Nat.le_div_iff_mul_le unitsPerOne_pos]
    exact le_magnitude_ofInt h
  unfold truncate
  rw [if_neg (by simp [hpos])]
  omega

theorem le_units_ofInt {i : Int} (h : 2 ^ 63 ≤ i) :
    2 ^ 63 * (unitsPerOne : Int) ≤ (ofInt i).units := by
  have hpos : (ofInt i).negative = false := by
    rw [negative_ofInt]
    exact decide_eq_false (by omega)
  have hmagnitude := Int.ofNat_le.mpr (le_magnitude_ofInt h)
  rw [Int.natCast_mul] at hmagnitude
  unfold units
  rw [if_neg (by simp [hpos])]
  exact hmagnitude

end Binary64

/-- A whole number of 64 bits, with a sign or without one. -/
def Number.Fits (i : Int) : Prop := (Bits.fitsSigned 64 i || Bits.fitsUnsigned 64 i) = true

instance (i : Int) : Decidable (Number.Fits i) := inferInstanceAs (Decidable (_ = true))

/-! ## Cells -/

namespace Cell

/-- The value of a number, counted in units. -/
def units? : Cell → Option Int
  | integer i => some (i * (Binary64.unitsPerOne : Int))
  | real x => some x.units
  | _ => none

theorem units_integer_inj {i j : Int}
    (h : i * (Binary64.unitsPerOne : Int) = j * Binary64.unitsPerOne) : i = j := by
  refine Int.eq_of_mul_eq_mul_right ?_ h
  exact Int.natCast_ne_zero.mpr (Nat.ne_of_gt Binary64.unitsPerOne_pos)

/-- What is equal to a number has the same value. -/
theorem equals_iff_units? {c d : Cell} {u : Int} (hd : d.units? = some u) :
    c.equals d = true ↔ c.units? = some u := by
  cases d with
  | integer i =>
    obtain rfl := Option.some.inj hd
    cases c with
    | integer k =>
      simp only [equals, units?, beq_iff_eq, Option.some.injEq]
      exact ⟨fun h => by rw [h], units_integer_inj⟩
    | real x => simp only [equals, units?, Binary64.equalsInt_iff, Option.some.injEq]
    | _ => constructor <;> intro h <;> cases h
  | real y =>
    obtain rfl := Option.some.inj hd
    cases c with
    | integer k =>
      simp only [equals, units?, Binary64.equalsInt_iff, Option.some.injEq]
      exact eq_comm
    | real x => simp only [equals, units?, Binary64.beq_iff, Option.some.injEq]
    | _ => constructor <;> intro h <;> cases h
  | _ => cases hd

/-- A whole number is looked up as it is in the signed range, and as a real number beyond it. -/
theorem ofJson_ofInt {i : Int} (h : Number.Fits i) :
    (i < 2 ^ 63 ∧ ofJson (.ofInt i) = integer i) ∨
      (2 ^ 63 ≤ i ∧ ofJson (.ofInt i) = real (Binary64.ofInt i)) := by
  have hcell : ofJson (.ofInt i) =
      if Bits.fitsSigned 64 i then integer i else real (Binary64.ofInt i) := by
    have hfits : (Bits.fitsSigned 64 i || Bits.fitsUnsigned 64 i) = true := h
    simp only [Json.ofInt, Number.ofInt, hfits, ↓reduceDIte, ofJson]
  rw [Number.Fits, Bool.or_eq_true, Bits.fitsSigned_64_iff, Bits.fitsUnsigned_iff] at h
  by_cases hlt : i < 2 ^ 63
  · refine .inl ⟨hlt, ?_⟩
    rw [hcell, if_pos]
    rw [Bits.fitsSigned_64_iff]
    omega
  · refine .inr ⟨by omega, ?_⟩
    rw [hcell, if_neg]
    rw [Bits.fitsSigned_64_iff]
    omega

/-- The value that a whole number is looked up by, unless in a column of texts. -/
def lookupUnits (i : Int) : Int :=
  if i < 2 ^ 63 then i * Binary64.unitsPerOne else (Binary64.ofInt i).units

theorem units?_ofJson_ofInt {i : Int} (h : Number.Fits i) :
    (ofJson (.ofInt i)).units? = some (lookupUnits i) := by
  rcases ofJson_ofInt h with ⟨hi, hcell⟩ | ⟨hi, hcell⟩
  · rw [hcell, lookupUnits, if_pos hi, units?]
  · rw [hcell, lookupUnits, if_neg (by omega), units?]

/-- Two ways to state whole numbers, one below a bound and one from it on, that never meet: the same
is stated of different numbers only from the bound on. -/
theorem ite_eq_ite_iff {α : Type} {f g : Int → α} {i j bound : Int} (hf : f i = f j → i = j)
    (hne : i ≠ j) (hmixed : ∀ a b, a < bound → bound ≤ b → f a ≠ g b) :
    (if i < bound then f i else g i) = (if j < bound then f j else g j) ↔
      bound ≤ i ∧ bound ≤ j ∧ g i = g j := by
  by_cases hi : i < bound
  · by_cases hj : j < bound
    · rw [if_pos hi, if_pos hj]
      exact ⟨fun h => absurd (hf h) hne, fun h => absurd h.1 (by omega)⟩
    · rw [if_pos hi, if_neg hj]
      exact ⟨fun h => absurd h (hmixed i j hi (by omega)), fun h => absurd h.1 (by omega)⟩
  · by_cases hj : j < bound
    · rw [if_neg hi, if_pos hj]
      exact ⟨fun h => absurd h.symm (hmixed j i hj (by omega)), fun h => absurd h.2.1 (by omega)⟩
    · rw [if_neg hi, if_neg hj]
      exact ⟨fun h => ⟨by omega, by omega, h⟩, fun h => h.2.2⟩

theorem lookupUnits_eq_iff {i j : Int} (hne : i ≠ j) :
    lookupUnits i = lookupUnits j ↔
      2 ^ 63 ≤ i ∧ 2 ^ 63 ≤ j ∧ (Binary64.ofInt i).units = (Binary64.ofInt j).units := by
  refine ite_eq_ite_iff (f := fun i => i * (Binary64.unitsPerOne : Int))
    (g := fun i => (Binary64.ofInt i).units) units_integer_inj hne fun a b ha hb => Int.ne_of_lt ?_
  have hpos : (0 : Int) < Binary64.unitsPerOne := Int.natCast_pos.mpr Binary64.unitsPerOne_pos
  exact Int.lt_of_lt_of_le (Int.mul_lt_mul_of_pos_right ha hpos) (Binary64.le_units_ofInt hb)

/-- The text that a whole number is looked up by in a column of texts. -/
def lookupText (i : Int) : String :=
  if i < 2 ^ 63 then toString i else NumberText.ofReal (Binary64.ofInt i)

theorem toText_ofJson_ofInt {i : Int} (h : Number.Fits i) :
    Affinity.toText (ofJson (.ofInt i)) = text (lookupText i) := by
  rcases ofJson_ofInt h with ⟨hi, hcell⟩ | ⟨hi, hcell⟩
  · rw [hcell, lookupText, if_pos hi, Affinity.toText]
  · rw [hcell, lookupText, if_neg (by omega), Affinity.toText]

theorem isNumeral_lookupText (i : Int) : IsNumeral (lookupText i).toList := by
  unfold lookupText
  split
  · exact isNumeral_toString i
  · exact isNumeral_ofReal _

theorem lookupText_eq_iff {i j : Int} (hne : i ≠ j) :
    lookupText i = lookupText j ↔ 2 ^ 63 ≤ i ∧ 2 ^ 63 ≤ j ∧
      NumberText.ofReal (Binary64.ofInt i) = NumberText.ofReal (Binary64.ofInt j) :=
  ite_eq_ite_iff toString_inj hne fun a _ _ _ h =>
    point_not_mem_toString a (h ▸ point_mem_ofReal _)

end Cell

/-! ## Columns -/

namespace Affinity

/-- A column takes two whole numbers for the same: both are beyond the signed range, and they are
rounded to one real number or, where texts are stored, to real numbers of one text. -/
def Confuses (a : Affinity) (i j : Int) : Prop :=
  2 ^ 63 ≤ i ∧ 2 ^ 63 ≤ j ∧
    if a = text then NumberText.ofReal (Binary64.ofInt i) = NumberText.ofReal (Binary64.ofInt j)
    else (Binary64.ofInt i).units = (Binary64.ofInt j).units

variable {i j : Int}

theorem compare_of_ne_text {a : Affinity} (ha : a ≠ text) {c : Cell} {u : Int}
    (hc : c.units? = some u) : a.compare c = c := by
  have hnumber : toNumber c = c := by
    cases c with
    | text s => cases hc
    | _ => rfl
  cases a with
  | text => exact absurd rfl ha
  | none => rfl
  | _ => exact hnumber

theorem collation_equals_number (collation : Collation) (c : Cell) {d : Cell} {u : Int}
    (hd : d.units? = some u) : collation.equals c d = c.equals d := by
  cases d with
  | integer i => cases c <;> rfl
  | real x => cases c <;> rfl
  | _ => cases hd

theorem exists_text_of_equals {collation : Collation} {c : Cell} {t : String}
    (h : collation.equals c (.text t) = true) : ∃ s, c = .text s ∧ collation.same s t = true := by
  cases c with
  | text s => exact ⟨s, rfl, h⟩
  | _ => cases h

/-- What a column holds is equal to two different whole numbers only if it confuses them. -/
theorem equals_two_iff {a : Affinity} {collation : Collation} {c : Cell}
    (hi : Number.Fits i) (hj : Number.Fits j) (hne : i ≠ j)
    (h : collation.equals c (a.compare (.ofJson (.ofInt i))) = true) :
    collation.equals c (a.compare (.ofJson (.ofInt j))) = true ↔ a.Confuses i j := by
  have hiUnits := Cell.units?_ofJson_ofInt hi
  have hjUnits := Cell.units?_ofJson_ofInt hj
  by_cases ha : a = text
  · subst ha
    have hcompare {k : Int} (hk : Number.Fits k) :
        text.compare (.ofJson (.ofInt k)) = .text (Cell.lookupText k) :=
      Cell.toText_ofJson_ofInt hk
    rw [hcompare hi] at h
    obtain ⟨s, rfl, hs⟩ := exists_text_of_equals h
    rw [hcompare hj, Confuses, if_pos rfl, ← Cell.lookupText_eq_iff hne]
    constructor
    · exact fun hother => Collation.eq_of_same (Cell.isNumeral_lookupText i)
        (Cell.isNumeral_lookupText j) hs hother
    · intro hsame
      rwa [← hsame]
  · rw [compare_of_ne_text ha hiUnits, collation_equals_number collation c hiUnits,
      Cell.equals_iff_units? hiUnits] at h
    rw [compare_of_ne_text ha hjUnits, collation_equals_number collation c hjUnits,
      Cell.equals_iff_units? hjUnits, h, Option.some.injEq, Confuses, if_neg ha]
    exact Cell.lookupUnits_eq_iff hne

end Affinity

/-! ## Tables -/

namespace Table

variable {t : Table} {field : String} {i j : Int}

/-- What a value means is said by the first column of that name. -/
theorem wantedIn?_of_find? {columns : List Column} {c : Column}
    (h : columns.find? (fun c => sameName c.name field) = some c) (k : Nat) :
    ∃ index, ∀ value, wantedIn? field value columns k =
      some (if c.holdsRowNumber then wantedNumber value
        else .cell index c.collation (c.affinity.compare value)) := by
  induction columns generalizing k with
  | nil => cases h
  | cons d rest ih =>
    by_cases hd : sameName d.name field = true
    · simp only [List.find?_cons, hd] at h
      obtain rfl := Option.some.inj h
      exact ⟨k, fun value => by rw [wantedIn?, if_pos hd]⟩
    · simp only [List.find?_cons, hd] at h
      obtain ⟨index, hindex⟩ := ih h (k + 1)
      exact ⟨index, fun value => by rw [wantedIn?, if_neg hd, hindex]⟩

/-- Row numbers are whole numbers of the signed range. -/
theorem wantedNumber_ofJson_ofInt (hi : Number.Fits i) :
    wantedNumber (.ofJson (.ofInt i)) = if i < 2 ^ 63 then .number i else .constant false := by
  rcases Cell.ofJson_ofInt hi with ⟨hlt, hcell⟩ | ⟨hle, hcell⟩
  · rw [hcell, if_pos hlt]
    rfl
  · have htruncate := Binary64.le_truncate_ofInt hle
    have hrange : Bits.fitsSigned 64 ((Binary64.ofInt i).truncate + 1) = false := by
      rw [Bool.eq_false_iff, Ne, Bits.fitsSigned_64_iff]
      omega
    have hreal : Affinity.integer.store (.real (Binary64.ofInt i)) = .real (Binary64.ofInt i) := by
      show Cell.ofWholeReal (Binary64.ofInt i) = _
      simp only [Cell.ofWholeReal, hrange, Bool.and_false, Bool.false_eq_true, ↓reduceIte]
    rw [hcell, if_neg (by omega), wantedNumber, hreal]

theorem eq_of_passes_wantedNumber {row : TableRow} (hi : Number.Fits i)
    (h : TableRow.passes row (wantedNumber (.ofJson (.ofInt i))) = true) :
    i < 2 ^ 63 ∧ row.number = i := by
  rw [wantedNumber_ofJson_ofInt hi] at h
  by_cases hlt : i < 2 ^ 63
  · rw [if_pos hlt] at h
    exact ⟨hlt, eq_of_beq h⟩
  · rw [if_neg hlt] at h
    cases h

/-- A name that is no column is not equal to a number. -/
theorem eq_of_passes_wantedBeside {row : TableRow} (hi : Number.Fits i)
    (h : TableRow.passes row (t.wantedBeside field (.ofJson (.ofInt i))) = true) :
    i < 2 ^ 63 ∧ row.number = i := by
  unfold wantedBeside at h
  split at h
  · exact eq_of_passes_wantedNumber hi h
  · have hliteral : (Cell.text field).equals (.ofJson (.ofInt i)) = true := h
    rw [Cell.equals_iff_units? (Cell.units?_ofJson_ofInt hi)] at hliteral
    cases hliteral

/-- A row is one that is found by a value of a field. -/
def FoundBy (t : Table) (field : String) (v : Json) (row : TableRow) : Prop :=
  TableRow.passes row (t.wanted field (.ofJson v)) = true

instance (t : Table) (field : String) (v : Json) (row : TableRow) :
    Decidable (t.FoundBy field v row) := inferInstanceAs (Decidable (_ = true))

/-- A row that is found by a whole number is found by another one if and only if the column that is
searched confuses them. -/
theorem foundBy_two_iff {row : TableRow} (hi : Number.Fits i) (hj : Number.Fits j) (hne : i ≠ j)
    (h : t.FoundBy field (.ofInt i) row) :
    t.FoundBy field (.ofInt j) row ↔
      ∃ c, t.columns.find? (fun c => sameName c.name field) = some c ∧ c.affinity.Confuses i j := by
  unfold FoundBy at h ⊢
  cases hcolumn : t.columns.find? fun c => sameName c.name field with
  | none =>
    have hbeside (value : Cell) : t.wanted field value = t.wantedBeside field value := by
      have hnone : wantedIn? field value t.columns 0 = none := by
        rw [wantedIn?_eq_none_iff]
        rintro ⟨c, hc, hname⟩
        exact List.find?_eq_none.mp hcolumn c hc hname
      rw [wanted, hnone, Option.getD_none]
    rw [hbeside] at h
    obtain ⟨_, hnumber⟩ := eq_of_passes_wantedBeside hi h
    constructor
    · intro hother
      rw [hbeside] at hother
      exact absurd (hnumber.symm.trans (eq_of_passes_wantedBeside hj hother).2) hne
    · rintro ⟨c, hc, _⟩
      cases hc
  | some c =>
    obtain ⟨index, hindex⟩ := wantedIn?_of_find? hcolumn 0
    have hwanted (value : Cell) : t.wanted field value =
        if c.holdsRowNumber then wantedNumber value
        else .cell index c.collation (c.affinity.compare value) := by
      rw [wanted, hindex, Option.getD_some]
    have hsame : (∃ d, some c = some d ∧ d.affinity.Confuses i j) ↔ c.affinity.Confuses i j := by
      simp
    rw [hwanted] at h
    rw [hwanted, hsame]
    by_cases hrow : c.holdsRowNumber = true
    · rw [if_pos hrow] at h ⊢
      obtain ⟨hlt, hnumber⟩ := eq_of_passes_wantedNumber hi h
      constructor
      · exact fun hother => absurd (hnumber.symm.trans (eq_of_passes_wantedNumber hj hother).2) hne
      · exact fun hconfuses => absurd hconfuses.1 (by omega)
    · rw [if_neg hrow] at h ⊢
      exact Affinity.equals_two_iff hi hj hne h

end Table

/-! ## Answers -/

namespace Disk

/-- What is not unique is a row's. -/
theorem exists_row_of_not_unique {s s' : Session Disk Handle} {h : Handle}
    (hs : s.connect backend = (.ok h, s')) {recordKind field : String} {t : Table}
    (ht : s'.world.tableOf? h recordKind = some t) {v : Json}
    (hanswer : (s.evaluate backend ⟨recordKind, field, v, .unique⟩).1 = .ok false) :
    ∃ row ∈ t.rows, t.FoundBy field v row := by
  rw [evaluate_of_connect hs] at hanswer
  cases hn : Database.badName? recordKind field with
  | some name =>
    rw [found_of_badName hn] at hanswer
    cases hanswer
  | none =>
    rw [found_ok hn ht] at hanswer
    cases hrow : t.findRow field (.ofJson v) with
    | none =>
      rw [hrow] at hanswer
      cases hanswer
    | some row =>
      obtain ⟨hm, hpasses⟩ := Table.passes_of_findRow hrow
      exact ⟨row, hm, hpasses⟩

/-- **Whole numbers.** A row that is found by a whole number is found by another one if and only if
the column takes both for the same, which it never does if one of them is in the signed range. So if
a number is said not to be unique, there is a row that no other number finds, unless both are beyond
the signed range. -/
theorem integers_told_apart {s s' : Session Disk Handle} {h : Handle}
    (hs : s.connect backend = (.ok h, s')) {recordKind field : String} {t : Table}
    (ht : s'.world.tableOf? h recordKind = some t) {i : Int} (hi : Number.Fits i) :
    (∀ row j, Number.Fits j → i ≠ j → t.FoundBy field (.ofInt i) row →
      (t.FoundBy field (.ofInt j) row ↔
        ∃ c, t.columns.find? (fun c => sameName c.name field) = some c ∧
          c.affinity.Confuses i j)) ∧
    (∀ row j, Number.Fits j → i ≠ j → i < 2 ^ 63 ∨ j < 2 ^ 63 →
      ¬(t.FoundBy field (.ofInt i) row ∧ t.FoundBy field (.ofInt j) row)) ∧
    ((s.evaluate backend ⟨recordKind, field, .ofInt i, .unique⟩).1 = .ok false →
      ∃ row ∈ t.rows, t.FoundBy field (.ofInt i) row ∧
        ∀ j, Number.Fits j → i ≠ j → t.FoundBy field (.ofInt j) row →
          2 ^ 63 ≤ i ∧ 2 ^ 63 ≤ j) := by
  have hbeyond {row : TableRow} {j : Int} (hj : Number.Fits j) (hne : i ≠ j)
      (hfound : t.FoundBy field (.ofInt i) row) (hother : t.FoundBy field (.ofInt j) row) :
      2 ^ 63 ≤ i ∧ 2 ^ 63 ≤ j := by
    obtain ⟨c, _, hi, hj, _⟩ := (Table.foundBy_two_iff hi hj hne hfound).mp hother
    exact ⟨hi, hj⟩
  refine ⟨fun row j hj hne hfound => Table.foundBy_two_iff hi hj hne hfound, ?_, fun hanswer => ?_⟩
  · rintro row j hj hne hsigned ⟨hfound, hother⟩
    have hboth := hbeyond hj hne hfound hother
    omega
  · obtain ⟨row, hm, hfound⟩ := exists_row_of_not_unique hs ht hanswer
    exact ⟨row, hm, hfound, fun j hj hne hother => hbeyond hj hne hfound hother⟩

/-- Counters with totals, one of them the least number beyond the signed range. -/
def counters : Table :=
  { Table.empty "Counter" [{ Column.plain "total" with affinity := .integer }] .none "" with
    rows := [⟨1, [.ofJson (.ofInt 7)]⟩, ⟨2, [.ofJson (.ofInt 9223372036854775808)]⟩] }

/-- A session that is connected to a database of counters. -/
def counting : Session Disk Handle :=
  ⟨⟨.ready (.file "app.db"), 1⟩, ⟨[("app.db", .database [counters])], [], .sqlite "app.db"⟩⟩

/-- A small total is found by itself only. -/
theorem integers_told_apart_seven :
    (counting.evaluate backend ⟨"Counter", "total", .ofInt 7, .unique⟩).1 = .ok false ∧
      ∃ row ∈ counters.rows, counters.FoundBy "total" (.ofInt 7) row ∧
        ∀ j, Number.Fits j → 7 ≠ j → ¬counters.FoundBy "total" (.ofInt j) row := by
  have hs : counting.connect backend = (.ok (.file "app.db"), counting) := rfl
  have ht : counting.world.tableOf? (.file "app.db") "Counter" = some counters := rfl
  have hanswer : (counting.evaluate backend ⟨"Counter", "total", .ofInt 7, .unique⟩).1 =
      .ok false := rfl
  obtain ⟨_, _, hunique⟩ := @integers_told_apart _ _ _ hs "Counter" "total" _ ht 7 (by decide)
  obtain ⟨row, hm, hfound, hothers⟩ := hunique hanswer
  refine ⟨hanswer, row, hm, hfound, fun j hj hne hother => ?_⟩
  exact absurd (hothers j hj hne hother).1 (by decide)

/-- The least number beyond the signed range and its successor find the same row, so that the
successor is said not to be unique, though only the other one is there. -/
theorem integers_beyond_confused :
    let row : TableRow := ⟨2, [.ofJson (.ofInt 9223372036854775808)]⟩
    row ∈ counters.rows ∧ counters.FoundBy "total" (.ofInt 9223372036854775808) row ∧
      counters.FoundBy "total" (.ofInt 9223372036854775809) row ∧
      (counting.evaluate backend
        ⟨"Counter", "total", .ofInt 9223372036854775809, .unique⟩).1 = .ok false := by
  intro row
  have hs : counting.connect backend = (.ok (.file "app.db"), counting) := rfl
  have ht : counting.world.tableOf? (.file "app.db") "Counter" = some counters := rfl
  have hnames : Database.badName? "Counter" "total" = none := by decide
  have hfound :
      (counters.findRow "total" (.ofJson (.ofInt 9223372036854775809))).isSome = true := by
    decide +kernel
  refine ⟨List.mem_cons_of_mem _ (List.mem_cons_self ..), by decide +kernel, by decide +kernel, ?_⟩
  rw [evaluate_of_connect hs, found_ok hnames ht, hfound]
  rfl

end Disk

end Rulebook
