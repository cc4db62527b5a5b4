import Mathlib.Data.List.TakeWhile
import Rulebook.Store.Affinity
import Rulebook.Store.Collation

/-!
# Texts of numbers

A column of texts stores numbers as their texts, and compares them so. These have none of the
characters that collations treat in a way of their own, so they are the same only if they are equal.
A real number is written with a point and a whole number without one, so that no text stands for
both.

* `isNumeral_toString`, `isNumeral_ofReal`: the characters of numbers;
* `point_not_mem_toString`, `point_mem_ofReal`: whole and real numbers;
* `toString_inj`: whole numbers have different texts;
* `Collation.eq_of_same`: texts of numbers under a collation.
-/

namespace Rulebook

/-! ## Characters -/

/-- A text that only has characters which numbers are written with. -/
def IsNumeral (text : List Char) : Prop :=
  ∀ c ∈ text, c.isDigit = true ∨ c = '-' ∨ c = '+' ∨ c = '.' ∨ c = 'e'

theorem isNumeral_append {s t : List Char} :
    IsNumeral (s ++ t) ↔ IsNumeral s ∧ IsNumeral t :=
  List.forall_mem_append

theorem isNumeral_of_digits {digits : List Char} (h : ∀ c ∈ digits, c.isDigit = true) :
    IsNumeral digits :=
  fun c hc => .inl (h c hc)

theorem isDigit_of_mem_toDigits {n : Nat} : ∀ c ∈ Nat.toDigits 10 n, c.isDigit = true :=
  fun _ hc => Nat.isDigit_of_mem_toDigits (by decide) (by decide) hc

theorem isNumeral_zeros (n : Nat) : IsNumeral (Decimal.zeros n) := by
  refine isNumeral_of_digits fun c hc => ?_
  rw [List.eq_of_mem_replicate hc]
  decide

/-! ## Real numbers -/

theorem isNumeral_positional {digits : List Char} (h : IsNumeral digits) (point : Bool)
    (whole : Int) : IsNumeral (Decimal.positional point digits whole) := by
  unfold Decimal.positional
  split
  · have hzero : IsNumeral ['0', '.'] := by simp [IsNumeral]
    exact isNumeral_append.mpr ⟨hzero, isNumeral_append.mpr ⟨isNumeral_zeros _, h⟩⟩
  · split
    · refine isNumeral_append.mpr ⟨isNumeral_append.mpr ⟨h, isNumeral_zeros _⟩, ?_⟩
      cases point <;> simp [IsNumeral]
    · have hpoint : IsNumeral ['.'] := by simp [IsNumeral]
      have htake : IsNumeral (digits.take whole.toNat) := fun c hc => h c (List.mem_of_mem_take hc)
      have hdrop : IsNumeral (digits.drop whole.toNat) := fun c hc => h c (List.mem_of_mem_drop hc)
      exact isNumeral_append.mpr ⟨htake, isNumeral_append.mpr ⟨hpoint, hdrop⟩⟩

theorem point_mem_positional (digits : List Char) (whole : Int) :
    '.' ∈ Decimal.positional true digits whole := by
  unfold Decimal.positional
  split
  · simp
  · split <;> simp

theorem isNumeral_exponentText (width : Nat) (exponent : Int) :
    IsNumeral (Decimal.exponentText width exponent) := by
  have hsign : IsNumeral ['e', if exponent < 0 then '-' else '+'] := by
    split <;> simp [IsNumeral]
  have hdigits : IsNumeral (Nat.toDigits 10 exponent.natAbs) :=
    isNumeral_of_digits isDigit_of_mem_toDigits
  exact isNumeral_append.mpr ⟨hsign, isNumeral_append.mpr ⟨isNumeral_zeros _, hdigits⟩⟩

theorem isNumeral_layout (layout : Decimal.Layout) (d : Decimal) :
    IsNumeral (layout.text d) := by
  have hdigits : IsNumeral (Nat.toDigits 10 d.digits) :=
    isNumeral_of_digits isDigit_of_mem_toDigits
  unfold Decimal.Layout.text
  extract_lets digits leading
  split
  · exact isNumeral_positional hdigits _ _
  · exact isNumeral_append.mpr ⟨isNumeral_positional hdigits _ _, isNumeral_exponentText _ _⟩

theorem point_mem_layout {layout : Decimal.Layout} (hp : layout.pointInPositional = true)
    (hs : layout.pointInScientific = true) (d : Decimal) : '.' ∈ layout.text d := by
  unfold Decimal.Layout.text
  extract_lets digits leading
  rw [hp, hs]
  split
  · exact point_mem_positional _ _
  · exact List.mem_append_left _ (point_mem_positional _ _)

theorem isNumeral_ofReal (x : Binary64) : IsNumeral (NumberText.ofReal x).toList := by
  rw [NumberText.ofReal, String.toList_ofList]
  refine isNumeral_append.mpr ⟨?_, isNumeral_layout _ _⟩
  split <;> simp [IsNumeral]

/-- A real number is written with a point, whatever its size. -/
theorem point_mem_ofReal (x : Binary64) : '.' ∈ (NumberText.ofReal x).toList := by
  rw [NumberText.ofReal, String.toList_ofList]
  exact List.mem_append_right _ (point_mem_layout rfl rfl _)

/-! ## Whole numbers -/

theorem toList_toString (i : Int) :
    (toString i).toList = (if i < 0 then ['-'] else []) ++ Nat.toDigits 10 i.natAbs := by
  cases i with
  | ofNat n =>
    have htext : toString (Int.ofNat n) = Nat.repr n := rfl
    have hpos : ¬Int.ofNat n < 0 := by simp
    rw [htext, Nat.toList_repr, if_neg hpos]
    rfl
  | negSucc n =>
    have htext : toString (Int.negSucc n) = "-" ++ Nat.repr (n + 1) := rfl
    rw [htext, String.toList_append, Nat.toList_repr, if_pos (Int.negSucc_lt_zero n)]
    rfl

theorem isNumeral_toString (i : Int) : IsNumeral (toString i).toList := by
  rw [toList_toString]
  refine isNumeral_append.mpr ⟨?_, isNumeral_of_digits isDigit_of_mem_toDigits⟩
  split <;> simp [IsNumeral]

theorem not_isDigit_of_mem_toDigits {c : Char} (hc : c.isDigit = false) (n : Nat) :
    c ∉ Nat.toDigits 10 n := by
  intro hm
  rw [isDigit_of_mem_toDigits c hm] at hc
  cases hc

theorem point_not_mem_toString (i : Int) : '.' ∉ (toString i).toList := by
  rw [toList_toString, List.mem_append, not_or]
  refine ⟨?_, not_isDigit_of_mem_toDigits (by decide) _⟩
  split <;> simp

theorem minus_mem_toString_iff (i : Int) : '-' ∈ (toString i).toList ↔ i < 0 := by
  have hdigits := not_isDigit_of_mem_toDigits (c := '-') (by decide) i.natAbs
  rw [toList_toString, List.mem_append, or_iff_left hdigits]
  split
  · next h => simp [h]
  · next h => simp [h]

theorem toString_inj {i j : Int} (h : toString i = toString j) : i = j := by
  have hsign : i < 0 ↔ j < 0 := by
    rw [← minus_mem_toString_iff, ← minus_mem_toString_iff, h]
  have hlist : Nat.toDigits 10 i.natAbs = Nat.toDigits 10 j.natAbs := by
    have hboth := congrArg String.toList h
    simp only [toList_toString, hsign] at hboth
    exact List.append_cancel_left hboth
  have habs : i.natAbs = j.natAbs :=
    calc i.natAbs = Nat.ofDigitChars 10 (Nat.toDigits 10 i.natAbs) 0 :=
          Nat.ofDigitChars_ten_toDigits.symm
      _ = Nat.ofDigitChars 10 (Nat.toDigits 10 j.natAbs) 0 := by rw [hlist]
      _ = j.natAbs := Nat.ofDigitChars_ten_toDigits
  omega

/-! ## Collations -/

theorem plain_of_isNumeral {text : List Char} (h : IsNumeral text) {c : Char} (hc : c ∈ text) :
    c ≠ '\x00' ∧ c ≠ ' ' ∧ c.toLower = c := by
  rcases h c hc with hdigit | rfl | rfl | rfl | rfl
  · refine ⟨?_, ?_, ?_⟩
    · rintro rfl
      exact absurd hdigit (by decide)
    · rintro rfl
      exact absurd hdigit (by decide)
    · have hcode : ¬ (c.val ≥ 'A'.val ∧ c.val ≤ 'Z'.val) := by grind [Char.isDigit]
      exact dif_neg hcode
  · decide
  · decide
  · decide
  · decide

/-- Texts of numbers are the same under a collation only if they are equal. -/
theorem Collation.eq_of_same {c : Collation} {s t u : String} (ht : IsNumeral t.toList)
    (hu : IsNumeral u.toList) (hst : c.same s t = true) (hsu : c.same s u = true) : t = u := by
  cases c with
  | binary => exact (eq_of_beq hst).symm.trans (eq_of_beq hsu)
  | noCase =>
    have hkey (w : String) (hw : IsNumeral w.toList) :
        (beforeNul w).map Char.toLower = w.toList := by
      have hnul : beforeNul w = w.toList :=
        List.takeWhile_eq_self_iff.mpr fun c hc => by simpa using (plain_of_isNumeral hw hc).1
      calc (beforeNul w).map Char.toLower = w.toList.map Char.toLower := by rw [hnul]
        _ = w.toList.map id := List.map_congr_left fun c hc => (plain_of_isNumeral hw hc).2.2
        _ = w.toList := List.map_id _
    simp only [same, Bool.and_eq_true, beq_iff_eq] at hst hsu
    rw [hkey t ht] at hst
    rw [hkey u hu] at hsu
    exact String.toList_inj.mp (hst.2.symm.trans hsu.2)
  | trimRight =>
    have hkey (w : String) (hw : IsNumeral w.toList) :
        w.toList.reverse.dropWhile (· == ' ') = w.toList.reverse := by
      cases hrev : w.toList.reverse with
      | nil => rfl
      | cons c rest =>
        have hc : c ∈ w.toList := List.mem_reverse.mp (hrev ▸ List.mem_cons_self ..)
        exact List.dropWhile_cons_of_neg (by simpa using (plain_of_isNumeral hw hc).2.1)
    simp only [same, beq_iff_eq] at hst hsu
    rw [hkey t ht] at hst
    rw [hkey u hu] at hsu
    exact String.toList_inj.mp (List.reverse_inj.mp (hst.symm.trans hsu))

end Rulebook
